import Wsd.Types

namespace wsd

/-- The faults which a handler's caller has to exclude: a handler which is not
    installed, a closing handshake which has begun, a decided close, and a receive
    buffer without bytes. -/
def Fault.Watched (fault : Fault) : Prop :=
  fault ∈ [.null_function, .assertion .ws_start_closing_handshake_closing, .assertion .ws_ping_closing,
    .assertion .ws_pong_closing, .assertion .http_recv_rdsz, .assertion .ws_recv_rdsz, .assertion .pp2_recv_rdsz,
    .assertion .on_read_close_on_write, .assertion .on_read_close]

instance (fault : Fault) : Decidable fault.Watched :=
  inferInstanceAs (Decidable (_ ∈ _))

/-- A watched fault, or an access to freed memory. -/
def Fault.Guarded (fault : Fault) : Prop :=
  fault = .use_after_free ∨ fault.Watched

instance (fault : Fault) : Decidable fault.Guarded :=
  inferInstanceAs (Decidable (_ ∨ _))

/-- The computation returns, or ends with a fault of another kind. -/
def Avoids (P : Fault → Prop) {α : Type} (x : Except Fault α) : Prop :=
  ∀ fault, x = .error fault → ¬ P fault

namespace Avoids

variable {P Q : Fault → Prop} {α β : Type} {x : Except Fault α} {f : α → Except Fault β} {fault : Fault}

theorem ok (a : α) : Avoids P (.ok a) := by
  intro fault h
  cases h

theorem error (h : ¬ P fault) : Avoids P (.error fault : Except Fault α) := by
  intro fault' h'
  cases h'
  exact h

theorem bind (hx : Avoids P x) (hf : ∀ a, x = .ok a → Avoids P (f a)) : Avoids P (x >>= f) := by
  intro fault h
  obtain h | ⟨a, ha, h⟩ := Except.bind_eq_error_iff.mp h
  · exact hx fault h
  · exact hf a ha fault h

theorem assert {failed : Assertion} (exp : Bool) (h : ¬ P (.assertion failed)) : Avoids P (assert failed exp) := by
  cases exp with
  | true => exact ok ()
  | false => exact error h

theorem ite {b : Prop} [Decidable b] {x y : Except Fault α} (hx : b → Avoids P x) (hy : ¬ b → Avoids P y) :
    Avoids P (if b then x else y) := by
  split
  · rename_i hb
    exact hx hb
  · rename_i hb
    exact hy hb

theorem mono (h : Avoids P x) (hPQ : ∀ fault, Q fault → P fault) : Avoids Q x :=
  fun fault hfault hQ => h fault hfault (hPQ fault hQ)

end Avoids

/-- The computation returns, or ends with a fault which is not watched. -/
abbrev Unwatched {α : Type} (x : Except Fault α) : Prop :=
  Avoids Fault.Watched x

/-- The same, and it does not access freed memory either. -/
abbrev Unguarded {α : Type} (x : Except Fault α) : Prop :=
  Avoids Fault.Guarded x

/-- The computation does not access freed memory. -/
abbrev Live {α : Type} (x : Except Fault α) : Prop :=
  Avoids (· = .use_after_free) x

section Kinds

variable {α : Type} {x : Except Fault α}

theorem Avoids.unwatched (h : Unguarded x) : Unwatched x :=
  h.mono fun _ => .inr

theorem Avoids.live (h : Unguarded x) : Live x :=
  h.mono fun _ => .inl

end Kinds

end wsd

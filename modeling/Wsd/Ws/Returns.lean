import Wsd.Ws.Effect

namespace wsd

/-- A call returns, where others end the process. -/
def Returns {α : Type} (x : Except Fault α) : Prop :=
  ∃ a, x = .ok a

namespace Returns

variable {α β : Type} {x : Except Fault α} {f : α → Except Fault β}

@[simp] theorem ok (a : α) : Returns (.ok a) :=
  ⟨a, rfl⟩

end Returns

section Encoders

variable {dst : Skb} {sk : Sk} {do_mask : Bool} {wsd_errno : Errno}

end Encoders

end wsd

import Wsd.Http.Message
import Wsd.Http.Progress

namespace wsd

/-- `skip_while` along with the places which it reads. -/
def skip_while_traced (pred : UInt8 → Bool) (data : Memory UInt8) : Nat → Nat → Except Fault (Nat × List Nat)
  | 0, _ => .error .out_of_bounds
  | fuel + 1, cur =>
    if pred (data cur) then do
      let (stop, reads) ← skip_while_traced pred data fuel (cur + 1)
      return (stop, cur :: reads)
    else
      .ok (cur + 1, [cur])

/-- `http_header_tok` along with the places which it reads. The line end is
    compared as a `short`, whose two bytes are both read. -/
def http_header_tok_traced (data : Memory UInt8) (s prev : Option Nat) :
    Except Fault ((Int × Chunk × Option Nat × Errno) × List Nat) := do
  let cur := if s.isNone then prev else s
  let prev := if s.isNone then prev else none
  match cur with
  | none => return ((-1, .null, prev, .WSD_EINPUT), [])
  | some start =>
    let (cur, reads) ←
      if prev.isNone then
        skip_while_traced is_rfc7230_start_line data (SKB_SIZE - start) start
      else do
        let (cur, reads) ← skip_while_traced is_rfc7230_header_field data (SKB_SIZE - start) start
        if data (cur - 1) ≠ COLON then
          pure (cur, reads ++ [cur - 1])
        else do
          let (cur', reads') ← skip_while_traced is_rfc7230_field_value data (SKB_SIZE - cur) cur
          pure (cur', reads ++ [cur - 1] ++ reads')
    let reads := reads ++ [cur - 1, cur]
    if data (cur - 1) = CR ∧ data cur = LF then
      return ((i32 (cur - start - 1), { p := some start, len := cur - start - 1 }, some (cur + 1), .WSD_CHECKERRNO), reads)
    else
      return ((-1, .null, prev, .WSD_ECHAR), reads)

section Traced

variable (data : Memory UInt8)

/-- The loop reads what it passes, and the character which it stops at. -/
theorem skip_while_traced_eq (pred : UInt8 → Bool) (fuel cur : Nat) :
    skip_while_traced pred data fuel cur =
      (skip_while pred data fuel cur).map fun stop => (stop, List.range' cur (stop - cur)) := by
  induction fuel generalizing cur with
  | zero => rfl
  | succ fuel ih =>
    unfold skip_while_traced skip_while
    by_cases hpred : pred (data cur) = true
    · rw [if_pos hpred, if_pos hpred, ih]
      cases hskip : skip_while pred data fuel (cur + 1) with
      | error fault => rfl
      | ok stop =>
        obtain ⟨n, -, hstop, -⟩ := skip_while_inv hskip
        have hlen : stop - cur = stop - (cur + 1) + 1 := by omega
        simp only [Except.map, Except.ok_bind, Except.pure_eq_ok]
        rw [hlen, List.range'_succ]
    · rw [if_neg hpred, if_neg hpred]
      simp only [Except.map, Nat.add_sub_cancel_left]
      rfl

theorem map_fst_ite {ε α β : Type} {p : Prop} [Decidable p] (a a' : α) (b : β) :
    ((if p then .ok (a, b) else .ok (a', b) : Except ε (α × β)).map Prod.fst) = if p then .ok a else .ok a' := by
  split <;> rfl

/-- Without the places, the traced tokeniser is the tokeniser. -/
theorem http_header_tok_traced_fst (s prev : Option Nat) :
    (http_header_tok_traced data s prev).map Prod.fst = http_header_tok data s prev := by
  unfold http_header_tok_traced http_header_tok
  simp only [skip_while_traced_eq, Except.pure_eq_ok]
  cases (if s.isNone then prev else s) with
  | none => rfl
  | some start =>
    simp only
    by_cases hfirst : (if s.isNone then prev else none).isNone = true
    · rw [if_pos hfirst, if_pos hfirst]
      cases skip_while is_rfc7230_start_line data (SKB_SIZE - start) start with
      | error fault => rfl
      | ok cur => exact map_fst_ite _ _ _
    · rw [if_neg hfirst, if_neg hfirst]
      cases skip_while is_rfc7230_header_field data (SKB_SIZE - start) start with
      | error fault => rfl
      | ok cur =>
        simp only [Except.map, Except.ok_bind]
        by_cases hcolon : data (cur - 1) ≠ COLON
        · simp only [if_pos hcolon]
          exact map_fst_ite _ _ _
        · simp only [if_neg hcolon]
          cases skip_while is_rfc7230_field_value data (SKB_SIZE - cur) cur with
          | error fault => rfl
          | ok cur' => exact map_fst_ite _ _ _

variable {data} {r start : Nat}

/-- The traced loop stops at a carriage return at the latest, and reads nothing behind it. -/
theorem skip_while_traced_stops {pred : UInt8 → Bool} {e : Nat} (hpred : pred CR = false) (hle : start ≤ e)
    (hlt : e < SKB_SIZE) (hcr : data e = CR) :
    ∃ n, skip_while_traced pred data (SKB_SIZE - start) start = .ok (start + n + 1, List.range' start (n + 1)) ∧
      start + n ≤ e := by
  obtain ⟨n, hskip, hafter⟩ := skip_while_stops hpred hle hlt hcr
  refine ⟨n, ?_, hafter e hle hcr⟩
  rw [skip_while_traced_eq, hskip]
  simp only [Except.map, Nat.add_assoc, Nat.add_sub_cancel_left]

/-- Where a line end is ahead, the tokeniser reads nothing behind the two bytes of the next line end. -/
theorem http_header_tok_traced_le {s prev : Option Nat} {e : Nat} (hcur : (if s.isNone then prev else s) = some start)
    (hle : start ≤ e) (hlt : e < SKB_SIZE) (hcr : data e = CR) :
    ∃ result reads, http_header_tok_traced data s prev = .ok (result, reads) ∧ ∀ i ∈ reads, start ≤ i ∧ i ≤ e + 1 := by
  have hscan : ∃ cur reads, start < cur ∧ cur ≤ e + 1 ∧ (∀ i ∈ reads, start ≤ i ∧ i ≤ e) ∧
      http_header_tok_traced data s prev = (if data (cur - 1) = CR ∧ data cur = LF then
        .ok ((i32 (cur - start - 1), { p := some start, len := cur - start - 1 }, some (cur + 1), .WSD_CHECKERRNO),
          reads ++ [cur - 1, cur])
      else .ok ((-1, .null, if s.isNone then prev else none, .WSD_ECHAR), reads ++ [cur - 1, cur])) := by
    unfold http_header_tok_traced
    rw [hcur]
    simp only
    by_cases hfirst : (if s.isNone then prev else none).isNone = true
    · obtain ⟨n, hline, hstop⟩ := @skip_while_traced_stops data start is_rfc7230_start_line e (by decide) hle hlt hcr
      rw [if_pos hfirst, hline]
      refine ⟨start + n + 1, _, by omega, by omega, fun i hi => ?_, rfl⟩
      rw [List.mem_range'_1] at hi
      omega
    · obtain ⟨n, hname, hstop⟩ := @skip_while_traced_stops data start is_rfc7230_header_field e (by decide) hle hlt hcr
      rw [if_neg hfirst, hname]
      simp only [Except.ok_bind, Nat.add_sub_cancel]
      by_cases hcolon : data (start + n) = COLON
      · have hne : start + n ≠ e := fun heq => by
          rw [← heq, hcolon] at hcr
          exact absurd hcr (by decide)
        obtain ⟨m, hvalue, hstop'⟩ := @skip_while_traced_stops data (start + n + 1) is_rfc7230_field_value e (by decide)
          (by omega) hlt hcr
        rw [if_neg (not_not.mpr hcolon), hvalue]
        refine ⟨start + n + 1 + m + 1, _, by omega, by omega, fun i hi => ?_, rfl⟩
        rw [List.mem_append, List.mem_append, List.mem_range'_1, List.mem_singleton, List.mem_range'_1] at hi
        omega
      · rw [if_pos hcolon]
        refine ⟨start + n + 1, _, by omega, by omega, fun i hi => ?_, rfl⟩
        rw [List.mem_append, List.mem_range'_1, List.mem_singleton] at hi
        omega
  obtain ⟨cur, reads, hlow, hhigh, hreads, htok⟩ := hscan
  have hall : ∀ i ∈ reads ++ [cur - 1, cur], start ≤ i ∧ i ≤ e + 1 := by
    intro i hi
    obtain hi | hi := List.mem_append.mp hi
    · have hbound := hreads i hi
      omega
    · rw [List.mem_cons, List.mem_singleton] at hi
      omega
  rw [htok]
  split
  · exact ⟨_, _, rfl, hall⟩
  · exact ⟨_, _, rfl, hall⟩

end Traced

/-- The calls of the tokeniser for one input: the first, and those which resume until a result is
    not positive. -/
inductive HeaderCall (data : Memory UInt8) (input : Nat) (static : Option Nat) : Option Nat → Option Nat → Prop
  | first : HeaderCall data input static (some input) static
  | resume {s prev prev' : Option Nat} {rv : Int} {tok : Chunk} {wsd_errno : Errno}
      (hcall : HeaderCall data input static s prev)
      (htok : http_header_tok data s prev = .ok (rv, tok, prev', wsd_errno)) (hrv : 0 < rv) :
      HeaderCall data input static none prev'

section Calls

variable {data : Memory UInt8} {r input : Nat} {static s prev : Option Nat}

/-- Every call starts at a line which begins in front of the empty line's end. -/
theorem HeaderCall.lineStart (h : HeaderCall data input static s prev) (hle : input ≤ r) (hrnrn : Rnrn data r) :
    ∃ start, (if s.isNone then prev else s) = some start ∧ LineStart r start ∧ input ≤ start := by
  induction h with
  | first => exact ⟨input, rfl, .inl hle, Nat.le_refl _⟩
  | @resume s prev prev' rv tok e hcall htok hrv ih =>
    obtain ⟨start, hcur, hline, hfrom⟩ := ih
    obtain ⟨_, _, hbad⟩ | ⟨len, hgood, hnext⟩ := http_header_tok_cases hcur hline hrnrn
    · rw [hbad] at htok
      cases htok
      exact absurd hrv (by decide)
    · rw [hgood] at htok
      cases htok
      exact ⟨start + len + 2, rfl, hnext (by omega), by omega⟩

/-- No call reads behind the end of the header block. -/
theorem HeaderCall.reads (h : HeaderCall data input static s prev) (hle : input ≤ r) (hrnrn : Rnrn data r) :
    ∃ result reads, http_header_tok_traced data s prev = .ok (result, reads) ∧
      ∀ i ∈ reads, input ≤ i ∧ i ≤ r + 3 := by
  have hlt := hrnrn.lt
  obtain ⟨start, hcur, hline, hfrom⟩ := h.lineStart hle hrnrn
  obtain ⟨e, hbefore, hend, hcr⟩ := hline.exists_cr hrnrn
  obtain ⟨result, reads, htok, hreads⟩ := http_header_tok_traced_le hcur hbefore (by omega) hcr
  refine ⟨result, reads, htok, fun i hi => ?_⟩
  have hbound := hreads i hi
  omega

end Calls

/-- Two line ends in a row among the readable bytes. -/
theorem Skb.Ok.rnrn {b : Skb} (hok : b.Ok) {before after : List UInt8}
    (h : b.readable = before ++ ([CR, LF, CR, LF] ++ after)) : Rnrn b.data (b.rdpos + before.length) := by
  have hlen := b.length_readable
  have hsize := hok.wrpos_le
  rw [h, List.length_append, List.length_append] at hlen
  simp only [List.length_cons, List.length_nil] at hlen
  have hwindow : b.data.window (b.rdpos + before.length) 4 = [CR, LF, CR, LF] := by
    have hdrop := congrArg (fun l => (l.drop before.length).take 4) h
    simp only [List.drop_left] at hdrop
    rw [Skb.readable, Memory.drop_window _ (by omega), Memory.take_window _ (by omega)] at hdrop
    exact hdrop
  simp only [Memory.window_succ, Memory.window_zero, List.cons.injEq, and_true] at hwindow
  obtain ⟨hcr, hlf, hcr', hlf'⟩ := hwindow
  exact ⟨hcr, hlf, hcr', hlf', by omega⟩

/-- The tokeniser splits the head of a message into its lines, and of a buffer with two line ends in
    a row it reads nothing behind these. -/
theorem http_header_tok_exact {b : Skb} (hok : b.Ok) (static : Option Nat) :
    (∀ (m : HeaderMessage) (rest : List UInt8), b.readable = m.text ++ rest →
      header_toks b.data m.lines.length (some b.rdpos) static = .ok (lineToks b.rdpos m.lines) ∧
        (lineToks b.rdpos m.lines).map (fun r => r.2.bytes b.data) = m.lines) ∧
    (∀ before after : List UInt8, b.readable = before ++ ([CR, LF, CR, LF] ++ after) →
      ∀ s prev, HeaderCall b.data b.rdpos static s prev →
        ∃ result reads, http_header_tok_traced b.data s prev = .ok (result, reads) ∧
          http_header_tok b.data s prev = .ok result ∧
          ∀ i ∈ reads, b.rdpos ≤ i ∧ i < b.rdpos + (before ++ [CR, LF, CR, LF]).length) := by
  constructor
  · intro m rest h
    have hlen := b.length_readable
    have hle := hok.rdpos_le
    have hsize := hok.wrpos_le
    rw [h, List.length_append] at hlen
    have hbytes : b.data.window b.rdpos m.text.length = m.text := by
      have htake := congrArg (List.take m.text.length) h
      rwa [List.take_left, Skb.readable, Memory.take_window _ (by omega)] at htake
    exact m.header_toks static hbytes (by omega)
  · intro before after h s prev hcall
    obtain ⟨result, reads, htok, hreads⟩ := hcall.reads (Nat.le_add_right _ _) (hok.rnrn h)
    refine ⟨result, reads, htok, ?_, fun i hi => ?_⟩
    · rw [← http_header_tok_traced_fst, htok]
      rfl
    · have hbound := hreads i hi
      simp only [List.length_append, List.length_cons, List.length_nil]
      omega

namespace Sample

def upgradeMessage : HeaderMessage where
  startLine := ascii "GET / HTTP/1.1"
  fields := [(ascii "Host", ascii " a"), (ascii "Upgrade", ascii " websocket")]
  start_class := by decide +kernel
  names := by decide +kernel
  values := by decide +kernel

/-- The message and what follows it, as read from a socket. -/
def received : Skb := Skb.ofBytes (upgradeMessage.text ++ [130, 0])

theorem received_ok : received.Ok := Skb.ok_ofBytes (by decide)

theorem received_readable : received.readable = upgradeMessage.text ++ [130, 0] := Skb.readable_ofBytes (by decide)

end Sample

theorem http_header_tok_exact_sample :
    header_toks Sample.received.data 4 (some Sample.received.rdpos) none =
        .ok (lineToks Sample.received.rdpos Sample.upgradeMessage.lines) ∧
      ∃ result reads, http_header_tok_traced Sample.received.data (some Sample.received.rdpos) none =
          .ok (result, reads) ∧ ∀ i ∈ reads, i < 47 := by
  constructor
  · exact ((http_header_tok_exact Sample.received_ok none).1 Sample.upgradeMessage [130, 0] Sample.received_readable).1
  · obtain ⟨result, reads, htok, -, hreads⟩ := (http_header_tok_exact Sample.received_ok none).2
      (ascii "GET / HTTP/1.1\r\nHost: a\r\nUpgrade: websocket") [130, 0]
      (Sample.received_readable.trans (by decide)) _ _ .first
    exact ⟨result, reads, htok, fun i hi => Nat.lt_of_lt_of_le (hreads i hi).2 (by decide)⟩

end wsd

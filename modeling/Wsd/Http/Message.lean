import Wsd.Http.Name

namespace wsd

/-- The results of `n` calls of the tokeniser, the first of which passes `s`. -/
def header_toks (data : Memory UInt8) : Nat → Option Nat → Option Nat → Except Fault (List (Int × Chunk))
  | 0, _, _ => .ok []
  | n + 1, s, prev => do
    let (rv, tok, prev, _) ← http_header_tok data s prev
    let toks ← header_toks data n none prev
    return (rv, tok) :: toks

/-- The head of a message: a start line, and header lines of a name, a colon and a value. -/
structure HeaderMessage where
  startLine : List UInt8
  fields : List (List UInt8 × List UInt8)
  start_class : ∀ c ∈ startLine, is_rfc7230_start_line c = true
  names : ∀ field ∈ fields, ∀ c ∈ field.1, is_rfc7230_header_field c = true
  values : ∀ field ∈ fields, ∀ c ∈ field.2, is_rfc7230_field_value c = true

namespace HeaderMessage

variable (m : HeaderMessage)

/-- The lines with their line ends, and the empty line. -/
def text : List UInt8 :=
  m.startLine ++ CR :: LF :: blockBytes m.fields

/-- The lines without their line ends, the last of which is empty. -/
def lines : List (List UInt8) :=
  m.startLine :: (m.fields.map (fun field => field.1 ++ COLON :: field.2) ++ [[]])

end HeaderMessage

/-- What the tokeniser returns for consecutive lines from `p` on: their lengths, and where they lie. -/
def lineToks : Nat → List (List UInt8) → List (Int × Chunk)
  | _, [] => []
  | p, line :: lines => (line.length, { p := some p, len := line.length }) :: lineToks (p + line.length + 2) lines

section Message

variable {data : Memory UInt8} {p : Nat} {line : List UInt8} {fields : List (List UInt8 × List UInt8)}

/-- The tokeniser cuts off a start line. -/
theorem http_header_tok_start (prev : Option Nat) (hline : data.window p line.length = line)
    (hclass : ∀ c ∈ line, is_rfc7230_start_line c = true) (hcr : data (p + line.length) = CR)
    (hlf : data (p + line.length + 1) = LF) (hlt : p + line.length < SKB_SIZE) :
    http_header_tok data (some p) prev =
      .ok (line.length, { p := some p, len := line.length }, some (p + line.length + 2), .WSD_CHECKERRNO) := by
  have hscan := scan_window hline hclass (by rw [hcr]; decide) hlt
  have hlen : p + line.length + 1 - p - 1 = line.length := by omega
  have hint : i32 line.length = line.length := i32_of_lt (by unfold SKB_SIZE at hlt; omega)
  unfold http_header_tok
  simp only [Option.isNone_some, Bool.false_eq_true, if_false, Option.isNone_none, if_true, hscan, Except.ok_bind,
    Nat.add_sub_cancel, hcr, hlf, and_self, hlen, hint, Except.pure_eq_ok]

/-- The calls which resume return the header lines one after the other, and then 0. -/
theorem Block.header_toks (h : Block data p fields) :
    header_toks data (fields.length + 1) none (some p) =
      .ok (lineToks p (fields.map (fun field => field.1 ++ COLON :: field.2) ++ [[]])) := by
  induction fields generalizing p with
  | nil =>
    rw [List.length_nil, wsd.header_toks, h.tok_end]
    rfl
  | cons field fields ih =>
    obtain ⟨name, value⟩ := field
    obtain ⟨hline, hcr, hlf, hrest⟩ := h.head
    have htok := http_header_tok_line hline (h.values _ List.mem_cons_self) hcr hlf
    have hlen : (name ++ COLON :: value).length = name.length + (value.length + 1) := by
      rw [List.length_append, List.length_cons]
    rw [List.length_cons, wsd.header_toks, htok]
    simp only [Except.ok_bind, ih hrest, Except.pure_eq_ok]
    rw [List.map_cons, List.cons_append, lineToks, hlen]
    rfl

/-- The chunks hold the lines. -/
theorem Block.lineToks_bytes (h : Block data p fields) :
    (lineToks p (fields.map (fun field => field.1 ++ COLON :: field.2) ++ [[]])).map (fun r => r.2.bytes data) =
      fields.map (fun field => field.1 ++ COLON :: field.2) ++ [[]] := by
  induction fields generalizing p with
  | nil => rfl
  | cons field fields ih =>
    obtain ⟨name, value⟩ := field
    obtain ⟨hline, hcr, hlf, hrest⟩ := h.head
    have hlen : (name ++ COLON :: value).length = name.length + (value.length + 1) := by
      rw [List.length_append, List.length_cons]
    rw [List.map_cons, List.cons_append, lineToks, List.map_cons, hlen, ih hrest]
    congr 1
    exact hline.bytes

/-- The start line and the block of a message at a position of the receive buffer. -/
theorem HeaderMessage.split {m : HeaderMessage} (hbytes : data.window p m.text.length = m.text)
    (hle : p + m.text.length ≤ SKB_SIZE) :
    data.window p m.startLine.length = m.startLine ∧ data (p + m.startLine.length) = CR ∧
      data (p + m.startLine.length + 1) = LF ∧ Block data (p + m.startLine.length + 2) m.fields := by
  rw [HeaderMessage.text, List.length_append] at hle
  rw [HeaderMessage.text, List.length_append, Memory.window_add] at hbytes
  obtain ⟨hstart, hrest⟩ := List.append_inj hbytes (Memory.length_window ..)
  simp only [List.length_cons] at hrest hle
  rw [Memory.window_succ, Memory.window_succ] at hrest
  obtain ⟨hcr, hrest⟩ := List.cons.inj hrest
  obtain ⟨hlf, hrest⟩ := List.cons.inj hrest
  exact ⟨hstart, hcr, hlf, m.names, m.values, hrest, by omega⟩

/-- The calls for a message return its lines, up to the empty one. -/
theorem HeaderMessage.header_toks (m : HeaderMessage) (prev : Option Nat) (hbytes : data.window p m.text.length = m.text)
    (hle : p + m.text.length ≤ SKB_SIZE) :
    header_toks data m.lines.length (some p) prev = .ok (lineToks p m.lines) ∧
      (lineToks p m.lines).map (fun r => r.2.bytes data) = m.lines := by
  obtain ⟨hstart, hcr, hlf, hblock⟩ := HeaderMessage.split hbytes hle
  have hlt : p + m.startLine.length < SKB_SIZE := by
    rw [HeaderMessage.text, List.length_append, List.length_cons] at hle
    omega
  have htok := http_header_tok_start prev hstart m.start_class hcr hlf hlt
  have hcalls : m.lines.length = m.fields.length + 1 + 1 := by
    rw [HeaderMessage.lines, List.length_cons, List.length_append, List.length_map, List.length_singleton]
  constructor
  · rw [hcalls, wsd.header_toks, htok]
    simp only [Except.ok_bind, hblock.header_toks, Except.pure_eq_ok]
    rfl
  · rw [HeaderMessage.lines, lineToks, List.map_cons, hblock.lineToks_bytes]
    congr 1

end Message

end wsd

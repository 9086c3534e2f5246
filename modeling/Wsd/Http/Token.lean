import Wsd.Common.Skb

namespace wsd

def CR : UInt8 := 13
def LF : UInt8 := 10
def COLON : UInt8 := 58
def COMMA : UInt8 := 44
def SPACE : UInt8 := 32
def TAB : UInt8 := 9

/-- The letters and digits which all three character classes share. -/
def is_alphanumeric (c : UInt8) : Bool :=
  (65 ≤ c && c ≤ 90) || (97 ≤ c && c ≤ 122) || (48 ≤ c && c ≤ 57)

def is_rfc7230_start_line (c : UInt8) : Bool :=
  is_alphanumeric c || (ascii " /.?-:*").contains c

def is_rfc7230_field_value (c : UInt8) : Bool :=
  is_rfc7230_start_line c || (TAB :: ascii "=_;,()+").contains c

def is_rfc7230_header_field (c : UInt8) : Bool :=
  is_alphanumeric c || c == 45

/-- The loop of `has_rnrn_termination` over the `len` bytes at `s`. -/
def rnrn_loop (data : Memory UInt8) : Nat → Nat → Bool
  | 0, _ => false
  | len + 1, s =>
    if data s = CR ∧ 3 ≤ len ∧ data (s + 1) = LF ∧ data (s + 2) = CR ∧ data (s + 3) = LF then true
    else rnrn_loop data len (s + 1)

def has_rnrn_termination (b : Skb) : Bool :=
  rnrn_loop b.data (skb_rdsz b) b.rdpos

/-- `while (pred(*cur++));`, with as many rounds as there are cells up to the end
    of the array. -/
def skip_while (pred : UInt8 → Bool) (data : Memory UInt8) : Nat → Nat → Except Fault Nat
  | 0, _ => .error .out_of_bounds
  | fuel + 1, cur => if pred (data cur) then skip_while pred data fuel (cur + 1) else .ok (cur + 1)

/-- The next line of the header block. A pointer is an index into the receive
    buffer which is being parsed; `prev` is the static variable of that name. -/
def http_header_tok (data : Memory UInt8) (s prev : Option Nat) :
    Except Fault (Int × Chunk × Option Nat × Errno) := do
  let cur := if s.isNone then prev else s
  let prev := if s.isNone then prev else none
  match cur with
  | none => return (-1, .null, prev, .WSD_EINPUT)
  | some start =>
    let cur ←
      if prev.isNone then
        skip_while is_rfc7230_start_line data (SKB_SIZE - start) start
      else do
        let cur ← skip_while is_rfc7230_header_field data (SKB_SIZE - start) start
        if data (cur - 1) ≠ COLON then
          pure cur
        else
          skip_while is_rfc7230_field_value data (SKB_SIZE - cur) cur
    if data (cur - 1) = CR ∧ data cur = LF then
      return (i32 (cur - start - 1), { p := some start, len := cur - start - 1 }, some (cur + 1), .WSD_CHECKERRNO)
    else
      return (-1, .null, prev, .WSD_ECHAR)

/-- The loop of `http_field_value_tok`: whether a comma was found, and what is
    left of the chunk. -/
def comma_loop (data : Memory UInt8) : Nat → Nat → Nat → Except Fault (Bool × Chunk)
  | _, 0, p => .ok (false, { p := some p, len := 0 })
  | 0, _ + 1, _ => .error .out_of_bounds
  | fuel + 1, len + 1, p =>
    if data p = COMMA then .ok (true, { p := some (p + 1), len })
    else comma_loop data fuel len (p + 1)

/-- The next element of a comma-separated value. `s` is the content of the chunk
    which the argument points to; `prev`, the static pointer, holds the content
    of the chunk which it points to, and with it what is left of `s`. -/
def http_field_value_tok (data : Memory UInt8) (s prev : Option Chunk) (wsd_errno : Errno) :
    Except Fault (Int × Chunk × Option Chunk × Errno) := do
  let cur := if s.isNone then prev else s
  let prev := if s.isNone then prev else none
  match cur with
  | none => return (-1, .null, prev, .WSD_EINPUT)
  | some cur =>
    if cur.len = 0 then
      return (-1, .null, prev, .WSD_EINPUT)
    else
      match cur.p with
      | none => throw .null_pointer
      | some start =>
        let (found, left) ← comma_loop data (SKB_SIZE - start) cur.len start
        let len := if found then left.p.getD 0 - start - 1 else cur.len
        return (i32 len, { p := some start, len }, some left, wsd_errno)

/-- The first loop of `trim`. Its index `i` grows along with `p`, so that from the
    second round on it looks beyond the first character. -/
def trim_front (data : Memory UInt8) : Nat → Nat → Nat → Except Fault (Nat × Nat)
  | 0, p, _ => .ok (0, p)
  | len + 1, p, i =>
    if SKB_SIZE ≤ p + i then .error .out_of_bounds
    else if data (p + i) = SPACE ∨ data (p + i) = TAB then trim_front data len (p + 1) (i + 1)
    else .ok (len + 1, p)

/-- The second loop of `trim`. -/
def trim_back (data : Memory UInt8) (p : Nat) : Nat → Except Fault Nat
  | 0 => .ok 0
  | len + 1 =>
    if SKB_SIZE ≤ p + len then .error .out_of_bounds
    else if data (p + len) = SPACE ∨ data (p + len) = TAB then trim_back data p len
    else .ok (len + 1)

def trim (data : Memory UInt8) (chk : Chunk) : Except Fault Chunk :=
  if chk.len = 0 then
    .ok chk
  else
    match chk.p with
    | none => .error .null_pointer
    | some p => do
      let (len, p) ← trim_front data chk.len p 0
      let len ← trim_back data p len
      return { p := some p, len }

/-- Whether `strncmp` of the string at `p` and a literal is 0. -/
def strncmp_eq (data : Memory UInt8) : Nat → List UInt8 → Nat → Bool
  | _, _, 0 => true
  | p, [], _ + 1 => data p == 0
  | p, c :: cs, n + 1 => data p == c && strncmp_eq data (p + 1) cs n

def tolower (c : UInt8) : UInt8 :=
  if 65 ≤ c && c ≤ 90 then c + 32 else c

/-- Whether `strncasecmp` of the string at `p` and a literal is 0. -/
def strncasecmp_eq (data : Memory UInt8) : Nat → List UInt8 → Nat → Bool
  | _, _, 0 => true
  | p, [], _ + 1 => data p == 0
  | p, c :: cs, n + 1 => tolower (data p) == tolower c && strncasecmp_eq data (p + 1) cs n

/-- A comparison through a pointer, which may be NULL only for zero characters. -/
def compare_at (cmp : Nat → List UInt8 → Nat → Bool) (p : Option Nat) (lit : List UInt8) (n : Nat) :
    Except Fault Bool :=
  if n = 0 then
    .ok true
  else
    match p with
    | none => .error .null_pointer
    | some p => .ok (cmp p lit n)

/-- A trimmed chunk is empty or ends within the array. -/
theorem trim_back_le {data : Memory UInt8} {p len len' : Nat} (h : trim_back data p len = .ok len') :
    len' = 0 ∨ p + len' ≤ SKB_SIZE := by
  induction len with
  | zero =>
    cases h
    exact Or.inl rfl
  | succ len ih =>
    unfold trim_back at h
    split at h
    · cases h
    · split at h
      · exact ih h
      · cases h
        omega

theorem trim_len_le {data : Memory UInt8} {chk chk' : Chunk} (h : trim data chk = .ok chk') :
    chk'.len ≤ SKB_SIZE := by
  unfold trim at h
  by_cases hlen : chk.len = 0
  · rw [if_pos hlen] at h
    cases h
    omega
  · rw [if_neg hlen] at h
    cases hp : chk.p with
    | none =>
      rw [hp] at h
      cases h
    | some p =>
      rw [hp] at h
      obtain ⟨⟨len, p'⟩, -, h⟩ := Except.bind_eq_ok_iff.mp h
      obtain ⟨len', hback, h⟩ := Except.bind_eq_ok_iff.mp h
      cases h
      obtain hzero | hle := trim_back_le hback
      · simp only [hzero]
        exact Nat.zero_le _
      · simp only
        omega

end wsd

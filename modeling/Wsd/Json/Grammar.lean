import Mathlib.Data.List.Basic

/-! The grammar of RFC 8259 over the bytes of a text. -/

namespace Json

/-- Blanks: spaces, tabs, line feeds and carriage returns. -/
def Ws (w : List UInt8) : Prop :=
  ∀ b ∈ w, b = 0x20 ∨ b = 0x09 ∨ b = 0x0a ∨ b = 0x0d

def IsDigit (b : UInt8) : Prop :=
  0x30 ≤ b ∧ b ≤ 0x39

def IsHex (b : UInt8) : Prop :=
  IsDigit b ∨ (0x41 ≤ b ∧ b ≤ 0x46) ∨ (0x61 ≤ b ∧ b ≤ 0x66)

/-- The characters which stand behind a backslash: `"`, `\`, `/`, `b`, `f`, `n`, `r` and `t`. -/
def IsEscape (b : UInt8) : Prop :=
  b = 0x22 ∨ b = 0x5c ∨ b = 0x2f ∨ b = 0x62 ∨ b = 0x66 ∨ b = 0x6e ∨ b = 0x72 ∨ b = 0x74

def Digits (w : List UInt8) : Prop :=
  w ≠ [] ∧ ∀ b ∈ w, IsDigit b

/-- A number: an optional sign, an integer without leading zeros, and optionally a fraction
    and an exponent. -/
structure Number (w : List UInt8) : Prop where
  parts : ∃ minus int frac exp, w = minus ++ int ++ frac ++ exp ∧
    (minus = [] ∨ minus = [0x2d]) ∧
    (int = [0x30] ∨ Digits int ∧ int.head? ≠ some 0x30) ∧
    (frac = [] ∨ ∃ digits, frac = 0x2e :: digits ∧ Digits digits) ∧
    (exp = [] ∨ ∃ e sign digits, exp = e :: (sign ++ digits) ∧ (e = 0x65 ∨ e = 0x45) ∧
      (sign = [] ∨ sign = [0x2b] ∨ sign = [0x2d]) ∧ Digits digits)

/-- What stands between the quotation marks of a string. The bytes of a character beyond
    ASCII count one by one. -/
inductive Chars : List UInt8 → Prop
  | nil : Chars []
  | plain {b : UInt8} {w : List UInt8} : 0x20 ≤ b → b ≠ 0x22 → b ≠ 0x5c → Chars w → Chars (b :: w)
  | escape {b : UInt8} {w : List UInt8} : IsEscape b → Chars w → Chars (0x5c :: b :: w)
  | unicode {a b c d : UInt8} {w : List UInt8} : IsHex a → IsHex b → IsHex c → IsHex d → Chars w →
      Chars (0x5c :: 0x75 :: a :: b :: c :: d :: w)

/-- The rules of the grammar which call each other. -/
inductive Rule
  | value
  | member
  | members
  | element
  | elements

/-- The texts which a rule derives; those of `members` and `elements` are not empty. -/
inductive Text : Rule → List UInt8 → Prop
  | literal {w : List UInt8} :
      w = [0x74, 0x72, 0x75, 0x65] ∨ w = [0x66, 0x61, 0x6c, 0x73, 0x65] ∨ w = [0x6e, 0x75, 0x6c, 0x6c] →
      Text .value w
  | number {w : List UInt8} : Number w → Text .value w
  | string {w : List UInt8} : Chars w → Text .value ([0x22] ++ w ++ [0x22])
  | emptyObject {w : List UInt8} : Ws w → Text .value ([0x7b] ++ w ++ [0x7d])
  | object {w : List UInt8} : Text .members w → Text .value ([0x7b] ++ w ++ [0x7d])
  | emptyArray {w : List UInt8} : Ws w → Text .value ([0x5b] ++ w ++ [0x5d])
  | array {w : List UInt8} : Text .elements w → Text .value ([0x5b] ++ w ++ [0x5d])
  | member {a name b v : List UInt8} : Ws a → Chars name → Ws b → Text .element v →
      Text .member (a ++ ([0x22] ++ name ++ [0x22]) ++ b ++ [0x3a] ++ v)
  | lastMember {w : List UInt8} : Text .member w → Text .members w
  | members {w ws : List UInt8} : Text .member w → Text .members ws → Text .members (w ++ [0x2c] ++ ws)
  | element {a v b : List UInt8} : Ws a → Text .value v → Ws b → Text .element (a ++ v ++ b)
  | lastElement {w : List UInt8} : Text .element w → Text .elements w
  | elements {w ws : List UInt8} : Text .element w → Text .elements ws → Text .elements (w ++ [0x2c] ++ ws)

/-- An object from its opening brace to its closing one. -/
structure Object (w : List UInt8) : Prop where
  braces : ∃ inner, w = [0x7b] ++ inner ++ [0x7d] ∧ (Ws inner ∨ Text .members inner)

theorem Object.value {w : List UInt8} (h : Object w) : Text .value w := by
  obtain ⟨inner, rfl, hws | hmembers⟩ := h.braces
  · exact .emptyObject hws
  · exact .object hmembers

end Json

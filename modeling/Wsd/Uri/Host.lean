import Wsd.Uri.Authority

namespace wsd

def AT : UInt8 := 64
def LEFT_BRACKET : UInt8 := 91
def RIGHT_BRACKET : UInt8 := 93

/-- The part of a string which its chunk covers: the length is an `unsigned int`. -/
def wrapped (s : List UInt8) : List UInt8 :=
  s.take (u32 s.length)

/-- The characters of which a URI without a fragment is made. -/
def is_uri_char (c : UInt8) : Bool :=
  is_alphanumeric c || (ascii "-._~:/?[]@!$&'()*+,;=%").contains c

/-- The authority of a URI: user information, host and port. -/
def authorityText (text : List UInt8) : List UInt8 :=
  (hierPart text).takeWhile fun c => !is_gen_delim c

/-- The host of a URI, which stands behind the user information and in front of the port. The colons of
    an address in brackets belong to it. -/
def hostText (text : List UInt8) : List UInt8 :=
  let authority := authorityText text
  let chars := if AT ∈ authority then (authority.dropWhile (· != AT)).drop 1 else authority
  if chars.head? = some LEFT_BRACKET then
    chars.takeWhile (· != RIGHT_BRACKET) ++ [RIGHT_BRACKET]
  else
    chars.takeWhile (· != COLON)

/-- What stands in front of the first colon of the authority, as far as an `unsigned int` can count. -/
def frontText (text : List UInt8) : List UInt8 :=
  wrapped ((authorityText text).takeWhile (· != COLON))

theorem wrapped_of_lt {s : List UInt8} (h : s.length < 4294967296) : wrapped s = s := by
  rw [wrapped, u32_of_lt h, List.take_length]

theorem length_wrapped_lt (s : List UInt8) : (wrapped s).length < 4294967296 := by
  have hlt : u32 s.length < 4294967296 := Nat.mod_lt _ (by decide)
  rw [wrapped, List.length_take]
  omega

theorem uri_char_facts : ∀ c, is_uri_char c = true → c ≠ CR ∧ c ≠ SPACE ∧ c ≠ TAB ∧ c ≠ HASH ∧ c ≠ LF := by
  intro c hc
  refine ⟨?_, ?_, ?_, ?_, ?_⟩
  · rintro rfl
    exact absurd hc (by decide +kernel)
  · rintro rfl
    exact absurd hc (by decide +kernel)
  · rintro rfl
    exact absurd hc (by decide +kernel)
  · rintro rfl
    exact absurd hc (by decide +kernel)
  · rintro rfl
    exact absurd hc (by decide +kernel)

namespace Composition

variable (c : Composition)

/-- If a path follows the authority directly, the parser's host is what stands in front of its first colon. -/
theorem host_eq (hdirect : DirectPath c.text) : c.host = (authorityText c.text).takeWhile (· != COLON) := by
  obtain ⟨-, hfree, hafter⟩ | ⟨hnot, -⟩ := c.authority_cases
  · have hauthority : authorityText c.text = c.authority := by
      have hsplit := List.takeWhile_append_dropWhile (p := fun c => !is_gen_delim c) (l := hierPart c.text)
      change authorityText c.text ++ afterAuthority c.text = hierPart c.text at hsplit
      rw [hafter, c.hierPart_text] at hsplit
      exact List.append_cancel_right hsplit
    rw [hauthority, authority, takeWhile_front]
    · intro x hx
      rw [bne_iff_ne]
      rintro rfl
      exact c.host_colon hx
    · intro x hx
      cases hport : c.port with
      | none =>
        rw [hport] at hx
        cases hx
      | some digits =>
        rw [hport] at hx
        cases hx
        rfl
  · exact absurd hdirect hnot

/-- If the query follows the authority directly, the path which the parser finds is too short. -/
theorem length_path_lt (hdirect : ¬ DirectPath c.text) (hhash : HASH ∉ c.text) :
    c.normalPath.length < (pathAndQuery c.text).length := by
  obtain ⟨h, -⟩ | ⟨-, x, hx, hdelim⟩ := c.authority_cases
  · exact absurd h hdirect
  have hstop : ¬ (c.authority.dropWhile fun c => !is_gen_delim c).isEmpty := by
    rw [List.isEmpty_iff, List.dropWhile_eq_nil_iff]
    intro hall
    have hnot := hall x hx
    rw [hdelim] at hnot
    cases hnot
  have hafter : afterAuthority c.text = (c.authority.dropWhile fun c => !is_gen_delim c) ++ c.resourceText := by
    unfold afterAuthority
    rw [c.hierPart_text, List.dropWhile_append, if_neg hstop]
  have hmem : ∀ y ∈ afterAuthority c.text, y ∈ c.text := fun y hy =>
    (List.dropWhile_sublist _).mem (List.mem_of_mem_drop ((List.dropWhile_sublist _).mem hy))
  have hwhole : (afterAuthority c.text).takeWhile (· != HASH) = afterAuthority c.text := by
    rw [List.takeWhile_eq_self_iff]
    intro y hy
    rw [bne_iff_ne]
    rintro rfl
    exact hhash (hmem HASH hy)
  -- What stands behind the authority starts with a delimiter which is part of the parser's authority.
  have hslash : (afterAuthority c.text).head? ≠ some SLASH := by
    intro hhead
    apply c.slash_not_mem_authority
    apply (List.dropWhile_sublist fun c => !is_gen_delim c).mem
    rw [hafter] at hhead
    cases hrest : c.authority.dropWhile fun c => !is_gen_delim c with
    | nil =>
      rw [hrest] at hstop
      exact absurd rfl hstop
    | cons y rest =>
      rw [hrest] at hhead
      cases hhead
      exact List.mem_cons_self
  have hpos : 0 < (c.authority.dropWhile fun c => !is_gen_delim c).length := by
    rw [List.isEmpty_iff] at hstop
    exact List.length_pos_of_ne_nil hstop
  unfold pathAndQuery
  simp only [hwhole]
  rw [if_neg hslash, List.length_cons, hafter, List.length_append, normalPath, resourceText]
  cases c.resource with
  | none =>
    simp only [List.length_cons, List.length_nil]
    omega
  | some r =>
    simp only [Option.map_some, Option.getD_some, Resource.text, List.length_append]
    omega

end Composition

end wsd

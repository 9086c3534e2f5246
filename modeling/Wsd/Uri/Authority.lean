import Wsd.Uri.Compose

namespace wsd

/-- A character which terminates the authority of a URI. -/
def is_gen_delim (c : UInt8) : Bool :=
  c == SLASH || c == QUESTION_MARK || c == HASH

/-- What follows the scheme and the two slashes. -/
def hierPart (text : List UInt8) : List UInt8 :=
  (text.dropWhile (· != COLON)).drop 3

/-- What follows the authority, which ends with the next slash, question mark or hash. -/
def afterAuthority (text : List UInt8) : List UInt8 :=
  (hierPart text).dropWhile fun c => !is_gen_delim c

/-- The path and query, where an empty path is a slash. -/
def pathAndQuery (text : List UInt8) : List UInt8 :=
  let chars := (afterAuthority text).takeWhile (· != HASH)
  if chars.head? = some SLASH then chars else SLASH :: chars

/-- The authority is followed by a path or by the end of the URI. -/
def DirectPath (text : List UInt8) : Prop :=
  ∀ x ∈ (afterAuthority text).head?, x = SLASH

instance (text : List UInt8) : Decidable (DirectPath text) :=
  inferInstanceAs (Decidable (∀ x ∈ (afterAuthority text).head?, x = SLASH))

/-- No delimiter is part of the host or the port, and the path is the URI's path and query. -/
def AuthorityDelimited (s : CString) (uri : Uri) : Prop :=
  (∀ x ∈ uri.host.bytes s, is_gen_delim x = false) ∧ (∀ x ∈ uri.port.bytes s, is_gen_delim x = false) ∧
    uri.path.bytes s = pathAndQuery s.chars

instance (s : CString) (uri : Uri) : Decidable (AuthorityDelimited s uri) :=
  inferInstanceAs (Decidable (_ ∧ _ ∧ _))

section Split

variable {α : Type} {p : α → Bool} {xs ys : List α}

/-- What is taken from a list ends in front of the first element which is not. -/
theorem takeWhile_front (hxs : ∀ x ∈ xs, p x = true) (hys : ∀ y ∈ ys.head?, p y = false) :
    (xs ++ ys).takeWhile p = xs := by
  rw [List.takeWhile_append_of_pos hxs]
  cases ys with
  | nil => rw [List.takeWhile_nil, List.append_nil]
  | cons y ys => rw [List.takeWhile_cons_of_neg (by simpa using hys y rfl), List.append_nil]

theorem dropWhile_front (hxs : ∀ x ∈ xs, p x = true) (hys : ∀ y ∈ ys.head?, p y = false) :
    (xs ++ ys).dropWhile p = ys := by
  rw [List.dropWhile_append_of_pos hxs]
  cases ys with
  | nil => rfl
  | cons y ys => rw [List.dropWhile_cons_of_neg (by simpa using hys y rfl)]

end Split

namespace Composition

variable (c : Composition)

/-- The host and the port as the parser splits them off. -/
def authority : List UInt8 :=
  c.host ++ portText c.port

theorem slash_not_mem_authority : SLASH ∉ c.authority := by
  rw [authority, List.mem_append, not_or]
  refine ⟨c.host_slash, ?_⟩
  cases hport : c.port with
  | none =>
    intro hmem
    cases hmem
  | some digits =>
    rw [portText, List.mem_cons, not_or]
    exact ⟨by decide, c.port_slash digits hport⟩

theorem hierPart_text : hierPart c.text = c.authority ++ c.resourceText := by
  unfold hierPart
  rw [c.text_eq, dropWhile_front]
  · rw [authority, List.append_assoc]
    rfl
  · intro x hx
    rw [bne_iff_ne]
    rintro rfl
    exact c.scheme_colon hx
  · intro x hx
    cases hx
    rfl

/-- The parser splits the authority off at the first slash. -/
theorem authority_eq : c.authority = (hierPart c.text).takeWhile (· != SLASH) := by
  rw [hierPart_text, takeWhile_front]
  · intro x hx
    rw [bne_iff_ne]
    rintro rfl
    exact c.slash_not_mem_authority hx
  · intro x hx
    rw [head?_resourceText c x hx]
    rfl

/-- What the parser splits off is the URI's authority, or holds the question mark or the hash
    which follows it. -/
theorem authority_cases :
    (DirectPath c.text ∧ (∀ x ∈ c.authority, is_gen_delim x = false) ∧ afterAuthority c.text = c.resourceText) ∨
      (¬ DirectPath c.text ∧ ∃ x ∈ c.authority, is_gen_delim x = true) := by
  have hsplit := List.takeWhile_append_dropWhile (p := fun c => !is_gen_delim c) (l := hierPart c.text)
  have hfree : ∀ x ∈ (hierPart c.text).takeWhile (fun c => !is_gen_delim c), is_gen_delim x = false := by
    intro x hx
    simpa using List.mem_takeWhile_imp hx
  have hslash : ∀ x ∈ (hierPart c.text).takeWhile (fun c => !is_gen_delim c), (x != SLASH) = true := by
    intro x hx
    rw [bne_iff_ne]
    rintro rfl
    cases hfree SLASH hx
  by_cases hdirect : DirectPath c.text
  · left
    have heq : c.authority = (hierPart c.text).takeWhile fun c => !is_gen_delim c := by
      rw [c.authority_eq]
      nth_rewrite 1 [← hsplit]
      apply takeWhile_front hslash
      intro x hx
      rw [hdirect x hx]
      rfl
    refine ⟨hdirect, ?_, ?_⟩
    · rw [heq]
      exact hfree
    · rw [← heq] at hsplit
      exact List.append_cancel_left (hsplit.trans c.hierPart_text)
  · right
    refine ⟨hdirect, ?_⟩
    unfold DirectPath at hdirect
    rw [not_forall] at hdirect
    obtain ⟨x, hx⟩ := hdirect
    rw [Classical.not_imp] at hx
    obtain ⟨hx, hne⟩ := hx
    have hdelim : is_gen_delim x = true := by
      have hnot := List.head?_dropWhile_not (fun c => !is_gen_delim c) (hierPart c.text)
      unfold afterAuthority at hx
      rw [Option.mem_def.mp hx] at hnot
      simpa using hnot
    refine ⟨x, ?_, hdelim⟩
    obtain ⟨rest, hrest⟩ := List.head?_eq_some_iff.mp (Option.mem_def.mp hx)
    unfold afterAuthority at hrest
    rw [c.authority_eq, ← hsplit, hrest, List.takeWhile_append_of_pos hslash,
      List.takeWhile_cons_of_pos (by simpa using hne)]
    exact List.mem_append_right _ List.mem_cons_self

/-- The path which the parser finds is the one behind the authority it has split off. -/
theorem pathAndQuery_text (h : afterAuthority c.text = c.resourceText) : pathAndQuery c.text = c.normalPath := by
  unfold pathAndQuery normalPath
  rw [h, resourceText]
  cases hr : c.resource with
  | none => rfl
  | some r =>
    have htake : r.text.takeWhile (· != HASH) = r.path := by
      apply takeWhile_front
      · intro x hx
        rw [bne_iff_ne]
        rintro rfl
        exact r.hash hx
      · intro x hx
        rw [head?_fragmentText _ x hx]
        rfl
    simp only [Option.map_some, Option.getD_some, htake]
    rw [if_pos r.slash]

/-- The bytes of the host and the port are bytes of the authority. -/
theorem mem_authority_of_mem {s : CString} {x : UInt8} (h : s.chars = c.text)
    (hx : x ∈ (c.uri {}).host.bytes s ∨ x ∈ (c.uri {}).port.bytes s) : x ∈ c.authority := by
  unfold authority
  obtain hx | hx := hx
  · rw [host_bytes c {} h] at hx
    exact List.mem_append_left _ (List.mem_of_mem_take hx)
  · cases hport : c.port with
    | none =>
      simp only [uri, hport, UriChunk.bytes, UriChunk.null] at hx
      cases hx
    | some digits =>
      rw [port_bytes c {} h hport] at hx
      exact List.mem_append_right _ (List.mem_cons_of_mem _ (List.mem_of_mem_take hx))

/-- If no length is cut, every byte of the authority but the colon is one of the host or the port. -/
theorem mem_of_mem_authority {s : CString} {x : UInt8} (h : s.chars = c.text) (hlen : s.chars.length < 4294967296)
    (hx : x ∈ c.authority) : x = COLON ∨ x ∈ (c.uri {}).host.bytes s ∨ x ∈ (c.uri {}).port.bytes s := by
  rw [h, text, c.front.append_assoc, front, List.length_append, List.length_append, List.length_append] at hlen
  obtain hx | hx := List.mem_append.mp hx
  · right
    left
    rw [host_bytes c {} h, u32_of_lt (by omega), List.take_length]
    exact hx
  · cases hport : c.port with
    | none =>
      rw [hport] at hx
      cases hx
    | some digits =>
      rw [hport, portText, List.mem_cons] at hx
      obtain rfl | hx := hx
      · exact .inl rfl
      · right
        right
        simp only [hport, portText, List.length_append, List.length_cons] at hlen
        rw [port_bytes c {} h hport, u32_of_lt (by omega), List.take_length]
        exact hx

theorem length_pathAndQuery_le (hdirect : DirectPath c.text) : (pathAndQuery c.text).length ≤ c.text.length := by
  obtain ⟨-, -, hafter⟩ | ⟨hnot, -⟩ := c.authority_cases
  · rw [c.pathAndQuery_text hafter, text, resourceText, normalPath]
    cases hr : c.resource with
    | none =>
      simp only [List.length_append, List.length_cons, List.length_nil, length_front]
      omega
    | some r =>
      simp only [Option.map_some, Option.getD_some, List.length_append, Resource.text]
      omega
  · exact absurd hdirect hnot

theorem delimited {s : CString} (h : s.chars = c.text) (hdirect : DirectPath s.chars)
    (hlen : (pathAndQuery s.chars).length < 4294967296) : AuthorityDelimited s (c.uri {}) := by
  rw [h] at hdirect hlen
  obtain ⟨-, hfree, hafter⟩ | ⟨hnot, -⟩ := c.authority_cases
  · refine ⟨fun x hx => hfree x (c.mem_authority_of_mem h (.inl hx)),
      fun x hx => hfree x (c.mem_authority_of_mem h (.inr hx)), ?_⟩
    rw [c.pathAndQuery_text hafter] at hlen
    rw [h, c.pathAndQuery_text hafter]
    unfold normalPath at hlen ⊢
    cases hr : c.resource with
    | none => exact path_bytes_none c {} hr
    | some r =>
      rw [hr] at hlen
      simp only at hlen ⊢
      rw [path_bytes c {} h hr, u32_of_lt hlen, List.take_length]
  · exact absurd hdirect hnot

theorem direct_of_delimited {s : CString} (h : s.chars = c.text) (hlen : s.chars.length < 4294967296)
    (hdel : AuthorityDelimited s (c.uri {})) : DirectPath s.chars := by
  rw [h]
  obtain ⟨hdirect, -, -⟩ | ⟨-, x, hx, hdelim⟩ := c.authority_cases
  · exact hdirect
  · exfalso
    obtain rfl | hx | hx := c.mem_of_mem_authority h hlen hx
    · cases hdelim
    · rw [hdel.1 x hx] at hdelim
      cases hdelim
    · rw [hdel.2.1 x hx] at hdelim
      cases hdelim

end Composition

/-- Where the authority ends decides whether the parser finds it: a path or the end has to follow it
    directly, and no length may be cut. -/
theorem parse_uri_authority {s : CString} {uri : Uri} (h : parse_uri s {} = (0, uri)) :
    (DirectPath s.chars → (pathAndQuery s.chars).length < 4294967296 → AuthorityDelimited s uri) ∧
      (s.chars.length < 4294967296 → (AuthorityDelimited s uri ↔ DirectPath s.chars)) := by
  obtain ⟨c, hc⟩ := parse_uri_inv (congrArg Prod.fst h)
  rw [parse_uri_text c {} hc] at h
  cases h
  refine ⟨c.delimited hc, fun hlen => ⟨c.direct_of_delimited hc hlen, fun hdirect => c.delimited hc hdirect ?_⟩⟩
  have hle := c.length_pathAndQuery_le (hc ▸ hdirect)
  rw [← hc] at hle
  exact Nat.lt_of_le_of_lt hle hlen

namespace Sample

/-- `ws://host/one?x=1#top` -/
def direct : CString where
  chars := ascii "ws://host/one?x=1#top"
  nul_free := by decide

/-- `ws://host?x=1` -/
def queried : CString where
  chars := ascii "ws://host?x=1"
  nul_free := by decide

end Sample

theorem parse_uri_authority_sample :
    parse_uri Sample.direct {} = (0, (parse_uri Sample.direct {}).2) ∧
      AuthorityDelimited Sample.direct (parse_uri Sample.direct {}).2 :=
  ⟨by decide, (@parse_uri_authority Sample.direct (parse_uri Sample.direct {}).2 (by decide)).1 (by decide +kernel)
    (by decide +kernel)⟩

/-- The query of `ws://host?x=1` becomes part of the host. -/
theorem query_in_host :
    ¬ ∀ s uri, parse_uri s {} = (0, uri) → AuthorityDelimited s uri := by
  intro hall
  have hdel := hall Sample.queried (parse_uri Sample.queried {}).2 (by decide)
  revert hdel
  decide

end wsd

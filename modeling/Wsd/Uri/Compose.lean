import Wsd.Uri.Parse

namespace wsd

/-- A path with its query, and the fragment which may follow it. -/
structure Resource where
  path : List UInt8
  fragment : Option (List UInt8)
  slash : path.head? = some SLASH
  second : path[1]? ≠ some SLASH
  hash : HASH ∉ path

/-- The parts of a URI which is written as `scheme://host[:port][path][#fragment]`. -/
structure Composition where
  scheme : List UInt8
  host : List UInt8
  port : Option (List UInt8)
  resource : Option Resource
  scheme_ne : scheme ≠ []
  scheme_colon : COLON ∉ scheme
  host_ne : host ≠ []
  host_colon : COLON ∉ host
  host_slash : SLASH ∉ host
  port_ne : ∀ digits ∈ port, digits ≠ []
  port_slash : ∀ digits ∈ port, SLASH ∉ digits

def fragmentText : Option (List UInt8) → List UInt8
  | none => []
  | some chars => HASH :: chars

def portText : Option (List UInt8) → List UInt8
  | none => []
  | some digits => COLON :: digits

namespace Resource

def text (r : Resource) : List UInt8 :=
  r.path ++ fragmentText r.fragment

theorem path_eq (r : Resource) : ∃ rest, r.path = SLASH :: rest := by
  obtain ⟨path, fragment, slash, second, hash⟩ := r
  cases path with
  | nil => cases slash
  | cons x rest =>
    cases slash
    exact ⟨rest, rfl⟩

end Resource

namespace Composition

variable (c : Composition)

def resourceText : List UInt8 :=
  (c.resource.map Resource.text).getD []

/-- The URI up to the end of its host. -/
def front : List UInt8 :=
  c.scheme ++ [COLON, SLASH, SLASH] ++ c.host

def text : List UInt8 :=
  c.front ++ portText c.port ++ c.resourceText

/-- What the parser makes of the parts, with the lengths as `unsigned int`s. -/
def uri (uri : Uri) : Uri where
  scheme := { p := .uri_arg 0, len := u32 c.scheme.length }
  host := { p := .uri_arg (c.scheme.length + 3), len := u32 c.host.length }
  port :=
    match c.port with
    | none => uri.port
    | some digits => { p := .uri_arg (c.front.length + 1), len := u32 digits.length }
  path :=
    match c.resource with
    | none => { p := .literal, len := 1 }
    | some r => { p := .uri_arg (c.front ++ portText c.port).length, len := u32 r.path.length }

end Composition

section Compose

variable {s : CString} {pre : List UInt8}

theorem head?_fragmentText (fragment : Option (List UInt8)) : ∀ x ∈ (fragmentText fragment).head?, x = HASH := by
  cases fragment with
  | none =>
    intro x hx
    cases hx
  | some chars =>
    intro x hx
    cases hx
    rfl

/-- What follows a path ends it. -/
theorem parse_path_text (r : Resource) (uri : Uri) (h : s.chars = pre ++ r.text) :
    parse_path s uri pre.length = (0, { uri with path := { p := .uri_arg pre.length, len := u32 r.path.length } }) := by
  obtain ⟨rest, hpath⟩ := r.path_eq
  have hpos : 0 < r.path.length := by
    rw [hpath]
    exact Nat.succ_pos _
  have hslash : s.get pre.length = SLASH := by
    apply CString.get_char pre (rest ++ fragmentText r.fragment)
    rw [h, Resource.text, hpath, List.cons_append]
  have hscan : scan_str (· == HASH) s pre.length = pre.length + r.path.length := by
    apply scan_str_append (· == HASH) pre h
    · intro x hx
      simp only [beq_eq_false_iff_ne]
      rintro rfl
      exact r.hash hx
    · intro x hx
      simpa using head?_fragmentText _ x hx
  have hsecond : s.get (pre.length + 1) ≠ SLASH := by
    have hget : s.get (pre ++ [SLASH]).length = (rest ++ fragmentText r.fragment).headD 0 := by
      apply CString.get_append (pre ++ [SLASH])
      rw [h, Resource.text, hpath]
      simp
    rw [List.length_append, List.length_singleton] at hget
    rw [hget]
    cases hrest : rest with
    | nil =>
      cases hfrag : r.fragment with
      | none => decide
      | some chars => exact (by decide : HASH ≠ SLASH)
    | cons x rest' =>
      intro hx
      apply r.second
      rw [hpath, hrest]
      exact congrArg some hx
  unfold parse_path
  simp only [hscan]
  rw [if_neg (by simp only [hslash, ne_eq, not_true, not_false_iff]), if_neg (by omega), if_neg hsecond,
    Nat.add_sub_cancel_left]

/-- A path which is accepted starts with one slash, and ends in front of a fragment. -/
theorem parse_path_inv {uri : Uri} {rest : List UInt8} (hs : s.chars = pre ++ rest)
    (h : (parse_path s uri pre.length).1 = 0) : ∃ r : Resource, rest = r.text := by
  obtain ⟨path, post, rfl, hpath, hpost, hscan⟩ := scan_str_split (· == HASH) pre hs
  have hslash : s.get pre.length = SLASH := by
    by_contra hne
    unfold parse_path at h
    rw [if_pos hne] at h
    cases h
  have hhash : HASH ∉ path := by
    intro hmem
    simpa using hpath HASH hmem
  cases path with
  | nil =>
    -- the character at the place is a slash, which does not stop the scan
    exfalso
    rw [CString.get_append pre _ hs] at hslash
    cases post with
    | nil => cases hslash
    | cons x post =>
      have hx : x = HASH := by simpa using hpost x rfl
      rw [hx] at hslash
      cases hslash
  | cons x path =>
    rw [CString.get_append pre _ hs] at hslash
    have hx : x = SLASH := hslash
    subst hx
    have hsecond : s.get (pre.length + 1) ≠ SLASH := by
      intro heq
      unfold parse_path at h
      simp only [hscan] at h
      rw [CString.get_append pre _ hs, if_neg (by simp), List.length_append, List.length_cons, if_neg (by omega),
        if_pos heq] at h
      cases h
    have hget := CString.get_append (s := s) (pre ++ [SLASH]) (path ++ post) (by rw [hs]; simp)
    rw [List.length_append, List.length_singleton] at hget
    rw [hget] at hsecond
    have hfrag : ∃ fragment, post = fragmentText fragment := by
      cases post with
      | nil => exact ⟨none, rfl⟩
      | cons y post =>
        have hy : y = HASH := by simpa using hpost y rfl
        exact ⟨some post, by rw [hy]; rfl⟩
    obtain ⟨fragment, rfl⟩ := hfrag
    refine ⟨⟨SLASH :: path, fragment, rfl, ?_, hhash⟩, rfl⟩
    intro heq
    cases path with
    | nil => cases heq
    | cons y path =>
      cases heq
      exact hsecond rfl

theorem head?_resourceText (c : Composition) : ∀ x ∈ c.resourceText.head?, x = SLASH := by
  intro x hx
  unfold Composition.resourceText at hx
  cases hr : c.resource with
  | none =>
    rw [hr] at hx
    cases hx
  | some r =>
    obtain ⟨rest, hpath⟩ := r.path_eq
    rw [hr, Option.map_some, Option.getD_some, Resource.text, hpath] at hx
    cases hx
    rfl

/-- What follows an authority is the end of the string or a path. -/
theorem parse_resource_text (c : Composition) (uri : Uri) (h : s.chars = pre ++ c.resourceText) :
    (if s.get pre.length = 0 then empty_path uri else parse_path s uri pre.length) = (0, { uri with path :=
      match c.resource with
      | none => { p := .literal, len := 1 }
      | some r => { p := .uri_arg pre.length, len := u32 r.path.length } }) := by
  unfold Composition.resourceText at h
  cases hr : c.resource with
  | none =>
    rw [hr, Option.map_none, Option.getD_none, List.append_nil] at h
    rw [if_pos (CString.get_end h)]
    rfl
  | some r =>
    rw [hr, Option.map_some, Option.getD_some] at h
    obtain ⟨rest, hpath⟩ := r.path_eq
    have hget : s.get pre.length = SLASH := by
      apply CString.get_char pre (rest ++ fragmentText r.fragment)
      rw [h, Resource.text, hpath, List.cons_append]
    rw [if_neg (by rw [hget]; decide), parse_path_text r uri h]

/-- What is accepted behind an authority is nothing, or a path. -/
theorem parse_resource_inv {uri : Uri} {rest : List UInt8} (hs : s.chars = pre ++ rest)
    (h : (if s.get pre.length = 0 then empty_path uri else parse_path s uri pre.length).1 = 0) :
    rest = [] ∨ ∃ r : Resource, rest = r.text := by
  cases rest with
  | nil => exact .inl rfl
  | cons x rest =>
    have hget : s.get pre.length ≠ 0 := by
      rw [CString.get_char pre rest hs]
      exact CString.char_ne_zero hs
    rw [if_neg hget] at h
    exact .inr (parse_path_inv hs h)

namespace Composition

variable (c : Composition)

theorem length_front : c.front.length = c.scheme.length + 3 + c.host.length := by
  simp only [front, List.length_append, List.length_cons, List.length_nil]

theorem text_eq : c.text = c.scheme ++ COLON :: SLASH :: SLASH :: (c.host ++ (portText c.port ++ c.resourceText)) := by
  simp [text, front]

theorem head?_after_host : ∀ x ∈ (portText c.port ++ c.resourceText).head?, x = COLON ∨ x = SLASH := by
  intro x hx
  cases hport : c.port with
  | none =>
    rw [hport] at hx
    exact .inr (head?_resourceText c x hx)
  | some digits =>
    rw [hport] at hx
    cases hx
    exact .inl rfl

end Composition

/-- Behind the host, the port and the resource of a URI are read. -/
theorem parse_port_text (c : Composition) (uri : Uri) (h : s.chars = c.text) :
    parse_port s uri c.front.length = (0, { uri with port := (c.uri uri).port, path := (c.uri uri).path }) := by
  have hfront : s.chars = c.front ++ (portText c.port ++ c.resourceText) := by
    rw [h, Composition.text, List.append_assoc]
  have hafter := CString.get_append _ _ hfront
  unfold parse_port
  cases hport : c.port with
  | none =>
    rw [hport] at hfront hafter
    have hcolon : s.get c.front.length ≠ COLON := by
      rw [hafter]
      cases htext : c.resourceText with
      | nil => decide
      | cons x rest =>
        have hx := head?_resourceText c x (by rw [htext]; rfl)
        rw [hx]
        exact (by decide : SLASH ≠ COLON)
    rw [if_neg hcolon, parse_resource_text c uri hfront]
    simp [Composition.uri, hport, portText]
  | some digits =>
    rw [hport] at hfront hafter
    have hcolon : s.get c.front.length = COLON := hafter
    have hdigits : s.chars = c.front ++ [COLON] ++ (digits ++ c.resourceText) := by
      rw [hfront, portText, List.append_assoc c.front]
      rfl
    have hlen : (c.front ++ portText (some digits)).length = c.front.length + 1 + digits.length := by
      rw [portText, List.length_append, List.length_cons]
      omega
    have hscan : scan_str (· == SLASH) s (c.front.length + 1) = (c.front ++ portText (some digits)).length := by
      have hscan := scan_str_append (· == SLASH) _ hdigits
        (by
          intro x hx
          rw [beq_eq_false_iff_ne]
          rintro rfl
          exact c.port_slash digits hport hx)
        (by
          intro x hx
          simpa using head?_resourceText c x hx)
      rw [List.length_append, List.length_singleton] at hscan
      rw [hscan, hlen]
    have hpos : 0 < digits.length := List.length_pos_of_ne_nil (c.port_ne digits hport)
    rw [if_neg (by rw [hcolon]; decide), if_pos hcolon]
    simp only [hscan]
    rw [if_neg (by omega), parse_resource_text c _ (by rw [hfront, List.append_assoc]), hlen, Nat.add_sub_cancel_left]
    simp [Composition.uri, hport, hlen]

theorem parse_host_text (c : Composition) (uri : Uri) (h : s.chars = c.text) :
    parse_host s uri (c.scheme.length + 3) = (0, { c.uri uri with scheme := uri.scheme }) := by
  have hhost : s.chars = c.scheme ++ [COLON, SLASH, SLASH] ++ (c.host ++ (portText c.port ++ c.resourceText)) := by
    rw [h, c.text_eq, List.append_assoc]
    rfl
  have hscan : scan_str (fun x => x == COLON || x == SLASH) s (c.scheme.length + 3) = c.front.length := by
    have hscan := scan_str_append (fun x => x == COLON || x == SLASH) _ hhost
      (by
        intro x hx
        rw [Bool.or_eq_false_iff, beq_eq_false_iff_ne, beq_eq_false_iff_ne]
        constructor
        · rintro rfl
          exact c.host_colon hx
        · rintro rfl
          exact c.host_slash hx)
      (by
        intro x hx
        simpa using c.head?_after_host x hx)
    rw [c.length_front]
    simpa using hscan
  have hpos : 0 < c.host.length := List.length_pos_of_ne_nil c.host_ne
  have hlen : c.front.length - (c.scheme.length + 3) = c.host.length := by
    rw [c.length_front]
    omega
  unfold parse_host
  simp only [hscan]
  rw [if_neg (by rw [c.length_front]; omega), parse_port_text c _ h, hlen]
  rfl

/-- The parser takes a URI apart into what it was put together from. -/
theorem parse_uri_text (c : Composition) (uri : Uri) (h : s.chars = c.text) : parse_uri s uri = (0, c.uri uri) := by
  have hchars : s.chars = c.scheme ++ COLON :: SLASH :: SLASH :: (c.host ++ (portText c.port ++ c.resourceText)) := by
    rw [h, c.text_eq]
  have hscan : scan_str (· == COLON) s 0 = c.scheme.length := by
    have hscan := scan_str_append (· == COLON) [] hchars
      (by
        intro x hx
        rw [beq_eq_false_iff_ne]
        rintro rfl
        exact c.scheme_colon hx)
      (by
        intro x hx
        cases hx
        rfl)
    simpa using hscan
  have hpos : 0 < c.scheme.length := List.length_pos_of_ne_nil c.scheme_ne
  have hcolon : s.get c.scheme.length = COLON := CString.get_char _ _ hchars
  have hfirst : s.get (c.scheme.length + 1) = SLASH := by
    have hget := CString.get_char (s := s) (x := SLASH) (c.scheme ++ [COLON]) _
      (by rw [hchars, List.append_assoc]; rfl)
    simpa using hget
  have hsecond : s.get (c.scheme.length + 1 + 1) = SLASH := by
    have hget := CString.get_char (s := s) (x := SLASH) (c.scheme ++ [COLON, SLASH]) _
      (by rw [hchars, List.append_assoc]; rfl)
    simpa using hget
  unfold parse_uri
  simp only [hscan, hcolon, hfirst, hsecond]
  rw [if_neg (by rw [not_or]; exact ⟨by decide, by omega⟩), if_neg (by decide), if_neg (by decide),
    parse_host_text c _ h]
  rfl

/-- What is accepted behind a host is a port or nothing, and then a path or nothing. -/
theorem parse_port_inv {uri : Uri} {rest : List UInt8} (hs : s.chars = pre ++ rest)
    (h : (parse_port s uri pre.length).1 = 0) :
    ∃ (port : Option (List UInt8)) (tail : List UInt8), rest = portText port ++ tail ∧
      (∀ digits ∈ port, digits ≠ [] ∧ SLASH ∉ digits) ∧ (tail = [] ∨ ∃ r : Resource, tail = r.text) := by
  unfold parse_port at h
  by_cases hcolon : s.get pre.length = COLON
  · obtain ⟨rest, rfl⟩ := CString.exists_char pre hs hcolon (by decide)
    have hport : s.chars = pre ++ [COLON] ++ rest := by
      rw [hs, List.append_assoc]
      rfl
    obtain ⟨digits, tail, rfl, hdigits, -, hscan⟩ := scan_str_split (· == SLASH) _ hport
    rw [List.length_append, List.length_singleton] at hscan
    rw [if_neg (by rw [hcolon]; decide), if_pos hcolon] at h
    simp only [hscan] at h
    by_cases hempty : digits = []
    · rw [hempty, List.append_nil, List.length_append, List.length_singleton, if_pos rfl] at h
      cases h
    · have hpos : 0 < digits.length := List.length_pos_of_ne_nil hempty
      rw [if_neg (by simp only [List.length_append, List.length_singleton]; omega)] at h
      refine ⟨some digits, tail, rfl, ?_, parse_resource_inv (by rw [hport, List.append_assoc _ digits]) h⟩
      intro ds hds
      cases hds
      exact ⟨hempty, fun hmem => by simpa using hdigits SLASH hmem⟩
  · rw [if_neg hcolon] at h
    refine ⟨none, rest, rfl, ?_, parse_resource_inv hs h⟩
    intro ds hds
    cases hds

theorem parse_host_inv {uri : Uri} {rest : List UInt8} (hs : s.chars = pre ++ rest)
    (h : (parse_host s uri pre.length).1 = 0) :
    ∃ host after : List UInt8, rest = host ++ after ∧ host ≠ [] ∧ COLON ∉ host ∧ SLASH ∉ host ∧
      ∃ uri', (parse_port s uri' (pre ++ host).length).1 = 0 := by
  obtain ⟨host, after, rfl, hhost, -, hscan⟩ := scan_str_split (fun x => x == COLON || x == SLASH) pre hs
  unfold parse_host at h
  simp only [hscan] at h
  by_cases hempty : host = []
  · rw [hempty, List.append_nil, if_pos rfl] at h
    cases h
  · have hpos : 0 < host.length := List.length_pos_of_ne_nil hempty
    rw [if_neg (by rw [List.length_append]; omega)] at h
    refine ⟨host, after, rfl, hempty, ?_, ?_, _, h⟩
    · intro hmem
      simpa using hhost COLON hmem
    · intro hmem
      simpa using hhost SLASH hmem

/-- What is accepted starts with a scheme and the two slashes. -/
theorem parse_scheme_inv {uri : Uri} (h : (parse_uri s uri).1 = 0) :
    ∃ scheme rest : List UInt8, s.chars = scheme ++ [COLON, SLASH, SLASH] ++ rest ∧ scheme ≠ [] ∧ COLON ∉ scheme ∧
      ∃ uri', (parse_host s uri' (scheme ++ [COLON, SLASH, SLASH]).length).1 = 0 := by
  obtain ⟨scheme, post, hchars, hscheme, hpost, hscan⟩ :=
    scan_str_split (· == COLON) [] s.chars.nil_append.symm
  rw [List.nil_append, List.length_nil] at hscan
  unfold parse_uri at h
  simp only [hscan] at h
  by_cases hend : s.get scheme.length = 0 ∨ 0 = scheme.length
  · rw [if_pos hend] at h
    cases h
  rw [if_neg hend] at h
  rw [not_or] at hend
  cases post with
  | nil =>
    rw [List.append_nil] at hchars
    exact absurd (CString.get_end hchars) hend.1
  | cons x post =>
    have hx : x = COLON := by simpa using hpost x rfl
    subst hx
    by_cases hfirst : s.get (scheme.length + 1) = 0 ∨ s.get (scheme.length + 1) ≠ SLASH
    · rw [if_pos hfirst] at h
      cases h
    rw [if_neg hfirst] at h
    rw [not_or, not_not] at hfirst
    obtain ⟨post, rfl⟩ := CString.exists_char (s := s) (scheme ++ [COLON])
      (by rw [hchars, List.append_assoc]; rfl) (by simpa using hfirst.2) (by decide)
    by_cases hsecond : s.get (scheme.length + 1 + 1) = 0 ∨ s.get (scheme.length + 1 + 1) ≠ SLASH
    · rw [if_pos hsecond] at h
      cases h
    rw [if_neg hsecond] at h
    rw [not_or, not_not] at hsecond
    obtain ⟨post, rfl⟩ := CString.exists_char (s := s) (scheme ++ [COLON, SLASH])
      (by rw [hchars, List.append_assoc]; rfl) (by simpa using hsecond.2) (by decide)
    refine ⟨scheme, post, by rw [hchars, List.append_assoc]; rfl, ?_, ?_, _, by simpa using h⟩
    · rintro rfl
      exact hend.2 rfl
    · intro hmem
      simpa using hscheme COLON hmem

/-- Every URI which is accepted is put together from parts. -/
theorem parse_uri_inv {uri : Uri} (h : (parse_uri s uri).1 = 0) : ∃ c : Composition, s.chars = c.text := by
  obtain ⟨scheme, rest, hs, hscheme, hcolon, uri', h⟩ := parse_scheme_inv h
  obtain ⟨host, after, rfl, hhost, hcolon', hslash, uri'', h⟩ := parse_host_inv hs h
  have hs' : s.chars = scheme ++ [COLON, SLASH, SLASH] ++ host ++ after := by
    rw [hs, List.append_assoc _ host]
  obtain ⟨port, tail, rfl, hport, htail⟩ := parse_port_inv hs' h
  have hresource : ∃ resource : Option Resource, tail = (resource.map Resource.text).getD [] := by
    obtain rfl | ⟨r, rfl⟩ := htail
    · exact ⟨none, rfl⟩
    · exact ⟨some r, rfl⟩
  obtain ⟨resource, rfl⟩ := hresource
  refine ⟨{ scheme, host, port, resource
            scheme_ne := hscheme
            scheme_colon := hcolon
            host_ne := hhost
            host_colon := hcolon'
            host_slash := hslash
            port_ne := fun digits hmem => (hport digits hmem).1
            port_slash := fun digits hmem => (hport digits hmem).2 }, ?_⟩
  rw [hs', ← List.append_assoc]
  rfl

end Compose

section Bytes

variable {s : CString} (c : Composition) (uri : Uri)

theorem u32_le (n : Nat) : u32 n ≤ n :=
  Nat.mod_le n 4294967296

/-- A component holds the first bytes of its part, as many as its length says. -/
theorem bytes_of_append (pre : List UInt8) {xs post : List UInt8} (h : s.chars = pre ++ (xs ++ post)) :
    UriChunk.bytes s { p := .uri_arg pre.length, len := u32 xs.length } = xs.take (u32 xs.length) := by
  simp only [UriChunk.bytes]
  rw [h, List.drop_append_of_le_length (Nat.le_refl _), List.drop_length, List.nil_append,
    List.take_append_of_le_length (u32_le _)]

theorem scheme_bytes (h : s.chars = c.text) :
    (c.uri uri).scheme.bytes s = c.scheme.take (u32 c.scheme.length) := by
  apply bytes_of_append []
  rw [h, c.text_eq]
  rfl

theorem host_bytes (h : s.chars = c.text) : (c.uri uri).host.bytes s = c.host.take (u32 c.host.length) := by
  have hchars : s.chars = c.scheme ++ [COLON, SLASH, SLASH] ++ (c.host ++ (portText c.port ++ c.resourceText)) := by
    rw [h, c.text_eq, List.append_assoc]
    rfl
  have hbytes := bytes_of_append _ hchars
  rw [List.length_append] at hbytes
  exact hbytes

theorem port_bytes {digits : List UInt8} (h : s.chars = c.text) (hport : c.port = some digits) :
    (c.uri uri).port.bytes s = digits.take (u32 digits.length) := by
  have hchars : s.chars = c.front ++ [COLON] ++ (digits ++ c.resourceText) := by
    rw [h, Composition.text, hport, portText, List.append_assoc c.front, List.append_assoc c.front]
    rfl
  have hbytes := bytes_of_append _ hchars
  rw [List.length_append] at hbytes
  simp only [Composition.uri, hport]
  exact hbytes

theorem path_bytes {r : Resource} (h : s.chars = c.text) (hr : c.resource = some r) :
    (c.uri uri).path.bytes s = r.path.take (u32 r.path.length) := by
  have hchars : s.chars = c.front ++ portText c.port ++ (r.path ++ fragmentText r.fragment) := by
    rw [h, Composition.text, Composition.resourceText, hr]
    rfl
  simp only [Composition.uri, hr]
  exact bytes_of_append _ hchars

theorem path_bytes_none (hr : c.resource = none) : (c.uri uri).path.bytes s = [SLASH] := by
  simp only [Composition.uri, hr]
  rfl

end Bytes

namespace Composition

variable (c : Composition)

/-- The length of every component is an `unsigned int`. -/
def Representable : Prop :=
  c.scheme.length < 4294967296 ∧ c.host.length < 4294967296 ∧
    (∀ digits ∈ c.port, digits.length < 4294967296) ∧ ∀ r ∈ c.resource, r.path.length < 4294967296

/-- The path of the URI, which is `/` if there is none. -/
def normalPath : List UInt8 :=
  match c.resource with
  | none => [SLASH]
  | some r => r.path

/-- Parsing the URI into a zeroed `uri_t` yields its parts. -/
def Recovered (hnul : 0 ∉ c.text) : Prop :=
  ∃ uri, parse_uri ⟨c.text, hnul⟩ {} = (0, uri) ∧
    uri.scheme.bytes ⟨c.text, hnul⟩ = c.scheme ∧
    uri.host.bytes ⟨c.text, hnul⟩ = c.host ∧
    (match c.port with
      | none => uri.port = .null
      | some digits => uri.port.bytes ⟨c.text, hnul⟩ = digits) ∧
    uri.path.bytes ⟨c.text, hnul⟩ = c.normalPath

theorem Representable.recovered {c : Composition} (hc : c.Representable) (hnul : 0 ∉ c.text) : c.Recovered hnul := by
  obtain ⟨hscheme, hhost, hport, hpath⟩ := hc
  refine ⟨c.uri {}, parse_uri_text c {} rfl, ?_, ?_, ?_, ?_⟩
  · rw [scheme_bytes c {} rfl, u32_of_lt hscheme, List.take_length]
  · rw [host_bytes c {} rfl, u32_of_lt hhost, List.take_length]
  · cases hdigits : c.port with
    | none => simp only [uri, hdigits]
    | some digits =>
      simp only
      rw [port_bytes c {} rfl hdigits, u32_of_lt (hport digits hdigits), List.take_length]
  · unfold normalPath
    cases hr : c.resource with
    | none => exact path_bytes_none c {} hr
    | some r =>
      simp only
      rw [path_bytes c {} rfl hr, u32_of_lt (hpath r hr), List.take_length]

end Composition

/-- Parsing undoes composition, and accepts nothing but compositions. -/
theorem parse_uri_composition :
    (∀ (c : Composition) (hnul : 0 ∉ c.text), c.Representable → c.Recovered hnul) ∧
      ∀ s : CString, (parse_uri s {}).1 = 0 → ∃ c : Composition, s.chars = c.text :=
  ⟨fun _ hnul hc => hc.recovered hnul, fun _ h => parse_uri_inv h⟩

namespace Sample

/-- `ws://foobar:89/one?q=two#top` -/
def composition : Composition where
  scheme := ascii "ws"
  host := ascii "foobar"
  port := some (ascii "89")
  resource := some
    { path := ascii "/one?q=two"
      fragment := some (ascii "top")
      slash := rfl
      second := by decide
      hash := by decide }
  scheme_ne := by decide
  scheme_colon := by decide
  host_ne := by decide
  host_colon := by decide
  host_slash := by decide
  port_ne := by
    rintro digits ⟨⟩
    decide
  port_slash := by
    rintro digits ⟨⟩
    decide

/-- A scheme of 2^32 letters in front of `://h`. -/
def longScheme : Composition where
  scheme := List.replicate 4294967296 97
  host := [104]
  port := none
  resource := none
  scheme_ne := by
    rw [List.ne_nil_iff_length_pos, List.length_replicate]
    omega
  scheme_colon := by
    intro hmem
    cases List.eq_of_mem_replicate hmem
  host_ne := by decide
  host_colon := by decide
  host_slash := by decide
  port_ne := by
    rintro digits ⟨⟩
  port_slash := by
    rintro digits ⟨⟩

theorem longScheme_nul_free : 0 ∉ longScheme.text := by
  rw [Composition.text_eq, List.mem_append, not_or]
  constructor
  · intro hmem
    cases List.eq_of_mem_replicate hmem
  · decide

end Sample

theorem parse_uri_composition_sample :
    Sample.composition.Recovered (by decide) ∧ ∃ c : Composition, Sample.composition.text = c.text :=
  ⟨parse_uri_composition.1 Sample.composition (by decide) ⟨by decide, by decide, by
      rintro digits ⟨⟩
      decide, by
      rintro r ⟨⟩
      decide⟩,
    parse_uri_composition.2 ⟨Sample.composition.text, by decide⟩ (by decide)⟩

/-- A component of 2^32 bytes is recorded as empty. -/
theorem long_scheme_not_recovered : ¬ ∀ (c : Composition) (hnul : 0 ∉ c.text), c.Recovered hnul := by
  intro hall
  obtain ⟨uri, huri, hscheme, -⟩ := hall Sample.longScheme Sample.longScheme_nul_free
  rw [parse_uri_text Sample.longScheme {} rfl] at huri
  cases huri
  rw [scheme_bytes Sample.longScheme {} rfl] at hscheme
  have hlen : Sample.longScheme.scheme.length = 4294967296 := List.length_replicate
  have hzero : u32 4294967296 = 0 := Nat.mod_self 4294967296
  rw [hlen, hzero, List.take_zero] at hscheme
  exact Sample.longScheme.scheme_ne hscheme.symm

end wsd

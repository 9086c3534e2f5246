import Mathlib.Data.List.GetD
import Mathlib.Data.List.TakeWhile
import Wsd.Http.Token

namespace wsd

def SLASH : UInt8 := 47
def QUESTION_MARK : UInt8 := 63
def HASH : UInt8 := 35

/-- A C string: the characters in front of its terminator, none of which is NUL. -/
structure CString where
  chars : List UInt8
  nul_free : 0 ∉ chars

namespace CString

/-- The character at index `i`, which behind the last one is the terminator. -/
def get (s : CString) (i : Nat) : UInt8 :=
  s.chars.getD i 0

end CString

/-- A pointer of `uri_t`: NULL, into the argument, or to the literal `"/"`. -/
inductive UriPointer
  | null
  | uri_arg (i : Nat)
  | literal
  deriving DecidableEq, Repr

structure UriChunk where
  p : UriPointer
  len : Nat
  deriving DecidableEq, Repr

/-- The zeroed component left by `memset`. -/
def UriChunk.null : UriChunk := { p := .null, len := 0 }

/-- The components of a URI. -/
structure Uri where
  scheme : UriChunk := .null
  host : UriChunk := .null
  port : UriChunk := .null
  path : UriChunk := .null
  deriving DecidableEq, Repr

/-- `while (*c != '\0' && !stop(*c)) c++;`, with as many rounds as there are
    characters left. -/
def scan_chars (stop : UInt8 → Bool) (s : CString) : Nat → Nat → Nat
  | 0, c => c
  | fuel + 1, c => if s.get c ≠ 0 ∧ stop (s.get c) = false then scan_chars stop s fuel (c + 1) else c

def scan_str (stop : UInt8 → Bool) (s : CString) (c : Nat) : Nat :=
  scan_chars stop s (s.chars.length - c) c

/-- What follows the label `empty_path`. -/
def empty_path (uri : Uri) : Int × Uri :=
  (0, { uri with path := { p := .literal, len := 1 } })

/-- The end of `parse_uri`, from the check for the path's first slash on. -/
def parse_path (uri_arg : CString) (uri : Uri) (c : Nat) : Int × Uri :=
  if uri_arg.get c ≠ SLASH then
    (-1, uri)
  else
    let begin := c
    let c := scan_str (· == HASH) uri_arg c
    if begin = c then
      empty_path uri
    else if uri_arg.get (begin + 1) = SLASH then
      (-1, uri)
    else
      (0, { uri with path := { p := .uri_arg begin, len := u32 (c - begin) } })

/-- The part of `parse_uri` behind the host. -/
def parse_port (uri_arg : CString) (uri : Uri) (c : Nat) : Int × Uri :=
  if uri_arg.get c = 0 then
    empty_path uri
  else if uri_arg.get c = COLON then
    let c := c + 1
    let begin := c
    let c := scan_str (· == SLASH) uri_arg c
    if begin = c then
      (-1, uri)
    else
      let uri := { uri with port := { p := .uri_arg begin, len := u32 (c - begin) } }
      if uri_arg.get c = 0 then empty_path uri else parse_path uri_arg uri c
  else
    parse_path uri_arg uri c

/-- The part of `parse_uri` behind the two slashes. -/
def parse_host (uri_arg : CString) (uri : Uri) (c : Nat) : Int × Uri :=
  let begin := c
  let c := scan_str (fun x => x == COLON || x == SLASH) uri_arg c
  if begin = c then
    (-1, uri)
  else
    parse_port uri_arg { uri with host := { p := .uri_arg begin, len := u32 (c - begin) } } c

def parse_uri (uri_arg : CString) (uri : Uri) : Int × Uri :=
  let begin := 0
  let c := scan_str (· == COLON) uri_arg begin
  if uri_arg.get c = 0 ∨ begin = c then
    (-1, uri)
  else
    let uri := { uri with scheme := { p := .uri_arg begin, len := u32 (c - begin) } }
    let c := c + 1
    if uri_arg.get c = 0 ∨ uri_arg.get c ≠ SLASH then
      (-1, uri)
    else
      let c := c + 1
      if uri_arg.get c = 0 ∨ uri_arg.get c ≠ SLASH then
        (-1, uri)
      else
        parse_host uri_arg uri (c + 1)

/-- The bytes which a component points to. -/
def UriChunk.bytes (uri_arg : CString) (chk : UriChunk) : List UInt8 :=
  match chk.p with
  | .null => []
  | .uri_arg i => (uri_arg.chars.drop i).take chk.len
  | .literal => [SLASH].take chk.len

section Scan

variable {s : CString} {stop : UInt8 → Bool} {pre xs post : List UInt8} {x : UInt8}

/-- A place in a string is one of its characters or the terminator. -/
theorem CString.get_append (pre post : List UInt8) (h : s.chars = pre ++ post) : s.get pre.length = post.headD 0 := by
  unfold CString.get
  rw [h, List.getD_append_right _ _ _ _ (Nat.le_refl _), Nat.sub_self]
  cases post <;> rfl

theorem CString.get_end (h : s.chars = pre) : s.get pre.length = 0 :=
  CString.get_append pre [] (by rw [h, List.append_nil])

theorem CString.get_char (pre post : List UInt8) (h : s.chars = pre ++ x :: post) : s.get pre.length = x :=
  CString.get_append pre (x :: post) h

theorem CString.char_ne_zero (h : s.chars = pre ++ x :: post) : x ≠ 0 := by
  intro hx
  apply s.nul_free
  rw [h, hx]
  simp

/-- A character other than NUL is not the terminator. -/
theorem CString.exists_char (pre : List UInt8) (h : s.chars = pre ++ post) (hget : s.get pre.length = x) (hx : x ≠ 0) :
    ∃ rest, post = x :: rest := by
  rw [CString.get_append pre post h] at hget
  cases post with
  | nil => exact absurd hget.symm hx
  | cons y rest => exact ⟨rest, congrArg (· :: rest) hget⟩

/-- A scan passes the characters which do not stop it, up to one which does or the end. -/
theorem scan_chars_append (xs : List UInt8) :
    ∀ pre : List UInt8, s.chars = pre ++ (xs ++ post) → (∀ x ∈ xs, stop x = false) →
      (∀ x ∈ post.head?, stop x = true) →
        scan_chars stop s (xs.length + post.length) pre.length = pre.length + xs.length := by
  induction xs with
  | nil =>
    intro pre h _ hstop
    cases post with
    | nil => rfl
    | cons x post =>
      have hget : s.get pre.length = x := CString.get_char pre post h
      have hx : stop x = true := hstop x rfl
      simp [scan_chars, hget, hx]
  | cons x xs ih =>
    intro pre h hxs hstop
    have hget : s.get pre.length = x := CString.get_char pre (xs ++ post) h
    have hnext := ih (pre ++ [x]) (by rw [h]; simp) (fun y hy => hxs y (List.mem_cons_of_mem _ hy)) hstop
    rw [List.length_cons, show xs.length + 1 + post.length = xs.length + post.length + 1 by omega, scan_chars, hget,
      if_pos ⟨CString.char_ne_zero h, hxs x List.mem_cons_self⟩]
    rw [List.length_append, List.length_singleton] at hnext
    rw [hnext]
    omega

theorem scan_str_append (stop : UInt8 → Bool) (pre : List UInt8) (h : s.chars = pre ++ (xs ++ post)) (hxs : ∀ x ∈ xs, stop x = false)
    (hstop : ∀ x ∈ post.head?, stop x = true) : scan_str stop s pre.length = pre.length + xs.length := by
  unfold scan_str
  have hlen : s.chars.length - pre.length = xs.length + post.length := by
    rw [h, List.length_append, List.length_append]
    omega
  rw [hlen, scan_chars_append xs pre h hxs hstop]

/-- Every scan ends in front of the first character which stops it, or at the end. -/
theorem scan_str_split (stop : UInt8 → Bool) (pre : List UInt8) {rest : List UInt8} (h : s.chars = pre ++ rest) :
    ∃ xs post, rest = xs ++ post ∧ (∀ x ∈ xs, stop x = false) ∧ (∀ x ∈ post.head?, stop x = true) ∧
      scan_str stop s pre.length = (pre ++ xs).length := by
  have hsplit : rest = rest.takeWhile (fun x => !stop x) ++ rest.dropWhile (fun x => !stop x) :=
    List.takeWhile_append_dropWhile.symm
  have hxs : ∀ x ∈ rest.takeWhile (fun x => !stop x), stop x = false := by
    intro x hx
    simpa using List.mem_takeWhile_imp hx
  have hpost : ∀ x ∈ (rest.dropWhile (fun x => !stop x)).head?, stop x = true := by
    intro x hx
    have hnot := List.head?_dropWhile_not (fun x => !stop x) rest
    rw [Option.mem_def.mp hx] at hnot
    simpa using hnot
  refine ⟨_, _, hsplit, hxs, hpost, ?_⟩
  rw [List.length_append]
  exact scan_str_append stop pre (by rw [h, ← hsplit]) hxs hpost

end Scan

end wsd

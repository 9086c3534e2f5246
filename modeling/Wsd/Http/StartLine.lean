import Wsd.Http.Field

namespace wsd

/-- A method, a target and the version, with a space between them. -/
structure RequestText (method target text : List UInt8) : Prop where
  method_upper : ∀ c ∈ method, isupper c = true
  target_space : SPACE ∉ target
  text_eq : text = method ++ SPACE :: (target ++ SPACE :: HTTP_version)

/-- The first element at which a predicate holds splits a list in one way only. -/
theorem split_unique {α : Type} (stop : α → Bool) {xs xs' rest rest' : List α} {x x' : α}
    (hxs : ∀ y ∈ xs, stop y = false) (hx : stop x = true) (hxs' : ∀ y ∈ xs', stop y = false) (hx' : stop x' = true)
    (h : xs ++ x :: rest = xs' ++ x' :: rest') : xs = xs' ∧ x = x' ∧ rest = rest' := by
  induction xs generalizing xs' with
  | nil =>
    cases xs' with
    | nil =>
      obtain ⟨rfl, rfl⟩ := List.cons.inj h
      exact ⟨rfl, rfl, rfl⟩
    | cons y ys =>
      obtain ⟨rfl, -⟩ := List.cons.inj h
      rw [hxs' x List.mem_cons_self] at hx
      cases hx
  | cons y ys ih =>
    cases xs' with
    | nil =>
      obtain ⟨rfl, -⟩ := List.cons.inj h
      rw [hxs y List.mem_cons_self] at hx'
      cases hx'
    | cons z zs =>
      obtain ⟨rfl, htail⟩ := List.cons.inj h
      obtain ⟨rfl, hx, hrest⟩ := ih (fun w hw => hxs w (List.mem_cons_of_mem _ hw))
        (fun w hw => hxs' w (List.mem_cons_of_mem _ hw)) htail
      exact ⟨rfl, hx, hrest⟩

namespace RequestText

variable {method target method' target' text : List UInt8}

theorem upper_stop (h : RequestText method target text) : ∀ c ∈ method, (!isupper c) = false := by
  intro c hc
  rw [h.method_upper c hc]
  rfl

theorem space_stop (h : RequestText method target text) : ∀ c ∈ target, (c == SPACE) = false := by
  intro c hc
  rw [beq_eq_false_iff_ne]
  rintro rfl
  exact h.target_space hc

/-- There is one way only to take a request line apart. -/
theorem unique (h : RequestText method target text) (h' : RequestText method' target' text) :
    method = method' ∧ target = target' := by
  have heq := h.text_eq.symm.trans h'.text_eq
  obtain ⟨hmethod, -, hrest⟩ := split_unique (fun c => !isupper c) h.upper_stop (by decide) h'.upper_stop
    (by decide) heq
  obtain ⟨htarget, -, -⟩ := split_unique (fun c => c == SPACE) h.space_stop (by decide) h'.space_stop
    (by decide) hrest
  exact ⟨hmethod, htarget⟩

end RequestText

section Scan

variable {data : Memory UInt8}

/-- The loop stops behind the first character at which it should, or has used up its rounds. -/
theorem scan_until_split (stop : UInt8 → Bool) (n i cur : Nat) :
    (∃ xs x rest, data.window cur n = xs ++ x :: rest ∧ (∀ y ∈ xs, stop y = false) ∧ stop x = true ∧
        scan_until stop data n i cur = (i + xs.length + 1, cur + xs.length + 1)) ∨
      (∀ y ∈ data.window cur n, stop y = false) ∧ scan_until stop data n i cur = (i + n + 1, cur + n) := by
  induction n generalizing i cur with
  | zero => exact .inr ⟨by simp, rfl⟩
  | succ n ih =>
    rw [Memory.window_succ, scan_until]
    cases hstop : stop (data cur) with
    | true => exact .inl ⟨[], data cur, _, rfl, by simp, hstop, rfl⟩
    | false =>
      simp only [Bool.false_eq_true, if_false]
      obtain ⟨xs, x, rest, hwindow, hxs, hx, hscan⟩ | ⟨hall, hscan⟩ := ih (i + 1) (cur + 1)
      · refine .inl ⟨data cur :: xs, x, rest, by rw [hwindow]; rfl, ?_, hx, ?_⟩
        · rintro y (_ | ⟨_, hy⟩)
          · exact hstop
          · exact hxs y hy
        · rw [hscan, List.length_cons]
          exact Prod.ext (by simp only; omega) (by simp only; omega)
      · refine .inr ⟨?_, ?_⟩
        · rintro y (_ | ⟨_, hy⟩)
          · exact hstop
          · exact hall y hy
        · rw [hscan]
          exact Prod.ext (by simp only; omega) (by simp only; omega)

/-- A list found in a window is found at its place. -/
theorem window_split {p len : Nat} {xs rest : List UInt8} {x : UInt8} (h : data.window p len = xs ++ x :: rest) :
    len = xs.length + 1 + rest.length ∧ data.window p xs.length = xs ∧ data (p + xs.length) = x ∧
      data.window (p + xs.length + 1) rest.length = rest := by
  have hlen : len = xs.length + 1 + rest.length := by
    have hlen := congrArg List.length h
    rw [Memory.length_window, List.length_append, List.length_cons] at hlen
    omega
  have hrest : xs.length + 1 + rest.length = xs.length + (rest.length + 1) := by omega
  rw [hlen, hrest, Memory.window_add, Memory.window_succ] at h
  obtain ⟨hxs, hrest⟩ := List.append_inj h (Memory.length_window ..)
  obtain ⟨hx, hrest⟩ := List.cons.inj hrest
  exact ⟨hlen, hxs, hx, hrest⟩

end Scan

section RequestLine

variable {data : Memory UInt8} {p len : Nat} (req : HttpReq) (wsd_errno : Errno)

/-- What a request line of the given parts leaves in the request: the version's pointer is the target's. -/
def requestLine (p : Nat) (method target : List UInt8) (req : HttpReq) : HttpReq :=
  { req with
    method := { p := some p, len := method.length }
    req_target := { p := some (p + method.length + 1), len := target.length }
    http_ver := { p := some (p + method.length + 1), len := 8 } }

/-- What is left behind the target is the version. -/
theorem version_iff {cur i : Nat} {rest : List UInt8} (hlen : len < 4294967296) (hi : len = i + rest.length)
    (hrest : data.window cur rest.length = rest) :
    (u32 (len + 4294967296 - i) ≠ 8 ∨ data.window cur 8 ≠ HTTP_version) ↔ rest ≠ HTTP_version := by
  have hleft : u32 (len + 4294967296 - i) = rest.length := by
    unfold u32
    omega
  have height : HTTP_version.length = 8 := rfl
  rw [hleft, ← not_and_or, not_iff_not]
  constructor
  · rintro ⟨hlen, htext⟩
    rw [hlen] at hrest
    exact hrest.symm.trans htext
  · rintro rfl
    exact ⟨height, hrest⟩

/-- A start line is accepted exactly if it is a method of upper-case letters or none, a target
    without a space, and the version. -/
theorem parse_request_line_spec (hlen : len < 4294967296) :
    (∃ method target, RequestText method target (data.window p len) ∧
        parse_request_line data { p := some p, len } req wsd_errno =
          .ok (0, requestLine p method target req, wsd_errno)) ∨
      (¬ ∃ method target, RequestText method target (data.window p len)) ∧
        ∃ req' errno', parse_request_line data { p := some p, len } req wsd_errno = .ok (-1, req', errno') := by
  unfold parse_request_line
  by_cases hzero : len = 0
  · rw [if_pos hzero]
    refine .inr ⟨?_, _, _, rfl⟩
    rintro ⟨method, target, htext⟩
    have hnil := htext.text_eq
    rw [hzero, Memory.window_zero] at hnil
    cases method <;> cases hnil
  simp only [if_neg hzero]
  obtain ⟨method, x, rest, hwindow, hupper, hx, hscan⟩ | ⟨hall, hscan⟩ :=
    @scan_until_split data (fun c => !isupper c) len 0 p
  · obtain ⟨hlen', -, hat, hrest⟩ := window_split hwindow
    have hsub : p + method.length + 1 - p = method.length + 1 := by omega
    simp only [hscan, hsub, Nat.add_sub_cancel, Nat.zero_add, hat]
    -- The method is what stands in front of the first character which is no letter.
    have hsame {m t : List UInt8} (h : RequestText m t (data.window p len)) :
        x = SPACE ∧ rest = t ++ SPACE :: HTTP_version := by
      obtain ⟨-, hx, hrest⟩ := split_unique (fun c => !isupper c) hupper hx h.upper_stop (by decide)
        (hwindow.symm.trans h.text_eq)
      exact ⟨hx, hrest⟩
    by_cases hspace : x = SPACE
    · subst hspace
      rw [if_neg (by simp)]
      have hn : len - (method.length + 1) = rest.length := by omega
      rw [hn]
      obtain ⟨target, y, after, hsplit, htarget, hy, hscan2⟩ | ⟨hnone, hscan2⟩ :=
        @scan_until_split data (fun c => c == SPACE) rest.length (method.length + 1) (p + method.length + 1)
      · have hy : y = SPACE := beq_iff_eq.mp hy
        subst hy
        obtain ⟨hlen'', -, -, hafter⟩ := window_split hsplit
        rw [hrest] at hsplit
        have hsub2 : p + method.length + 1 + target.length + 1 - (p + method.length + 1) = target.length + 1 := by omega
        simp only [hscan2, hsub2, Nat.add_sub_cancel]
        rw [if_neg (by omega)]
        by_cases hversion : after = HTTP_version
        · rw [if_neg ((version_iff hlen (by omega) hafter).not.mpr (not_not.mpr hversion))]
          refine .inl ⟨method, target, ⟨fun c hc => by simpa using hupper c hc, fun hmem => ?_, ?_⟩, rfl⟩
          · simpa using htarget SPACE hmem
          · rw [hwindow, hsplit, hversion]
        · rw [if_pos ((version_iff hlen (by omega) hafter).mpr hversion)]
          refine .inr ⟨?_, _, _, rfl⟩
          rintro ⟨m, t, h⟩
          obtain ⟨-, hrest'⟩ := hsame h
          obtain ⟨-, -, hafter'⟩ := split_unique (fun c => c == SPACE) htarget (by decide) h.space_stop
            (by decide) (hsplit.symm.trans hrest')
          exact hversion hafter'
      · rw [hrest] at hnone
        have hsub2 : p + method.length + 1 + rest.length - (p + method.length + 1) = rest.length := by omega
        simp only [hscan2, hsub2]
        have hno : ¬ ∃ m t, RequestText m t (data.window p len) := by
          rintro ⟨m, t, h⟩
          obtain ⟨-, hrest'⟩ := hsame h
          have hmem : SPACE ∈ rest := by
            rw [hrest']
            exact List.mem_append_right _ List.mem_cons_self
          simpa using hnone SPACE hmem
        split
        · exact .inr ⟨hno, _, _, rfl⟩
        · rw [if_pos (.inl (by unfold u32; omega))]
          exact .inr ⟨hno, _, _, rfl⟩
    · rw [if_pos (.inr hspace)]
      refine .inr ⟨?_, _, _, rfl⟩
      rintro ⟨m, t, h⟩
      exact hspace (hsame h).1
  · have hlast : data (p + len - 1) ≠ SPACE := by
      intro hspace
      have hmem : data (p + len - 1) ∈ data.window p len := by
        rw [List.mem_iff_getElem]
        refine ⟨len - 1, by rw [Memory.length_window]; omega, ?_⟩
        rw [Memory.getElem_window, show p + (len - 1) = p + len - 1 by omega]
      have hupper := hall _ hmem
      rw [hspace] at hupper
      cases hupper
    simp only [hscan]
    rw [if_pos (.inr hlast)]
    refine .inr ⟨?_, _, _, rfl⟩
    rintro ⟨m, t, h⟩
    have hmem : SPACE ∈ data.window p len := by
      rw [h.text_eq]
      exact List.mem_append_right _ List.mem_cons_self
    have hupper := hall SPACE hmem
    cases hupper

/-- The parser returns 0 exactly for a method of at least one upper-case letter, a target without a
    space and the version, and then its chunks are these three. -/
def Decomposed (data : Memory UInt8) (tok : Chunk) (req : HttpReq) (wsd_errno : Errno) : Prop :=
  ∃ rv req' errno', parse_request_line data tok req wsd_errno = .ok (rv, req', errno') ∧
    (rv = 0 ↔ ∃ method target, RequestText method target (tok.bytes data) ∧ method ≠ []) ∧
    ∀ method target, RequestText method target (tok.bytes data) → rv = 0 →
      req'.method.bytes data = method ∧ req'.req_target.bytes data = target ∧ req'.http_ver.bytes data = HTTP_version

/-- The eight bytes from the target on are the version only if the target starts with it. -/
theorem take_eight_iff {target : List UInt8} :
    (target ++ SPACE :: HTTP_version).take 8 = HTTP_version ↔ HTTP_version <+: target := by
  constructor
  · intro h
    have hprefix : HTTP_version <+: target ++ SPACE :: HTTP_version := ⟨_, h ▸ List.take_append_drop 8 _⟩
    obtain ⟨rest, hrest⟩ := hprefix
    obtain ⟨xs, hxs, -⟩ | ⟨xs, hxs, htail⟩ := List.append_eq_append_iff.mp hrest
    · exact ⟨xs, hxs.symm⟩
    · -- The target is shorter, and the space behind it would be one of the version's characters.
      cases xs with
      | nil => exact ⟨[], by rw [hxs]; simp⟩
      | cons x xs =>
        obtain ⟨rfl, -⟩ := List.cons.inj htail
        have hmem : SPACE ∈ HTTP_version := by
          rw [hxs]
          exact List.mem_append_right _ List.mem_cons_self
        exact absurd hmem (by decide)
  · rintro ⟨rest, rfl⟩
    rfl

theorem requestLine_bytes {method target : List UInt8} (htext : RequestText method target (data.window p len)) :
    (requestLine p method target req).method.bytes data = method ∧
      (requestLine p method target req).req_target.bytes data = target ∧
      ((requestLine p method target req).http_ver.bytes data = HTTP_version ↔ HTTP_version <+: target) := by
  obtain ⟨hlen, hmethod, -, hrest⟩ := window_split htext.text_eq
  obtain ⟨hlen', htarget, -, -⟩ := window_split hrest
  have height : HTTP_version.length = 8 := rfl
  have hversion : data.window (p + method.length + 1) 8 = (target ++ SPACE :: HTTP_version).take 8 := by
    rw [← hrest, Memory.take_window _ (by omega)]
  refine ⟨hmethod, htarget, ?_⟩
  rw [← take_eight_iff, ← hversion]
  rfl

/-- The request line is taken apart correctly if every method is there and the target itself
    starts with the version, whose chunk is cut from the target. -/
theorem parse_request_line_decomposed_iff (hlen : len < 2147483648) :
    Decomposed data { p := some p, len } req wsd_errno ↔
      ∀ method target, RequestText method target (data.window p len) → method ≠ [] ∧ HTTP_version <+: target := by
  have hbytes : Chunk.bytes data { p := some p, len } = data.window p len := rfl
  unfold Decomposed
  rw [hbytes]
  obtain ⟨method, target, htext, hparse⟩ | ⟨hno, req', errno, hparse⟩ :=
    @parse_request_line_spec data p len req wsd_errno (by omega)
  · obtain ⟨hmethod, htarget, hversion⟩ := requestLine_bytes req htext
    constructor
    · rintro ⟨rv, line, e, h, hiff, hparts⟩ m t htext'
      rw [hparse] at h
      cases h
      obtain ⟨rfl, rfl⟩ := htext.unique htext'
      obtain ⟨m, t, htext'', hne⟩ := hiff.mp rfl
      obtain ⟨rfl, rfl⟩ := htext.unique htext''
      exact ⟨hne, hversion.mp (hparts _ _ htext rfl).2.2⟩
    · intro h
      obtain ⟨hne, hprefix⟩ := h method target htext
      refine ⟨_, _, _, hparse, ⟨fun _ => ⟨method, target, htext, hne⟩, fun _ => rfl⟩, fun m t htext' _ => ?_⟩
      obtain ⟨rfl, rfl⟩ := htext.unique htext'
      exact ⟨hmethod, htarget, hversion.mpr hprefix⟩
  · constructor
    · intro _ m t htext
      exact absurd ⟨m, t, htext⟩ hno
    · intro _
      refine ⟨_, _, _, hparse, ⟨fun h => absurd h (by decide), ?_⟩, fun m t htext _ => absurd ⟨m, t, htext⟩ hno⟩
      rintro ⟨m, t, htext, -⟩
      exact absurd ⟨m, t, htext⟩ hno

end RequestLine

namespace Sample

/-- A receive buffer with a start line. -/
def lineMemory (line : String) : Memory UInt8 :=
  Memory.store (fun _ => 0) 0 (ascii line)

end Sample

theorem parse_request_line_decomposed_iff_sample :
    Decomposed (Sample.lineMemory "GET HTTP/1.1/x HTTP/1.1") { p := some 0, len := 23 } {} .WSD_CHECKERRNO := by
  apply (parse_request_line_decomposed_iff {} .WSD_CHECKERRNO (by decide)).mpr
  intro method target htext
  have hline : RequestText (ascii "GET") (ascii "HTTP/1.1/x") ((Sample.lineMemory "GET HTTP/1.1/x HTTP/1.1").window 0 23) :=
    ⟨by decide +kernel, by decide, by decide +kernel⟩
  obtain ⟨rfl, rfl⟩ := hline.unique htext
  exact ⟨by decide, by decide⟩

/-- The version of `GET / HTTP/1.1` is read from the target. -/
theorem version_from_target :
    ¬ ∀ (data : Memory UInt8) (p len : Nat), len < 2147483648 →
      Decomposed data { p := some p, len } {} .WSD_CHECKERRNO := by
  intro hall
  obtain ⟨rv, line, e, hparse, -, hparts⟩ := hall (Sample.lineMemory "GET / HTTP/1.1") 0 14 (by decide)
  obtain ⟨r, hr, hrv, hver⟩ := Except.exists_ok
    (x := parse_request_line (Sample.lineMemory "GET / HTTP/1.1") { p := some 0, len := 14 } {} .WSD_CHECKERRNO)
    (P := fun r => r.1 = 0 ∧ r.2.1.http_ver.bytes (Sample.lineMemory "GET / HTTP/1.1") ≠ HTTP_version)
    (by decide +kernel)
  rw [hr] at hparse
  cases hparse
  exact hver (hparts (ascii "GET") (ascii "/") ⟨by decide +kernel, by decide, by decide +kernel⟩ hrv).2.2

end wsd

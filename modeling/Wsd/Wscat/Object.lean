import Wsd.Json.Braces
import Wsd.Loops.Progress

namespace wsd

section Span

variable {b : UInt8} {w rest : List UInt8} {k : Nat} {num : Int}

/-- Behind the first brace the counter follows all braces, until it is back at zero. -/
theorem spanFrom_cons (hnum : 0 < num) :
    spanFrom (b :: w) k num =
      if num + Json.brace b = 0 then some (k + 1) else spanFrom w (k + 1) (num + Json.brace b) := by
  rw [spanFrom, Json.brace]
  by_cases hopen : b = 0x7b
  · have hfirst : ¬ num = -1 := by omega
    have hzero : ¬ num + 1 = 0 := by omega
    rw [if_pos hopen, if_pos hopen, if_neg hfirst, if_neg hzero]
  rw [if_neg hopen, if_neg hopen]
  by_cases hclose : b = 0x7d
  · rw [if_pos hclose, if_pos hclose]
    rfl
  · have hzero : ¬ num + 0 = 0 := by omega
    rw [if_neg hclose, if_neg hclose, if_neg hzero, Int.add_zero]

/-- The span ends with the given bytes if the counter reaches zero with the last one, and not before. -/
theorem spanFrom_append_iff (hnum : 0 < num) :
    spanFrom (w ++ rest) k num = some (k + w.length) ↔
      num + Json.raw w = 0 ∧ ∀ n < w.length, 0 < num + Json.raw (w.take n) := by
  induction w generalizing k num with
  | nil =>
    refine iff_of_false (fun h => Nat.lt_irrefl k (spanFrom_bounds h).1) fun h => ?_
    have hzero := h.1
    rw [Json.raw_nil] at hzero
    omega
  | cons b w ih =>
    have hlast : k + (b :: w).length = k + 1 + w.length := by
      rw [List.length_cons]
      omega
    rw [List.cons_append, spanFrom_cons hnum, hlast]
    by_cases hzero : num + Json.brace b = 0
    · -- The counter is back at zero behind this byte, which has to be the last one.
      rw [if_pos hzero]
      constructor
      · intro h
        obtain rfl : w = [] := by
          rw [← List.length_eq_zero_iff]
          have hlen := Option.some.inj h
          omega
        refine ⟨by simpa using hzero, fun n hn => ?_⟩
        obtain rfl : n = 0 := by simpa using hn
        simpa using hnum
      · rintro ⟨-, hpos⟩
        by_cases hw : w.length = 0
        · rw [hw, Nat.add_zero]
        · have hone := hpos 1 (by rw [List.length_cons]; omega)
          simp only [List.take_succ_cons, List.take_zero, Json.raw_cons, Json.raw_nil] at hone
          omega
    · rw [if_neg hzero]
      have hstep : 0 ≤ num + Json.brace b := by
        unfold Json.brace
        split
        · omega
        · split <;> omega
      rw [ih (by omega), Json.raw_cons, ← Int.add_assoc]
      refine and_congr_right fun _ => ⟨fun h n hn => ?_, fun h n hn => ?_⟩
      · cases n with
        | zero => simpa using hnum
        | succ n =>
          rw [List.take_succ_cons, Json.raw_cons, ← Int.add_assoc]
          exact h n (Nat.lt_of_succ_lt_succ hn)
      · have hnext := h (n + 1) (Nat.succ_lt_succ hn)
        rwa [List.take_succ_cons, Json.raw_cons, ← Int.add_assoc] at hnext

/-- The span of an object in front of any bytes is the object, unless the braces in its strings hide its end. -/
theorem spanFrom_object_iff {text : List UInt8} (h : Json.Object text) :
    spanFrom (text ++ rest) 0 (-1) = some text.length ↔ Json.Harmless text := by
  rw [h.harmless_iff]
  obtain ⟨w, rfl⟩ : ∃ w, text = 0x7b :: w := by
    obtain ⟨inner, rfl, -⟩ := h.braces
    exact ⟨inner ++ [0x7d], rfl⟩
  have hfirst (w : List UInt8) : spanFrom (0x7b :: w) 0 (-1) = spanFrom w 1 1 := rfl
  have hlen : (0x7b :: w).length = 1 + w.length := Nat.add_comm _ _
  have hopen (w : List UInt8) : Json.raw (0x7b :: w) = 1 + Json.raw w := Json.raw_cons _ _
  rw [List.cons_append, hfirst, hlen, spanFrom_append_iff (by decide), hopen]
  refine and_congr_right fun _ => ⟨fun h n hn hpos => ?_, fun h n hn => ?_⟩
  · cases n with
    | zero => exact absurd hpos (Nat.lt_irrefl 0)
    | succ n =>
      rw [List.take_succ_cons, hopen]
      exact h n (by omega)
  · have hnext := h (n + 1) (by omega) (Nat.succ_pos n)
    rwa [List.take_succ_cons, hopen] at hnext

theorem balanced_span_object_iff {buf : Skb} {text : List UInt8} (hok : buf.Ok) (h : Json.Object text)
    (hread : buf.readable = text ++ rest) : balanced_span buf 0x7b 0x7d = text.length ↔ Json.Harmless text := by
  rw [← @spanFrom_object_iff rest text h, balanced_span_eq hok, hread]
  cases spanFrom (text ++ rest) 0 (-1) with
  | none => exact iff_of_false (by simp only; omega) (fun h => nomatch h)
  | some n =>
    simp only [Option.some.injEq]
    omega

end Span

/-- One call of the handler puts the text, and no other bytes of the input, into one frame for the websocket. -/
structure PutsText (s : Stdin) (wssk : Sk) (text : List UInt8) (s' : Stdin) : Prop where
  decode : stdin_decode_frame { s with wssk := some wssk } = .ok (0, s')
  frame : ∃ (f : Frame) (sendbuf : Skb), f.opcode = WS_TEXT_FRAME ∧ f.payload = text ∧
    wssk.sendbuf.Appended (f.masked DATA_KEY) sendbuf ∧ s'.wssk = some { wssk with sendbuf }
  input : s.sk.recvbuf.readable = text ++ s'.sk.recvbuf.readable

/-- Successive calls, before each of which the websocket is as given, put the given texts. -/
def PutsTexts : Stdin → List (Sk × List UInt8) → Prop
  | _, [] => True
  | s, (wssk, text) :: calls => ∃ s', PutsText s wssk text s' ∧ PutsTexts s' calls

/-- The websocket has room for the whole of a frame. -/
structure Sk.HasRoom (wssk : Sk) (payload_len : Nat) : Prop where
  ok : wssk.sendbuf.Ok
  room : maskedLen payload_len ≤ skb_wrsz wssk.sendbuf

/-- What the handler relies on in JSON mode. -/
structure Stdin.ReadsJson (s : Stdin) : Prop where
  ok : s.sk.recvbuf.Ok
  is_json : s.is_json = true
  keeps : s.Keeps

section Object

variable {s s' : Stdin} {wssk : Sk} {text rest : List UInt8}

/-- The handler takes what its span covers, wherever the frame ends up. -/
theorem PutsText.next (h : PutsText s wssk text s') (hok : s.sk.recvbuf.Ok) :
    nextLen s.is_json s.sk.recvbuf.readable = some text.length := by
  obtain ⟨n, hnext, hok', htaken⟩ := @stdin_decode_frame_takes { s with wssk := some wssk } s' hok h.decode
  have hbounds := nextLen_bounds hnext
  have hlen := congrArg List.length h.input
  rw [List.length_append, hok.length_readable_eq, hok'.length_readable_eq] at hlen
  rw [hok.length_readable_eq] at hbounds
  obtain rfl : n = text.length := by
    change skb_rdsz s'.sk.recvbuf = skb_rdsz s.sk.recvbuf - n at htaken
    omega
  exact hnext

theorem Stdin.ReadsJson.nextLen_iff (h : s.ReadsJson) (hobject : Json.Object text)
    (hread : s.sk.recvbuf.readable = text ++ rest) :
    nextLen s.is_json s.sk.recvbuf.readable = some text.length ↔ Json.Harmless text := by
  have hne : text ++ rest ≠ [] := by
    obtain ⟨inner, rfl, -⟩ := hobject.braces
    exact fun hnil => nomatch hnil
  rw [h.is_json, hread, nextLen, if_neg hne, if_pos rfl, spanFrom_object_iff hobject]

/-- An object is put whole and alone, unless the braces in its strings hide its end. -/
theorem Stdin.ReadsJson.putsText (h : s.ReadsJson) (hroom : wssk.HasRoom text.length) (hobject : Json.Object text)
    (hread : s.sk.recvbuf.readable = text ++ rest) (hharmless : Json.Harmless text) :
    ∃ s', PutsText s wssk text s' ∧ s'.ReadsJson ∧ s'.sk.recvbuf.readable = rest := by
  have hnext := (h.nextLen_iff hobject hread).mpr hharmless
  obtain ⟨last_input, recvbuf, sendbuf, f, hsome, hdecode, hok, hleft, htext, hpayload, happended, -⟩ :=
    @stdin_decode_frame_sent { s with wssk := some wssk } wssk text.length h.ok hroom.ok h.keeps rfl hnext hroom.room
  have hrest : recvbuf.readable = rest := by
    rw [hleft]
    change s.sk.recvbuf.readable.drop text.length = rest
    rw [hread, List.drop_left]
  have hobj : f.payload = text := by
    rw [hpayload]
    change s.sk.recvbuf.readable.take text.length = text
    rw [hread, List.take_left]
  refine ⟨_, ⟨hdecode, ⟨f, sendbuf, htext, hobj, happended, rfl⟩, ?_⟩, ⟨hok, h.is_json, ?_⟩, hrest⟩
  · change s.sk.recvbuf.readable = text ++ recvbuf.readable
    rw [hread, hrest]
  · exact fun hrepeat => hsome.trans (h.keeps hrepeat)

theorem Stdin.ReadsJson.putsText_iff (h : s.ReadsJson) (hroom : wssk.HasRoom text.length) (hobject : Json.Object text)
    (hread : s.sk.recvbuf.readable = text ++ rest) : (∃ s', PutsText s wssk text s') ↔ Json.Harmless text := by
  constructor
  · rintro ⟨s', hputs⟩
    exact (h.nextLen_iff hobject hread).mp (hputs.next h.ok)
  · intro hharmless
    obtain ⟨s', hputs, -⟩ := h.putsText hroom hobject hread hharmless
    exact ⟨s', hputs⟩

theorem Stdin.ReadsJson.putsTexts_iff {calls : List (Sk × List UInt8)} (h : s.ReadsJson)
    (hcalls : ∀ call ∈ calls, call.1.HasRoom call.2.length ∧ Json.Object call.2)
    (hread : s.sk.recvbuf.readable = (calls.map Prod.snd).flatten ++ rest) :
    PutsTexts s calls ↔ ∀ call ∈ calls, Json.Harmless call.2 := by
  induction calls generalizing s with
  | nil => exact iff_of_true trivial (List.forall_mem_nil _)
  | cons call calls ih =>
    obtain ⟨wssk, text⟩ := call
    obtain ⟨⟨hroom, hobject⟩, hcalls⟩ := List.forall_mem_cons.mp hcalls
    rw [List.map_cons, List.flatten_cons, List.append_assoc] at hread
    rw [List.forall_mem_cons]
    constructor
    · rintro ⟨s', hputs, hrest⟩
      have hharmless := (h.nextLen_iff hobject hread).mp (hputs.next h.ok)
      obtain ⟨s1, hputs1, hreads, hleft⟩ := h.putsText hroom hobject hread hharmless
      have heq := hputs.decode.symm.trans hputs1.decode
      cases heq
      exact ⟨hharmless, (ih hreads hcalls hleft).mp hrest⟩
    · rintro ⟨hharmless, hothers⟩
      obtain ⟨s', hputs, hreads, hleft⟩ := h.putsText hroom hobject hread hharmless
      exact ⟨s', hputs, (ih hreads hcalls hleft).mpr hothers⟩

/-- In JSON mode an object, and any number of objects which follow it, are cut out of the input exactly as
    far as the braces in their strings do not hide where they end; strings without braces hide nothing. -/
theorem json_object_frames_iff (hobject : Json.Object text) :
    (∀ (buf : Skb) (rest : List UInt8), buf.Ok → buf.readable = text ++ rest →
      (balanced_span buf 0x7b 0x7d = text.length ↔ Json.Harmless text)) ∧
    (∀ (s : Stdin) (wssk : Sk) (rest : List UInt8), s.ReadsJson → wssk.HasRoom text.length →
      s.sk.recvbuf.readable = text ++ rest → ((∃ s', PutsText s wssk text s') ↔ Json.Harmless text)) ∧
    (∀ (s : Stdin) (wssk : Sk) (calls : List (Sk × List UInt8)) (rest : List UInt8), s.ReadsJson →
      wssk.HasRoom text.length → (∀ call ∈ calls, call.1.HasRoom call.2.length ∧ Json.Object call.2) →
      s.sk.recvbuf.readable = text ++ (calls.map Prod.snd).flatten ++ rest →
      (PutsTexts s ((wssk, text) :: calls) ↔ Json.Harmless text ∧ ∀ call ∈ calls, Json.Harmless call.2)) ∧
    (Json.BraceFree .outside text → Json.Harmless text) := by
  refine ⟨fun buf rest hok hread => balanced_span_object_iff hok hobject hread,
    fun s wssk rest h hroom hread => h.putsText_iff hroom hobject hread, ?_, hobject.harmless_of_braceFree⟩
  intro s wssk calls rest h hroom hcalls hread
  rw [h.putsTexts_iff (List.forall_mem_cons.mpr ⟨⟨hroom, hobject⟩, hcalls⟩) hread, List.forall_mem_cons]

end Object

namespace Sample

/-- An object with one member. -/
def objectOf (name value : List UInt8) : List UInt8 :=
  [0x7b] ++ ([0x22] ++ name ++ [0x22] ++ [0x3a] ++ value) ++ [0x7d]

theorem object_objectOf {name value : List UInt8} (hname : Json.Chars name) (hvalue : Json.Text .value value) :
    Json.Object (objectOf name value) := by
  have hblank : Json.Ws [] := List.forall_mem_nil _
  have helement : Json.Text .element ([] ++ value ++ []) := .element hblank hvalue hblank
  have hmember := Json.Text.member hblank hname hblank helement
  simp only [List.nil_append, List.append_nil] at hmember
  exact ⟨_, rfl, .inr (.lastMember hmember)⟩

/-- The text of `"a": ` and one more letter in quotation marks. -/
def letterObject (letter : UInt8) : List UInt8 :=
  objectOf [0x61] ([0x22] ++ [letter] ++ [0x22])

theorem object_letterObject {letter : UInt8} (hprint : 0x20 ≤ letter) (hquote : letter ≠ 0x22)
    (hescape : letter ≠ 0x5c) : Json.Object (letterObject letter) :=
  object_objectOf (.plain (by decide) (by decide) (by decide) .nil)
    (.string (.plain hprint hquote hescape .nil))

/-- The standard input in JSON mode. -/
def jsonInput (bytes : List UInt8) : Stdin where
  sk := { sk_init 0 0 with recvbuf := Skb.ofBytes bytes }
  wssk := some (wssk_init 3 [])
  last_input := none
  repeat_last_num := -1
  is_json := true
  wsd_errno := .WSD_CHECKERRNO

theorem readsJson_jsonInput {bytes : List UInt8} (h : bytes.length ≤ SKB_SIZE) : (jsonInput bytes).ReadsJson :=
  ⟨Skb.ok_ofBytes h, rfl, fun hrepeat => absurd hrepeat (show ¬ (0 : Int) < -1 by decide)⟩

/-- Two objects without a separator, and the sockets to which they are sent. -/
def twoObjects : List (Sk × List UInt8) :=
  [(wssk_init 3 [], letterObject 0x78), (wssk_init 3 [], letterObject 0x79)]

theorem braceFree_letterObject_x : Json.BraceFree .outside (letterObject 0x78) := by
  simp [letterObject, objectOf, Json.BraceFree, Json.Mode.next, Json.brace]

theorem hasRoom_wssk_init {n : Nat} (h : maskedLen n ≤ SKB_SIZE) : (wssk_init 3 []).HasRoom n :=
  ⟨Skb.ok_zero, h⟩

end Sample

/-- Two objects without braces in their strings. -/
theorem json_object_frames_iff_sample :
    balanced_span (Skb.ofBytes (Sample.letterObject 0x78 ++ Sample.letterObject 0x79)) 0x7b 0x7d = 9 ∧
      (∃ s', PutsText (Sample.jsonInput (Sample.letterObject 0x78 ++ Sample.letterObject 0x79)) (wssk_init 3 [])
        (Sample.letterObject 0x78) s') ∧
      PutsTexts (Sample.jsonInput (Sample.letterObject 0x78 ++ Sample.letterObject 0x79)) Sample.twoObjects := by
  have hx : Json.Object (Sample.letterObject 0x78) := Sample.object_letterObject (by decide) (by decide) (by decide)
  have hy : Json.Object (Sample.letterObject 0x79) := Sample.object_letterObject (by decide) (by decide) (by decide)
  have hread := @Skb.readable_ofBytes (Sample.letterObject 0x78 ++ Sample.letterObject 0x79) (by decide)
  have hreads := @Sample.readsJson_jsonInput (Sample.letterObject 0x78 ++ Sample.letterObject 0x79) (by decide)
  have hroom : (wssk_init 3 []).HasRoom 9 := Sample.hasRoom_wssk_init (by decide)
  obtain ⟨hspan, hframe, hframes, hfree⟩ := json_object_frames_iff hx
  have hharmless := hfree Sample.braceFree_letterObject_x
  refine ⟨(hspan _ _ (Skb.ok_ofBytes (by decide)) hread).mpr hharmless, (hframe _ _ _ hreads hroom hread).mpr hharmless,
    (hframes _ _ [(wssk_init 3 [], Sample.letterObject 0x79)] [] hreads hroom ?_ ?_).mpr ⟨hharmless, by decide⟩⟩
  · exact List.forall_mem_singleton.mpr ⟨hroom, hy⟩
  · rw [List.append_nil]
    exact hread

/-- The closing brace in the string of `{"a":"}"}` is taken for the end of the object. -/
theorem object_cut_in_string :
    Json.Object (Sample.letterObject 0x7d) ∧ (Sample.letterObject 0x7d).length = 9 ∧
      balanced_span (Skb.ofBytes (Sample.letterObject 0x7d)) 0x7b 0x7d = 7 ∧
      (¬ ∃ s', PutsText (Sample.jsonInput (Sample.letterObject 0x7d)) (wssk_init 3 []) (Sample.letterObject 0x7d) s') ∧
      ¬ PutsTexts (Sample.jsonInput (Sample.letterObject 0x7d)) [(wssk_init 3 [], Sample.letterObject 0x7d)] := by
  have hobject : Json.Object (Sample.letterObject 0x7d) := Sample.object_letterObject (by decide) (by decide) (by decide)
  have hread : (Skb.ofBytes (Sample.letterObject 0x7d)).readable = Sample.letterObject 0x7d ++ [] :=
    Skb.readable_ofBytes (by decide)
  have hreads := @Sample.readsJson_jsonInput (Sample.letterObject 0x7d) (by decide)
  have hroom : (wssk_init 3 []).HasRoom (Sample.letterObject 0x7d).length := Sample.hasRoom_wssk_init (by decide)
  have hcut : ¬ ∃ s', PutsText (Sample.jsonInput (Sample.letterObject 0x7d)) (wssk_init 3 [])
      (Sample.letterObject 0x7d) s' :=
    fun h => absurd ((hreads.putsText_iff hroom hobject hread).mp h) (by decide)
  refine ⟨hobject, by decide, by decide, hcut, ?_⟩
  rintro ⟨s', hputs, -⟩
  exact hcut ⟨s', hputs⟩

end wsd

import Wsd.Loops.Progress

namespace wsd

theorem spanFrom_append {bytes rest : List UInt8} {k n : Nat} {num : Int} (h : spanFrom bytes k num = some n) :
    spanFrom (bytes ++ rest) k num = some n := by
  induction bytes generalizing k num with
  | nil => cases h
  | cons byte bytes ih =>
    rw [List.cons_append]
    unfold spanFrom at h ⊢
    split at h
    · rw [if_pos ‹_›]
      exact ih h
    rw [if_neg ‹_›]
    split at h
    · rw [if_pos ‹_›]
      split at h
      · rwa [if_pos ‹_›]
      · rw [if_neg ‹_›]
        exact ih h
    · rw [if_neg ‹_›]
      exact ih h

/-- The input is found again in front of other bytes if its end does not depend on them. -/
def Delimited (is_json : Bool) (input : List UInt8) : Prop :=
  is_json = true ∨ input.length = 32

instance decidableDelimited (is_json : Bool) (input : List UInt8) : Decidable (Delimited is_json input) :=
  inferInstanceAs (Decidable (_ ∨ _))

theorem spanFrom_take {bytes : List UInt8} {k n : Nat} {num : Int} (h : spanFrom bytes k num = some (k + n)) :
    spanFrom (bytes.take n) k num = some (k + n) := by
  induction bytes generalizing k n num with
  | nil => cases h
  | cons byte bytes ih =>
    have hbounds := spanFrom_bounds h
    obtain ⟨n, rfl⟩ : ∃ i, n = i + 1 := ⟨n - 1, by omega⟩
    have hnext {num' : Int} (h' : spanFrom bytes (k + 1) num' = some (k + (n + 1))) :
        spanFrom (bytes.take n) (k + 1) num' = some (k + (n + 1)) := by
      have hadd : k + (n + 1) = k + 1 + n := by omega
      rw [hadd] at h' ⊢
      exact ih h'
    rw [List.take_succ_cons]
    unfold spanFrom at h ⊢
    split at h
    · rw [if_pos ‹_›]
      exact hnext h
    rw [if_neg ‹_›]
    split at h
    · rw [if_pos ‹_›]
      split at h
      · rwa [if_pos ‹_›]
      · rw [if_neg ‹_›]
        exact hnext h
    · rw [if_neg ‹_›]
      exact hnext h

/-- The input is what a frame takes of what the standard input has delivered. -/
def Taken (is_json : Bool) (input : List UInt8) : Prop :=
  ∃ bytes n, nextLen is_json bytes = some n ∧ input = bytes.take n

/-- What a frame has taken is found again as a whole. -/
theorem Taken.next {is_json : Bool} {input : List UInt8} (h : Taken is_json input) :
    nextLen is_json input = some input.length := by
  obtain ⟨bytes, n, hnext, rfl⟩ := h
  obtain ⟨hpos, hle⟩ := nextLen_bounds hnext
  have hlen : (bytes.take n).length = n := List.length_take_of_le hle
  have hne : bytes.take n ≠ [] := List.ne_nil_of_length_pos (by omega)
  have hne' : bytes ≠ [] := List.ne_nil_of_length_pos (by omega)
  unfold nextLen at hnext ⊢
  rw [if_neg hne'] at hnext
  rw [if_neg hne, hlen]
  cases is_json with
  | true =>
    rw [if_pos rfl] at hnext ⊢
    have htake := @spanFrom_take bytes 0 n (-1) (by rwa [Nat.zero_add])
    rwa [Nat.zero_add] at htake
  | false =>
    rw [if_neg (by decide), Option.some.injEq] at hnext ⊢
    omega

/-- A chunk is no longer than 32 bytes. -/
theorem delimited_or_short {is_json : Bool} {input : List UInt8} (h : nextLen is_json input = some input.length) :
    Delimited is_json input ∨ is_json = false ∧ input.length < 32 := by
  cases is_json with
  | true => exact .inl (.inl rfl)
  | false =>
    have hbounds := nextLen_bounds h
    have hne : input ≠ [] := List.ne_nil_of_length_pos (by omega)
    rw [nextLen, if_neg hne, if_neg (by decide), Option.some.injEq] at h
    rcases Nat.lt_or_ge input.length 32 with hshort | hlong
    · exact .inr ⟨rfl, hshort⟩
    · exact .inl (.inr (by omega))

theorem nextLen_append {is_json : Bool} {input rest : List UInt8} (h : nextLen is_json input = some input.length)
    (hdelimited : Delimited is_json input) : nextLen is_json (input ++ rest) = some input.length := by
  have hbounds := nextLen_bounds h
  have hne : input ≠ [] := List.ne_nil_of_length_pos (by omega)
  have hne' : input ++ rest ≠ [] := fun hnil => hne (List.append_eq_nil_iff.mp hnil).1
  unfold nextLen at h ⊢
  rw [if_neg hne] at h
  rw [if_neg hne']
  rcases hdelimited with rfl | hlen
  · exact spanFrom_append h
  · cases is_json with
    | true => exact spanFrom_append h
    | false =>
      rw [if_neg (by decide), Option.some.injEq, List.length_append]
      omega

/-- The input which is kept for repeating. -/
def Holds (last_input : Option Skb) (input : List UInt8) : Prop :=
  ∃ li, last_input = some li ∧ li.Ok ∧ li.readable = input

section Rounds

variable {s s1 s' : Stdin} {wssk : Sk} {input : List UInt8} {fuel : Nat} {rv : Int} {li : Skb}

/-- The argument of the handler after the input has been copied behind what is there. -/
def copied (s : Stdin) (input : List UInt8) : Stdin :=
  { s with sk := { s.sk with recvbuf := skb_put s.sk.recvbuf input } }

/-- A round with room for another copy calls the handler with it. -/
theorem repeat_loop_round (hnum : s.repeat_last_num ≠ 0) (hlast : s.last_input = some li) (hok : li.Ok)
    (hroom : skb_rdsz li ≤ skb_wrsz s.sk.recvbuf) :
    repeat_loop (fuel + 1) s = (do
      let (rv, s) ← stdin_decode_frame (copied s li.readable)
      let s := if rv = 0 then { s with repeat_last_num := s.repeat_last_num - 1 } else s
      let s := if rv < 0 ∧ s.wsd_errno ≠ .WSD_EAGAIN then { s with repeat_last_num := 0 } else s
      repeat_loop fuel s) := by
  have hread : li.data.window li.rdpos (skb_rdsz li) = li.readable := by
    rw [hok.rdsz_eq]
    rfl
  rw [repeat_loop, if_neg hnum]
  split
  · rename_i hnone
    cases hlast.symm.trans hnone
  · rename_i li' hsome
    cases hlast.symm.trans hsome
    rw [if_neg (Nat.not_lt.mpr hroom), hread]
    rfl

/-- A round which sends a frame is one repetition less. -/
theorem repeat_loop_sent (hnum : s.repeat_last_num ≠ 0) (hlast : s.last_input = some li) (hok : li.Ok)
    (hroom : skb_rdsz li ≤ skb_wrsz s.sk.recvbuf) (hframe : stdin_decode_frame (copied s li.readable) = .ok (0, s1)) :
    repeat_loop (fuel + 1) s = repeat_loop fuel { s1 with repeat_last_num := s1.repeat_last_num - 1 } := by
  rw [repeat_loop_round hnum hlast hok hroom, hframe, Except.ok_bind]
  simp

/-- A round which finds no room in the send buffer changes the handler's argument only. -/
theorem repeat_loop_again (hnum : s.repeat_last_num ≠ 0) (hlast : s.last_input = some li) (hok : li.Ok)
    (hroom : skb_rdsz li ≤ skb_wrsz s.sk.recvbuf) (hframe : stdin_decode_frame (copied s li.readable) = .ok (-1, s1))
    (hagain : s1.wsd_errno = .WSD_EAGAIN) : repeat_loop (fuel + 1) s = repeat_loop fuel s1 := by
  rw [repeat_loop_round hnum hlast hok hroom, hframe, Except.ok_bind]
  simp [hagain]

theorem repeat_loop_full (hnum : s.repeat_last_num ≠ 0) (hlast : s.last_input = some li)
    (hfull : skb_wrsz s.sk.recvbuf < skb_rdsz li) :
    repeat_loop (fuel + 1) s = .ok (-1, { s with wsd_errno := .WSD_EAGAIN }) := by
  rw [repeat_loop, if_neg hnum]
  split
  · rename_i hnone
    cases hlast.symm.trans hnone
  · rename_i li' hsome
    cases hlast.symm.trans hsome
    rw [if_pos hfull]

theorem repeat_loop_done (hnum : s.repeat_last_num = 0) : repeat_loop (fuel + 1) s = .ok (0, s) := by
  rw [repeat_loop, if_pos hnum]

/-- Where the loop starts from: its buffer is empty, and what it repeats has a length of its own. -/
structure Repeating (s : Stdin) (wssk : Sk) (input : List UInt8) : Prop where
  socket : s.wssk = some wssk
  send : wssk.sendbuf.Ok
  recv : s.sk.recvbuf.Ok
  empty : skb_wrsz s.sk.recvbuf = SKB_SIZE
  last : Holds s.last_input input
  next : nextLen s.is_json input = some input.length

theorem Holds.keeps (h : Holds s.last_input input) : s.Keeps := by
  obtain ⟨li, hlast, -⟩ := h
  exact fun _ => hlast ▸ rfl

theorem Holds.length_le {last_input : Option Skb} (h : Holds last_input input) : input.length ≤ SKB_SIZE := by
  obtain ⟨li, -, hok, rfl⟩ := h
  rw [hok.length_readable_eq]
  exact hok.rdsz_le

theorem Skb.Ok.readable_of_empty {b : Skb} (hok : b.Ok) (hempty : skb_wrsz b = SKB_SIZE) : b.readable = [] := by
  rw [hok.readable_eq_nil_iff, hok.rdsz_eq]
  rw [hok.wrsz_eq] at hempty
  have hwr := hok.wrpos_le
  unfold SKB_SIZE at hempty hwr
  omega

/-- Once all of it has been read, a buffer is empty again. -/
theorem Skb.Ok.wrsz_compact_all {b : Skb} (hok : b.Ok) :
    skb_wrsz (skb_compact (skb_rd_forward b (skb_rdsz b))) = SKB_SIZE := by
  have hforward := hok.rd_forward (Nat.le_refl _)
  have hleft := hok.rdsz_rd_forward (Nat.le_refl _)
  rw [Nat.sub_self] at hleft
  rw [hforward.compact.wrsz_eq, hforward.wrpos_compact, ← hforward.rdsz_eq, hleft, Nat.sub_zero]

namespace Repeating

theorem readable (h : Repeating s wssk input) : (copied s input).sk.recvbuf.readable = input := by
  have hlen := h.last.length_le
  have hput := h.recv.readable_put (show input.length ≤ skb_wrsz s.sk.recvbuf by rw [h.empty]; exact hlen)
  rwa [h.recv.readable_of_empty h.empty, List.nil_append] at hput

theorem ok (h : Repeating s wssk input) : (copied s input).sk.recvbuf.Ok :=
  h.recv.put (by rw [h.empty]; exact h.last.length_le)

/-- With room for one more frame the loop sends it and is where it was. -/
theorem step (h : Repeating s wssk input) (hnum : 0 < s.repeat_last_num)
    (hroom : maskedLen input.length ≤ skb_wrsz wssk.sendbuf) :
    ∃ (s1 : Stdin) (hlen : input.length < 18446744073709551616),
      repeat_loop (fuel + 1) s = repeat_loop fuel s1 ∧ s1.repeat_last_num = s.repeat_last_num - 1 ∧
      s1.is_json = s.is_json ∧
      ((Frame.text input hlen).masked DATA_KEY).length = maskedLen input.length ∧
      Repeating s1 { wssk with sendbuf := skb_put wssk.sendbuf ((Frame.text input hlen).masked DATA_KEY) } input := by
  obtain ⟨li, hlast, hli, rfl⟩ := h.last
  have hread := h.readable
  have hok := h.ok
  have hrdsz : skb_rdsz (copied s li.readable).sk.recvbuf = li.readable.length := by
    rw [← hok.length_readable_eq, hread]
  have hnext : nextLen s.is_json (copied s li.readable).sk.recvbuf.readable = some li.readable.length := by
    rw [hread]
    exact h.next
  have htake : (copied s li.readable).sk.recvbuf.readable.take li.readable.length = li.readable := by
    rw [hread, List.take_length]
  obtain ⟨hlen, hframe, hmasked⟩ := @stdin_decode_frame_moves (copied s li.readable) wssk li.readable.length li.readable
    hok h.send h.last.keeps h.socket hnext hroom htake
  have hcopy : skb_rdsz li ≤ skb_wrsz s.sk.recvbuf := by
    rw [h.empty]
    exact hli.rdsz_le
  obtain ⟨li', hsaved, hli', hread'⟩ := savedInput_readable hok hnum hlast (Nat.le_of_eq hrdsz.symm)
  rw [htake] at hread'
  refine ⟨_, hlen, repeat_loop_sent (by omega) hlast hli hcopy hframe, rfl, rfl, hmasked, rfl, ?_, ?_, ?_, ?_, h.next⟩
  · exact h.send.put (by rwa [hmasked])
  · exact (hok.rd_forward (Nat.le_of_eq hrdsz.symm)).compact
  · rw [← hrdsz]
    exact hok.wrsz_compact_all
  · exact ⟨li', hsaved, hli', hread'⟩

end Repeating

theorem Skb.Ok.rdsz_put {b : Skb} {obj : List UInt8} (hok : b.Ok) (hroom : obj.length ≤ skb_wrsz b) :
    skb_rdsz (skb_put b obj) = skb_rdsz b + obj.length := by
  rw [← (hok.put hroom).length_readable_eq, hok.readable_put hroom, List.length_append, hok.length_readable_eq]

/-- What the loop makes of the websocket and of its counter while there is no room for a frame. -/
structure Waited (s : Stdin) (input : List UInt8) (s' : Stdin) : Prop where
  wssk : s'.wssk = s.wssk
  repeat_last_num : s'.repeat_last_num = s.repeat_last_num
  last : Holds s'.last_input input

/-- Without room for a frame, input which is found in front of its copies stays what it is. The copies
    fill the buffer of the loop until it ends. -/
theorem repeat_loop_waits {copies : Nat} (hnum : 0 < s.repeat_last_num) (hok : s.sk.recvbuf.Ok)
    (hcopies : s.sk.recvbuf.readable = (List.replicate copies input).flatten) (hlast : Holds s.last_input input)
    (hnext : nextLen s.is_json input = some input.length) (hdelimited : Delimited s.is_json input)
    (hwssk : s.wssk = some wssk) (hfull : skb_wrsz wssk.sendbuf < frameLen input.length)
    (hfuel : skb_wrsz s.sk.recvbuf < fuel) : ∃ s', repeat_loop fuel s = .ok (-1, s') ∧ Waited s input s' := by
  induction fuel generalizing s copies with
  | zero => exact absurd hfuel (Nat.not_lt_zero _)
  | succ fuel ih =>
    obtain ⟨li, hsome, hli, rfl⟩ := hlast
    have hrdsz := hli.length_readable_eq
    rcases Nat.lt_or_ge (skb_wrsz s.sk.recvbuf) (skb_rdsz li) with hless | hroom
    · exact ⟨_, repeat_loop_full (by omega) hsome hless, rfl, rfl, li, hsome, hli, rfl⟩
    have hput : li.readable.length ≤ skb_wrsz s.sk.recvbuf := by omega
    have hread : (copied s li.readable).sk.recvbuf.readable = (List.replicate (copies + 1) li.readable).flatten := by
      apply (hok.readable_put hput).trans
      rw [hcopies, List.replicate_succ', List.flatten_append, List.flatten_singleton]
    have hfound : nextLen s.is_json (copied s li.readable).sk.recvbuf.readable = some li.readable.length := by
      rw [hread, List.replicate_succ, List.flatten_cons]
      exact nextLen_append hnext hdelimited
    have hokc : (copied s li.readable).sk.recvbuf.Ok := hok.put hput
    have hframe := @stdin_decode_frame_waits (copied s li.readable) wssk _ hokc (Holds.keeps ⟨li, hsome, hli, rfl⟩)
      hwssk hfound hfull
    have hbounds := nextLen_bounds hfound
    rw [hokc.length_readable_eq] at hbounds
    obtain ⟨li', hsaved, hli', hread'⟩ := savedInput_readable hokc hnum hsome hbounds.2
    have htake : (copied s li.readable).sk.recvbuf.readable.take li.readable.length = li.readable := by
      rw [hread, List.replicate_succ, List.flatten_cons, List.take_left]
    rw [htake] at hread'
    have hleft : skb_wrsz (copied s li.readable).sk.recvbuf = skb_wrsz s.sk.recvbuf - li.readable.length :=
      hok.wrsz_put hput
    obtain ⟨s', hloop, hwaited⟩ := @ih { copied s li.readable with
      last_input := savedInput (copied s li.readable) li.readable.length, wsd_errno := .WSD_EAGAIN } (copies + 1)
      hnum hokc hread ⟨li', hsaved, hli', hread'⟩ hnext hdelimited hwssk (by simp only; omega)
    exact ⟨s', (repeat_loop_again (by omega) hsome hli hroom hframe rfl).trans hloop, hwaited.wssk,
      hwaited.repeat_last_num, hwaited.last⟩

theorem frameLen_mono {n k : Nat} (h : n ≤ k) : frameLen n ≤ frameLen k := by
  unfold frameLen
  split_ifs <;> omega

/-- Without room for a frame, an input which is shorter than a chunk grows with each copy of itself. -/
theorem repeat_loop_grows {len : Nat} (hnum : 0 < s.repeat_last_num) (hok : s.sk.recvbuf.Ok)
    (hlast : s.last_input = some li) (hli : li.Ok) (hgrown : len ≤ skb_rdsz s.sk.recvbuf + skb_rdsz li)
    (hcopy : len ≤ skb_rdsz li ∨ skb_rdsz li ≤ skb_wrsz s.sk.recvbuf) (hpos : 0 < len) (hchunk : len ≤ 32)
    (hjson : s.is_json = false) (hwssk : s.wssk = some wssk) (hfull : skb_wrsz wssk.sendbuf < frameLen len)
    (h : repeat_loop fuel s = .ok (rv, s')) : ∃ li', s'.last_input = some li' ∧ li'.Ok ∧ len ≤ skb_rdsz li' := by
  induction fuel generalizing s li with
  | zero => cases h
  | succ fuel ih =>
    rcases Nat.lt_or_ge (skb_wrsz s.sk.recvbuf) (skb_rdsz li) with hless | hroom
    · rw [repeat_loop_full (by omega) hlast hless] at h
      cases h
      exact ⟨li, hlast, hli, hcopy.resolve_right (Nat.not_le.mpr hless)⟩
    have hput : li.readable.length ≤ skb_wrsz s.sk.recvbuf := by
      rw [hli.length_readable_eq]
      exact hroom
    have hokc : (copied s li.readable).sk.recvbuf.Ok := hok.put hput
    have hrdsz : skb_rdsz (copied s li.readable).sk.recvbuf = skb_rdsz s.sk.recvbuf + skb_rdsz li := by
      rw [← hli.length_readable_eq]
      exact hok.rdsz_put hput
    have hne : (copied s li.readable).sk.recvbuf.readable ≠ [] := by
      apply List.ne_nil_of_length_pos
      rw [hokc.length_readable_eq]
      omega
    have hfound : nextLen s.is_json (copied s li.readable).sk.recvbuf.readable =
        some (min 32 (skb_rdsz s.sk.recvbuf + skb_rdsz li)) := by
      rw [nextLen, if_neg hne, hjson, if_neg (by decide), hokc.length_readable_eq, hrdsz]
    have hmore : skb_wrsz wssk.sendbuf < frameLen (min 32 (skb_rdsz s.sk.recvbuf + skb_rdsz li)) :=
      Nat.lt_of_lt_of_le hfull (frameLen_mono (by omega))
    have hframe := @stdin_decode_frame_waits (copied s li.readable) wssk _ hokc (fun _ => hlast ▸ rfl) hwssk hfound hmore
    obtain ⟨li', hsaved, hli', hread'⟩ := savedInput_readable hokc hnum hlast
      (show min 32 (skb_rdsz s.sk.recvbuf + skb_rdsz li) ≤ _ by rw [hrdsz]; exact Nat.min_le_right _ _)
    have hlen := congrArg List.length hread'
    rw [List.length_take, hokc.length_readable_eq, hli'.length_readable_eq, hrdsz] at hlen
    have hless : len ≤ skb_rdsz li' := by
      rw [hlen]
      exact Nat.le_min.mpr ⟨Nat.le_min.mpr ⟨hchunk, hgrown⟩, hgrown⟩
    rw [repeat_loop_again (by omega) hlast hli hroom hframe rfl] at h
    exact @ih { copied s li.readable with
      last_input := savedInput (copied s li.readable) (min 32 (skb_rdsz s.sk.recvbuf + skb_rdsz li))
      wsd_errno := .WSD_EAGAIN } li' hnum hokc hsaved hli' (Nat.le_trans hless (Nat.le_add_left _ _)) (.inl hless) hjson
      hwssk h

/-- Without room for a frame, the second copy of a short input changes what is repeated from then on. -/
theorem Repeating.changes (h : Repeating s wssk input) (hnum : 0 < s.repeat_last_num) (hjson : s.is_json = false)
    (hshort : input.length < 32) (hfull : skb_wrsz wssk.sendbuf < frameLen input.length)
    (hloop : repeat_loop (fuel + 1) s = .ok (rv, s')) : ¬ Holds s'.last_input input := by
  obtain ⟨li, hlast, hli, rfl⟩ := h.last
  have hread := h.readable
  have hok := h.ok
  have hpos := (nextLen_bounds h.next).1
  have hcopy : li.readable.length ≤ skb_wrsz s.sk.recvbuf := by
    rw [h.empty]
    exact h.last.length_le
  have hrdsz : skb_rdsz (copied s li.readable).sk.recvbuf = li.readable.length := by
    rw [← hok.length_readable_eq, hread]
  have hwrsz : skb_wrsz (copied s li.readable).sk.recvbuf = SKB_SIZE - li.readable.length := by
    rw [← h.empty]
    exact h.recv.wrsz_put hcopy
  have hnext : nextLen s.is_json (copied s li.readable).sk.recvbuf.readable = some li.readable.length := by
    rw [hread]
    exact h.next
  have hframe := @stdin_decode_frame_waits (copied s li.readable) wssk _ hok h.last.keeps h.socket hnext hfull
  obtain ⟨li1, hsaved, hli1, hread1⟩ := savedInput_readable hok hnum hlast (Nat.le_of_eq hrdsz.symm)
  rw [hread, List.take_length] at hread1
  have hrdsz1 : skb_rdsz li1 = li.readable.length := by rw [← hli1.length_readable_eq, hread1]
  rw [hli.length_readable_eq] at hcopy
  rw [repeat_loop_again (by omega) hlast hli hcopy hframe rfl] at hloop
  obtain ⟨li2, hlast2, hli2, hgrown⟩ := @repeat_loop_grows { copied s li.readable with
    last_input := savedInput (copied s li.readable) li.readable.length, wsd_errno := .WSD_EAGAIN } s' wssk fuel rv li1
    (li.readable.length + 1) hnum hok hsaved hli1 (by simp only; omega)
    (.inr (by simp only; unfold SKB_SIZE at hwrsz; omega)) (Nat.succ_pos _) hshort hjson h.socket
    (Nat.lt_of_lt_of_le hfull (frameLen_mono (Nat.le_succ _))) hloop
  rintro ⟨li3, hlast3, hli3, hread3⟩
  cases hlast2.symm.trans hlast3
  have hsame := congrArg List.length hread3
  rw [hli2.length_readable_eq] at hsame
  omega

/-- The loop never counts up. -/
theorem repeat_loop_num_le (hnum : 0 ≤ s.repeat_last_num) (h : repeat_loop fuel s = .ok (rv, s')) :
    s'.repeat_last_num ≤ s.repeat_last_num := by
  induction fuel generalizing s with
  | zero => cases h
  | succ fuel ih =>
    by_cases hzero : s.repeat_last_num = 0
    · rw [repeat_loop_done hzero] at h
      cases h
      exact Int.le_refl _
    rw [repeat_loop, if_neg hzero] at h
    cases hlast : s.last_input with
    | none =>
      simp only [hlast] at h
      cases h
    | some li =>
      simp only [hlast] at h
      by_cases hfull : skb_wrsz s.sk.recvbuf < skb_rdsz li
      · rw [if_pos hfull] at h
        cases h
        exact Int.le_refl _
      rw [if_neg hfull] at h
      obtain ⟨⟨rv1, s1⟩, hframe, h⟩ := Except.bind_eq_ok_iff.mp h
      have hkept : s1.repeat_last_num = s.repeat_last_num := (stdin_decode_frame_kept hframe).repeat_last_num
      simp only at h
      have hle {num : Int} (hnum' : 0 ≤ num) (hle : num ≤ s.repeat_last_num)
          (h : repeat_loop fuel { s1 with repeat_last_num := num } = .ok (rv, s')) :
          s'.repeat_last_num ≤ s.repeat_last_num := Int.le_trans (ih hnum' h) hle
      split at h
      · split at h
        · exact hle (Int.le_refl 0) hnum h
        · exact hle (by omega) (by omega) h
      · split at h
        · exact hle (Int.le_refl 0) hnum h
        · exact @hle s1.repeat_last_num (by omega) (by omega) h

/-- Where the computed length fits, the handler does not ask to be called again. -/
theorem stdin_decode_frame_taken {n : Nat} (hok : s.sk.recvbuf.Ok) (hwssk : s.wssk = some wssk)
    (hnext : nextLen s.is_json s.sk.recvbuf.readable = some n) (hfit : frameLen n ≤ skb_wrsz wssk.sendbuf)
    (h : stdin_decode_frame s = .ok (rv, s')) : rv = 0 := by
  have hbounds := nextLen_bounds hnext
  rw [hok.length_readable_eq] at hbounds
  have hsize := hok.rdsz_le
  rw [stdin_decode_frame_some hok hnext] at h
  obtain ⟨s1, hsave, h⟩ := Except.bind_eq_ok_iff.mp h
  obtain ⟨last_input, rfl⟩ := save_last_input_inv hsave
  unfold wssk_ws_encode_frame at h
  simp only [hwssk] at h
  obtain ⟨⟨rv1, sendbuf, recvbuf, e⟩, hencode, h⟩ := Except.bind_eq_ok_iff.mp h
  cases h
  rw [wssk_ws_encode_data_frame_put (dataLen_next hok hnext)] at hencode
  exact put_data_frame_taken (by omega) hfit hencode

/-- A frame for which there is room by the computed length only is counted like one which is sent. -/
theorem Repeating.overruns (h : Repeating s wssk input) (hnum : 0 < s.repeat_last_num)
    (hfit : frameLen input.length ≤ skb_wrsz wssk.sendbuf) (hloop : repeat_loop fuel s = .ok (rv, s')) :
    s'.repeat_last_num < s.repeat_last_num := by
  cases fuel with
  | zero => cases hloop
  | succ fuel =>
    obtain ⟨li, hlast, hli, rfl⟩ := h.last
    have hcopy : skb_rdsz li ≤ skb_wrsz s.sk.recvbuf := by
      rw [h.empty]
      exact hli.rdsz_le
    have hnext : nextLen s.is_json (copied s li.readable).sk.recvbuf.readable = some li.readable.length := by
      rw [h.readable]
      exact h.next
    rw [repeat_loop_round (by omega) hlast hli hcopy] at hloop
    obtain ⟨⟨rv1, s1⟩, hframe, hloop⟩ := Except.bind_eq_ok_iff.mp hloop
    have hzero : rv1 = 0 := stdin_decode_frame_taken h.ok h.socket hnext hfit hframe
    subst hzero
    have hkept : s1.repeat_last_num = s.repeat_last_num := (stdin_decode_frame_kept hframe).repeat_last_num
    have hle := repeat_loop_num_le (by simp; omega) hloop
    simp at hle
    omega

end Rounds

/-- The frames which find room among those which are still to be repeated. -/
def repeatCount (num room payload_len : Nat) : Nat :=
  min num (room / maskedLen payload_len)

/-- Either all frames find room, or the first one which does not is refused, and its input is found again. -/
def RepeatFits (is_json : Bool) (input : List UInt8) (num room : Nat) : Prop :=
  num * maskedLen input.length ≤ room ∨
    Delimited is_json input ∧ room % maskedLen input.length < frameLen input.length

instance decidableRepeatFits (is_json : Bool) (input : List UInt8) (num room : Nat) :
    Decidable (RepeatFits is_json input num room) :=
  inferInstanceAs (Decidable (_ ∨ _))

theorem maskedLen_pos (n : Nat) : 0 < maskedLen n := by
  unfold maskedLen
  omega

section Count

variable {is_json : Bool} {input : List UInt8} {num room n : Nat}

theorem repeatCount_of_lt (h : room < maskedLen n) : repeatCount num room n = 0 := by
  rw [repeatCount, Nat.div_eq_of_lt h, Nat.min_zero]

theorem repeatCount_succ (h : maskedLen n ≤ room) :
    repeatCount (num + 1) room n = repeatCount num (room - maskedLen n) n + 1 := by
  rw [repeatCount, repeatCount, Nat.div_eq_sub_div (maskedLen_pos n) h, Nat.succ_min_succ]

theorem repeatFits_zero : RepeatFits is_json input 0 room :=
  .inl (by rw [Nat.zero_mul]; exact Nat.zero_le _)

theorem repeatFits_succ_iff (h : maskedLen input.length ≤ room) :
    RepeatFits is_json input (num + 1) room ↔ RepeatFits is_json input num (room - maskedLen input.length) := by
  unfold RepeatFits
  rw [Nat.mod_eq_sub_mod h, Nat.succ_mul, Nat.le_sub_iff_add_le h]

theorem repeatFits_succ_iff_of_lt (h : room < maskedLen input.length) :
    RepeatFits is_json input (num + 1) room ↔ Delimited is_json input ∧ room < frameLen input.length := by
  unfold RepeatFits
  rw [Nat.mod_eq_of_lt h]
  refine or_iff_right fun hall => ?_
  rw [Nat.succ_mul] at hall
  omega

end Count

section Loop

variable {s s' : Stdin} {wssk : Sk} {input : List UInt8} {fuel num : Nat} {rv : Int}

theorem Skb.Ok.appended_nil {b : Skb} (hok : b.Ok) : b.Appended [] b := by
  refine ⟨?_, Nat.zero_le _⟩
  have hwr : u32 b.wrpos = b.wrpos := u32_of_le_size hok.wrpos_le
  simp [skb_put, hwr]

theorem Skb.Appended.cons {b b' b'' : Skb} {obj obj' : List UInt8} (hok : b.Ok) (h : b.Appended obj b')
    (h' : b'.Appended obj' b'') : b.Appended (obj ++ obj') b'' := by
  have hroom := h'.room
  rw [h.eq, hok.wrsz_put h.room] at hroom
  have hfirst := h.room
  refine ⟨?_, ?_⟩
  · rw [h'.eq, h.eq, hok.put_put h.room]
  · rw [List.length_append]
    omega

theorem Repeating.sends (h : Repeating s wssk input) (hlen : input.length < 18446744073709551616)
    (hnum : s.repeat_last_num = num) (hfuel : num * (SKB_SIZE + 1) + SKB_SIZE < fuel)
    (hfits : RepeatFits s.is_json input num (skb_wrsz wssk.sendbuf)) :
    ∃ rv s', repeat_loop fuel s = .ok (rv, s') ∧ ∃ sendbuf,
      wssk.sendbuf.Appended (List.replicate (repeatCount num (skb_wrsz wssk.sendbuf) input.length)
        ((Frame.text input hlen).masked DATA_KEY)).flatten sendbuf ∧
      s'.wssk = some { wssk with sendbuf } ∧
      s'.repeat_last_num = num - repeatCount num (skb_wrsz wssk.sendbuf) input.length ∧
      Holds s'.last_input input := by
  induction num generalizing s wssk fuel with
  | zero =>
    obtain ⟨fuel, rfl⟩ : ∃ k, fuel = k + 1 := ⟨fuel - 1, by omega⟩
    refine ⟨0, s, repeat_loop_done hnum, wssk.sendbuf, ?_, h.socket, ?_, h.last⟩
    · rw [repeatCount, Nat.zero_min]
      exact h.send.appended_nil
    · rw [repeatCount, Nat.zero_min, hnum]
      rfl
  | succ num ih =>
    obtain ⟨fuel, rfl⟩ : ∃ k, fuel = k + 1 := ⟨fuel - 1, by omega⟩
    have hpos : 0 < s.repeat_last_num := by omega
    rcases Nat.lt_or_ge (skb_wrsz wssk.sendbuf) (maskedLen input.length) with hless | hroom
    · obtain ⟨hdelimited, hfull⟩ := (repeatFits_succ_iff_of_lt hless).mp hfits
      have hcopies : s.sk.recvbuf.readable = (List.replicate 0 input).flatten := h.recv.readable_of_empty h.empty
      obtain ⟨s', hloop, hwaited⟩ := @repeat_loop_waits s wssk input (fuel + 1) 0 hpos h.recv hcopies h.last h.next
        hdelimited h.socket hfull (by rw [h.empty]; omega)
      rw [repeatCount_of_lt hless]
      refine ⟨-1, s', hloop, wssk.sendbuf, h.send.appended_nil, hwaited.wssk.trans h.socket, ?_, hwaited.last⟩
      rw [hwaited.repeat_last_num, hnum]
      simp
    · obtain ⟨s1, hlen1, hstep, hnum1, hjson1, hmasked, h1⟩ := h.step hpos hroom
      have hput : ((Frame.text input hlen).masked DATA_KEY).length ≤ skb_wrsz wssk.sendbuf := by rwa [hmasked]
      have hleft := h.send.wrsz_put hput
      rw [hmasked] at hleft
      rw [repeatFits_succ_iff hroom, ← hjson1, ← hleft] at hfits
      obtain ⟨rv, s', hloop, sendbuf, happended, hwssk, hcount, hlast⟩ :=
        @ih s1 _ fuel h1 (by omega) (by rw [Nat.succ_mul] at hfuel; omega) hfits
      rw [hleft] at happended hcount
      rw [repeatCount_succ hroom]
      refine ⟨rv, s', hstep.trans hloop, sendbuf, ?_, hwssk, ?_, hlast⟩
      · rw [List.replicate_succ, List.flatten_cons]
        exact Skb.Appended.cons h.send ⟨rfl, hput⟩ happended
      · rw [hcount]
        omega

/-- Where the loop keeps count and input, all frames have found room or a refused one is found again. -/
theorem Repeating.fits (h : Repeating s wssk input) (hnum : s.repeat_last_num = num)
    (hfuel : num * (SKB_SIZE + 1) + SKB_SIZE < fuel) (hloop : repeat_loop fuel s = .ok (rv, s'))
    (hcount : s'.repeat_last_num = s.repeat_last_num - repeatCount num (skb_wrsz wssk.sendbuf) input.length)
    (hlast : Holds s'.last_input input) : RepeatFits s.is_json input num (skb_wrsz wssk.sendbuf) := by
  induction num generalizing s wssk fuel with
  | zero => exact repeatFits_zero
  | succ num ih =>
    obtain ⟨fuel, rfl⟩ : ∃ k, fuel = k + 1 := ⟨fuel - 1, by omega⟩
    have hpos : 0 < s.repeat_last_num := by omega
    rcases Nat.lt_or_ge (skb_wrsz wssk.sendbuf) (maskedLen input.length) with hless | hroom
    · rw [repeatCount_of_lt hless] at hcount
      rw [repeatFits_succ_iff_of_lt hless]
      have hfull : skb_wrsz wssk.sendbuf < frameLen input.length := by
        refine Nat.lt_of_not_le fun hfit => ?_
        have hlost := h.overruns hpos hfit hloop
        omega
      obtain hdelimited | ⟨hjson, hshort⟩ := delimited_or_short h.next
      · exact ⟨hdelimited, hfull⟩
      · exact absurd hlast (h.changes hpos hjson hshort hfull hloop)
    · obtain ⟨s1, hlen, hstep, hnum1, hjson1, hmasked, h1⟩ := h.step hpos hroom
      have hleft := h.send.wrsz_put (show ((Frame.text input hlen).masked DATA_KEY).length ≤ _ by rwa [hmasked])
      rw [hmasked] at hleft
      rw [hstep] at hloop
      rw [repeatCount_succ hroom] at hcount
      rw [repeatFits_succ_iff hroom, ← hjson1]
      have hfits := ih h1 (by omega) (by rw [Nat.succ_mul] at hfuel; omega) hloop (by simp only [hleft]; omega)
      rwa [hleft] at hfits

end Loop

/-- A call of `repeat_last` with the given websocket does what it is to do: it puts as many frames as
    find room, each with the input as its payload, counts them, and keeps the input. -/
structure RepeatCall (opt : Options) (input : List UInt8) (c : Wscat) (wssk : Sk) (c' : Wscat) : Prop where
  call : repeat_last opt { c with wssk := some wssk } = .ok c'
  frames : ∃ (f : Frame) (sendbuf : Skb), f.opcode = WS_TEXT_FRAME ∧ f.payload = input ∧
    wssk.sendbuf.Appended (List.replicate
      (repeatCount c.repeat_last_num.toNat (skb_wrsz wssk.sendbuf) input.length) (f.masked DATA_KEY)).flatten sendbuf ∧
    c'.wssk = some { wssk with sendbuf }
  repeat_last_num : c'.repeat_last_num =
    c.repeat_last_num - repeatCount c.repeat_last_num.toNat (skb_wrsz wssk.sendbuf) input.length
  last : Holds c'.last_input input

/-- Successive calls, before each of which the websocket is as given. -/
def RepeatCalls (opt : Options) (input : List UInt8) : Wscat → List Sk → Wscat → Prop
  | c, [], c' => c' = c
  | c, wssk :: wssks, c' => ∃ c1, RepeatCall opt input c wssk c1 ∧ RepeatCalls opt input c1 wssks c'

/-- Each call finds the free space which it needs for what the calls before it have left to repeat. -/
def RepeatsFit (is_json : Bool) (input : List UInt8) : Nat → List Nat → Prop
  | _, [] => True
  | num, room :: rooms =>
    RepeatFits is_json input num room ∧ RepeatsFit is_json input (num - repeatCount num room input.length) rooms

instance decidableRepeatsFit (is_json : Bool) (input : List UInt8) :
    (num : Nat) → (rooms : List Nat) → Decidable (RepeatsFit is_json input num rooms)
  | _, [] => isTrue trivial
  | num, room :: rooms =>
    have := decidableRepeatsFit is_json input (num - repeatCount num room input.length) rooms
    inferInstanceAs (Decidable (_ ∧ _))

section Calls

variable {opt : Options} {input : List UInt8} {c c' : Wscat} {wssk : Sk} {num : Nat}

theorem repeating_init (hsend : wssk.sendbuf.Ok) (hlast : Holds c.last_input input)
    (hnext : nextLen opt.is_json input = some input.length) :
    Repeating (Wscat.stdin opt { c with wssk := some wssk } (sk_init (-1) 0)) wssk input :=
  ⟨rfl, hsend, Skb.ok_zero, Skb.wrsz_zero, hlast, hnext⟩

theorem repeat_last_loop (hlast : Holds c.last_input input) (hpos : 0 < input.length) :
    repeat_last opt c = (do
      let (_, s) ← repeat_loop (repeat_fuel c) (c.stdin opt (sk_init (-1) 0))
      return c.setStdin s) := by
  obtain ⟨li, hsome, hli, rfl⟩ := hlast
  have hfull : ¬ skb_rdsz li = 0 := by
    rw [← hli.length_readable_eq]
    omega
  unfold repeat_last
  split
  · rename_i hnone
    cases hsome.symm.trans hnone
  · rename_i li' hsome'
    cases hsome.symm.trans hsome'
    rw [if_neg hfull]

theorem repeat_fuel_enough (hnum : c.repeat_last_num = num) : num * (SKB_SIZE + 1) + SKB_SIZE < repeat_fuel c := by
  unfold repeat_fuel
  rw [hnum, Int.toNat_natCast]
  omega

theorem repeat_last_call (hsend : wssk.sendbuf.Ok) (hlast : Holds c.last_input input)
    (hnext : nextLen opt.is_json input = some input.length) (hnum : c.repeat_last_num = num)
    (hfits : RepeatFits opt.is_json input num (skb_wrsz wssk.sendbuf)) : ∃ c', RepeatCall opt input c wssk c' := by
  have hsize := hlast.length_le
  unfold SKB_SIZE at hsize
  have hlen : input.length < 18446744073709551616 := by omega
  obtain ⟨rv, s', hloop, sendbuf, happended, hwssk, hcount, hlast'⟩ :=
    (repeating_init hsend hlast hnext).sends hlen hnum (@repeat_fuel_enough { c with wssk := some wssk } num hnum) hfits
  have hcall := @repeat_last_loop opt input { c with wssk := some wssk } hlast (nextLen_bounds hnext).1
  rw [hloop, Except.ok_bind] at hcall
  refine ⟨_, hcall, ⟨Frame.text input hlen, sendbuf, Frame.opcode_text _ _, rfl, ?_, hwssk⟩, ?_, hlast'⟩
  · rw [hnum, Int.toNat_natCast]
    exact happended
  · rw [hnum, Int.toNat_natCast]
    exact hcount

theorem RepeatCall.fits (h : RepeatCall opt input c wssk c') (hsend : wssk.sendbuf.Ok) (hlast : Holds c.last_input input)
    (hnext : nextLen opt.is_json input = some input.length) (hnum : c.repeat_last_num = num) :
    RepeatFits opt.is_json input num (skb_wrsz wssk.sendbuf) := by
  have hcall := h.call
  rw [@repeat_last_loop opt input { c with wssk := some wssk } hlast (nextLen_bounds hnext).1] at hcall
  obtain ⟨⟨rv, s'⟩, hloop, hret⟩ := Except.bind_eq_ok_iff.mp hcall
  cases hret
  have hcount := h.repeat_last_num
  rw [hnum, Int.toNat_natCast] at hcount
  refine (repeating_init hsend hlast hnext).fits hnum (@repeat_fuel_enough { c with wssk := some wssk } num hnum) hloop
    ?_ h.last
  change s'.repeat_last_num = c.repeat_last_num - _
  rw [hnum]
  exact hcount

theorem RepeatCall.left (h : RepeatCall opt input c wssk c') (hnum : c.repeat_last_num = num) :
    c'.repeat_last_num = (num - repeatCount num (skb_wrsz wssk.sendbuf) input.length : Nat) := by
  have hle : repeatCount num (skb_wrsz wssk.sendbuf) input.length ≤ num := Nat.min_le_left _ _
  rw [h.repeat_last_num, hnum, Int.toNat_natCast]
  omega

/-- The frames for which there is room in one of the buffers. -/
def rooms : List Sk → Nat → Nat
  | [], _ => 0
  | wssk :: wssks, payload_len => skb_wrsz wssk.sendbuf / maskedLen payload_len + rooms wssks payload_len

/-- What is left to repeat after all calls is what has not found room in any of them. -/
theorem RepeatCalls.left {wssks : List Sk} (h : RepeatCalls opt input c wssks c') (hnum : c.repeat_last_num = num) :
    c'.repeat_last_num = (num - rooms wssks input.length : Nat) := by
  induction wssks generalizing c num with
  | nil =>
    rw [RepeatCalls] at h
    rw [h, hnum]
    rfl
  | cons wssk wssks ih =>
    obtain ⟨c1, hcall, hcalls⟩ := h
    rw [ih hcalls (hcall.left hnum), rooms, repeatCount]
    congr 1
    omega

theorem repeatCalls_iff {wssks : List Sk} (hlast : Holds c.last_input input)
    (hnext : nextLen opt.is_json input = some input.length) (hnum : c.repeat_last_num = num)
    (hsend : ∀ wssk ∈ wssks, wssk.sendbuf.Ok) :
    (∃ c', RepeatCalls opt input c wssks c') ↔
      RepeatsFit opt.is_json input num (wssks.map fun wssk => skb_wrsz wssk.sendbuf) := by
  induction wssks generalizing c num with
  | nil => exact iff_of_true ⟨c, rfl⟩ trivial
  | cons wssk wssks ih =>
    obtain ⟨hsend, hothers⟩ := List.forall_mem_cons.mp hsend
    rw [List.map_cons, RepeatsFit]
    constructor
    · rintro ⟨c', c1, hcall, hcalls⟩
      exact ⟨hcall.fits hsend hlast hnext hnum, (ih hcall.last (hcall.left hnum) hothers).mp ⟨c', hcalls⟩⟩
    · rintro ⟨hfits, hrest⟩
      obtain ⟨c1, hcall⟩ := repeat_last_call hsend hlast hnext hnum hfits
      obtain ⟨c', hcalls⟩ := (ih hcall.last (hcall.left hnum) hothers).mpr hrest
      exact ⟨c', c1, hcall, hcalls⟩

/-- The calls repeat the input faithfully exactly if each of them finds room for all which is left, or stops
    at a frame which is refused and whose input is found again. Together they then send as many frames as
    have found room, and no more than asked for. -/
theorem repeat_last_faithful_iff {wssks : List Sk} (hlast : Holds c.last_input input)
    (htaken : Taken opt.is_json input) (hnum : c.repeat_last_num = num) (hsend : ∀ wssk ∈ wssks, wssk.sendbuf.Ok) :
    (∃ c', RepeatCalls opt input c wssks c' ∧ c'.repeat_last_num = (num - rooms wssks input.length : Nat)) ↔
      RepeatsFit opt.is_json input num (wssks.map fun wssk => skb_wrsz wssk.sendbuf) := by
  rw [← repeatCalls_iff hlast htaken.next hnum hsend]
  constructor
  · rintro ⟨c', hcalls, -⟩
    exact ⟨c', hcalls⟩
  · rintro ⟨c', hcalls⟩
    exact ⟨c', hcalls, hcalls.left hnum⟩

end Calls

namespace Sample

/-- A websocket whose send buffer has no room left. -/
def clogged : Sk :=
  { wssk_init 3 [] with sendbuf := { data := default, rdpos := 0, wrpos := SKB_SIZE } }

/-- The memory in which the given input is to be sent twice more. -/
def repeatingInput (is_json : Bool) (input : List UInt8) : Wscat :=
  { Wscat.init (options is_json false (-1) (-1) 2) 3 [] false with last_input := some (Skb.ofBytes input) }

theorem holds_repeatingInput {is_json : Bool} {input : List UInt8} (h : input.length ≤ SKB_SIZE) :
    Holds (repeatingInput is_json input).last_input input :=
  ⟨Skb.ofBytes input, rfl, Skb.ok_ofBytes h, Skb.readable_ofBytes h⟩

theorem ok_clogged : ∀ wssk ∈ [clogged, wssk_init 3 []], wssk.sendbuf.Ok :=
  List.forall_mem_cons.mpr ⟨⟨by decide, by decide⟩, List.forall_mem_singleton.mpr Skb.ok_zero⟩

end Sample

/-- An object is repeated once the websocket has been written. -/
theorem repeat_last_faithful_iff_sample :
    ∃ c', RepeatCalls (options true false (-1) (-1) 2) [0x7b, 0x7d] (Sample.repeatingInput true [0x7b, 0x7d])
        [Sample.clogged, wssk_init 3 []] c' ∧ c'.repeat_last_num = 0 := by
  have hfaithful := @repeat_last_faithful_iff (options true false (-1) (-1) 2) [0x7b, 0x7d]
    (Sample.repeatingInput true [0x7b, 0x7d]) 2 [Sample.clogged, wssk_init 3 []]
    (Sample.holds_repeatingInput (by decide)) ⟨[0x7b, 0x7d], 2, rfl, rfl⟩ rfl Sample.ok_clogged
  obtain ⟨c', hcalls, hleft⟩ := hfaithful.mpr (by decide)
  exact ⟨c', hcalls, hleft.trans (by decide)⟩

/-- Two bytes which wait for the websocket are not repeated as they are. -/
theorem waiting_input_changes :
    ¬ ∃ c', RepeatCalls (options false false (-1) (-1) 2) [0x68, 0x69] (Sample.repeatingInput false [0x68, 0x69])
      [Sample.clogged, wssk_init 3 []] c' := by
  rintro ⟨c', c1, hcall, -⟩
  have hfits := hcall.fits (Sample.ok_clogged _ List.mem_cons_self) (Sample.holds_repeatingInput (by decide)) rfl rfl
  exact absurd hfits (by decide)

end wsd

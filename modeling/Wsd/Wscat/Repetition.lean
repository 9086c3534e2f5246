import Wsd.Wscat.Repeat

namespace wsd

/-- Each frame which the loop of `repeat_last` makes of its buffer is refused or finds room for
    the whole of it. A copy of the input is appended to the buffer's bytes in every round, and
    what the frame takes is the next input. -/
def RoundsFit (is_json : Bool) : Nat → Nat → Nat → List UInt8 → List UInt8 → Prop
  | 0, _, _, _, _ => True
  | fuel + 1, num, room, bytes, input =>
    num ≠ 0 → (bytes ++ input).length ≤ SKB_SIZE →
      match nextLen is_json (bytes ++ input) with
      | none => True
      | some n =>
        room < frameLen n ∧
            RoundsFit is_json fuel num room (bytes ++ input) ((bytes ++ input).take n) ∨
          maskedLen n ≤ room ∧
            RoundsFit is_json fuel (num - 1) (room - maskedLen n) ((bytes ++ input).drop n) ((bytes ++ input).take n)

instance decidableRoundsFit (is_json : Bool) :
    (fuel num room : Nat) → (bytes input : List UInt8) → Decidable (RoundsFit is_json fuel num room bytes input)
  | 0, _, _, _, _ => isTrue trivial
  | fuel + 1, num, room, bytes, input =>
    if hnum : num = 0 then
      isTrue fun hne => absurd hnum hne
    else if hlen : (bytes ++ input).length ≤ SKB_SIZE then
      match h : nextLen is_json (bytes ++ input) with
      | none => isTrue fun _ _ => by rw [h]; trivial
      | some n =>
        have := decidableRoundsFit is_json fuel num room (bytes ++ input) ((bytes ++ input).take n)
        have := decidableRoundsFit is_json fuel (num - 1) (room - maskedLen n) ((bytes ++ input).drop n)
          ((bytes ++ input).take n)
        decidable_of_iff (room < frameLen n ∧
              RoundsFit is_json fuel num room (bytes ++ input) ((bytes ++ input).take n) ∨
            maskedLen n ≤ room ∧
              RoundsFit is_json fuel (num - 1) (room - maskedLen n) ((bytes ++ input).drop n) ((bytes ++ input).take n))
          (by rw [RoundsFit, h]; exact ⟨fun hfits _ _ => hfits, fun hfits => hfits hnum hlen⟩)
    else
      isTrue fun _ hle => absurd hle hlen

theorem roundsFit_zero {is_json : Bool} {fuel room : Nat} {bytes input : List UInt8} :
    RoundsFit is_json fuel 0 room bytes input := by
  cases fuel with
  | zero => trivial
  | succ fuel => exact fun hne => absurd rfl hne

/-- Behind a compaction the free space is what the readable bytes leave. -/
theorem Skb.Ok.wrsz_compact {b : Skb} (hok : b.Ok) : skb_wrsz (skb_compact b) = SKB_SIZE - b.readable.length := by
  rw [hok.compact.wrsz_eq, hok.wrpos_compact, hok.length_readable_eq, hok.rdsz_eq]

section Rounds

variable {s s' : Stdin} {wssk : Sk} {bytes input : List UInt8} {fuel num : Nat} {rv : Int}

/-- Where the loop is between two rounds. -/
structure Looping (s : Stdin) (wssk : Sk) (bytes input : List UInt8) : Prop where
  socket : s.wssk = some wssk
  send : wssk.sendbuf.Ok
  recv : s.sk.recvbuf.Ok
  read : s.sk.recvbuf.readable = bytes
  room : skb_wrsz s.sk.recvbuf = SKB_SIZE - bytes.length
  last : Holds s.last_input input

/-- Text frames have been put into the websocket's send buffer, and nothing else of it has changed
    but its events. -/
structure Fed (wssk : Sk) (frames : List (Frame × UInt32)) (wssk' : Sk) : Prop where
  sk : ∃ sendbuf events, wssk' = { wssk with sendbuf, events }
  puts : Puts wssk frames wssk'
  text : ∀ f ∈ frames, f.1.opcode = WS_TEXT_FRAME

theorem Fed.refl (wssk : Sk) : Fed wssk [] wssk :=
  ⟨⟨wssk.sendbuf, wssk.events, rfl⟩, .of_eq rfl, by simp⟩

theorem Fed.trans {wssk1 wssk2 : Sk} {frames frames' : List (Frame × UInt32)} (h : Fed wssk frames wssk1)
    (h' : Fed wssk1 frames' wssk2) : Fed wssk (frames ++ frames') wssk2 := by
  obtain ⟨sendbuf, events, rfl⟩ := h.sk
  obtain ⟨sendbuf', events', rfl⟩ := h'.sk
  refine ⟨⟨sendbuf', events', rfl⟩, h.puts.trans h'.puts, ?_⟩
  rw [List.forall_mem_append]
  exact ⟨h.text, h'.text⟩

namespace Looping

/-- The buffer of the loop with another copy of the input. -/
theorem copied (h : Looping s wssk bytes input) (hroom : input.length ≤ skb_wrsz s.sk.recvbuf) :
    (bytes ++ input).length ≤ SKB_SIZE ∧ Looping (copied s input) wssk (bytes ++ input) input := by
  have hput := h.recv.put hroom
  have hread := h.recv.readable_put hroom
  have hlen := h.recv.length_readable_eq
  have hsize := h.recv.rdsz_le
  rw [h.read] at hread hlen
  have hleft := h.recv.wrsz_put hroom
  rw [h.room] at hleft hroom
  refine ⟨?_, h.socket, h.send, hput, hread, ?_, h.last⟩
  · rw [List.length_append]
    omega
  · refine hleft.trans ?_
    rw [List.length_append]
    omega

theorem keeps (h : Looping s wssk bytes input) : s.Keeps :=
  h.last.keeps

end Looping

/-- The loop puts text frames only, each as a whole, as long as none is written over the end of
    the send buffer. -/
theorem repeat_loop_fed (h : Looping s wssk bytes input) (hnum : s.repeat_last_num = num)
    (hfits : RoundsFit s.is_json fuel num (skb_wrsz wssk.sendbuf) bytes input)
    (hloop : repeat_loop fuel s = .ok (rv, s')) :
    ∃ wssk' frames input', Fed wssk frames wssk' ∧ s'.wssk = some wssk' ∧ Holds s'.last_input input' := by
  induction fuel generalizing s wssk bytes input num with
  | zero => cases hloop
  | succ fuel ih =>
    by_cases hzero : num = 0
    · rw [repeat_loop_done (by rw [hnum, hzero]; rfl)] at hloop
      cases hloop
      exact ⟨wssk, [], input, .refl wssk, h.socket, h.last⟩
    have hne : s.repeat_last_num ≠ 0 := by omega
    have hpos : 0 < s.repeat_last_num := by omega
    obtain ⟨li, hlast, hli, rfl⟩ := id h.last
    rcases Nat.lt_or_ge (skb_wrsz s.sk.recvbuf) (skb_rdsz li) with hfull | hroom
    · rw [repeat_loop_full hne hlast hfull] at hloop
      cases hloop
      exact ⟨wssk, [], li.readable, .refl wssk, h.socket, h.last⟩
    obtain ⟨hsize, hcopied⟩ := h.copied (show li.readable.length ≤ _ by rwa [hli.length_readable_eq])
    have hfound := hfits hzero hsize
    have hjson : (wsd.copied s li.readable).is_json = s.is_json := rfl
    cases hnext : nextLen s.is_json (bytes ++ li.readable) with
    | none =>
      -- The copies hold no object, and nothing is repeated any more.
      have hframe := stdin_decode_frame_none hcopied.recv (by rw [hcopied.read, hjson, hnext])
      rw [repeat_loop_round hne hlast hli hroom, hframe, Except.ok_bind] at hloop
      exact @ih { wsd.copied s li.readable with wsd_errno := .WSD_EINPUT, repeat_last_num := 0 } wssk _ _ 0
        ⟨hcopied.socket, hcopied.send, hcopied.recv, hcopied.read, hcopied.room, hcopied.last⟩ rfl roundsFit_zero hloop
    | some n =>
      rw [hnext] at hfound
      have hnext' : nextLen (wsd.copied s li.readable).is_json (wsd.copied s li.readable).sk.recvbuf.readable = some n := by
        rw [hcopied.read, hjson, hnext]
      have hbounds := nextLen_bounds hnext'
      rw [hcopied.recv.length_readable_eq] at hbounds
      obtain ⟨li', hsaved, hli', hread'⟩ := savedInput_readable hcopied.recv hpos hcopied.last.choose_spec.1 hbounds.2
      rw [hcopied.read] at hread'
      obtain ⟨hrefused, hfits'⟩ | ⟨hwhole, hfits'⟩ := hfound
      · have hframe := stdin_decode_frame_waits hcopied.recv hcopied.keeps hcopied.socket hnext' hrefused
        rw [repeat_loop_again hne hlast hli hroom hframe rfl] at hloop
        exact @ih { wsd.copied s li.readable with
            last_input := savedInput (wsd.copied s li.readable) n
            wsd_errno := .WSD_EAGAIN } wssk _ _ num
          ⟨hcopied.socket, hcopied.send, hcopied.recv, hcopied.read, hcopied.room, li', hsaved, hli', hread'⟩ hnum
          hfits' hloop
      · obtain ⟨hlen, hframe, hmasked⟩ := stdin_decode_frame_moves hcopied.recv hcopied.send hcopied.keeps hcopied.socket hnext'
          hwhole rfl
        rw [repeat_loop_sent hne hlast hli hroom hframe] at hloop
        have hput : ((Frame.text _ hlen).masked DATA_KEY).length ≤ skb_wrsz wssk.sendbuf := by rwa [hmasked]
        have hforward := hcopied.recv.rd_forward hbounds.2
        have hrest : (skb_rd_forward (wsd.copied s li.readable).sk.recvbuf n).readable = (bytes ++ li.readable).drop n := by
          rw [hcopied.recv.readable_rd_forward hbounds.2, hcopied.read]
        have hone : Fed wssk [(Frame.text _ hlen, DATA_KEY)]
            { wssk with sendbuf := skb_put wssk.sendbuf ((Frame.text _ hlen).masked DATA_KEY) } :=
          ⟨⟨_, wssk.events, rfl⟩, .of_appended rfl fun _ => ⟨rfl, hput⟩, by simp [Frame.opcode_text]⟩
        obtain ⟨wssk', frames, input', hfed, hget, hholds⟩ := @ih _ _ _ _ (num - 1)
          ⟨rfl, h.send.put hput, hforward.compact, hforward.readable_compact.trans hrest, by
            rw [← hrest]; exact hforward.wrsz_compact, li', hsaved, hli', hread'⟩
          (by simp only [wsd.copied, hnum]; omega) (by rw [h.send.wrsz_put hput, hmasked]; exact hfits') hloop
        exact ⟨wssk', _, input', hone.trans hfed, hget, hholds⟩

end Rounds

end wsd

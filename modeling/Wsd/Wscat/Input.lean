import Wsd.Wscat.Close
import Wsd.Wscat.Traffic

namespace wsd

/-- Where the first object of the input ends, counted from its first byte; `num` is the
    number of open braces, or -1 before the first one. -/
def spanFrom : List UInt8 → Nat → Int → Option Nat
  | [], _, _ => none
  | byte :: bytes, k, num =>
    if byte = 0x7b then
      spanFrom bytes (k + 1) (if num = -1 then 1 else num + 1)
    else if byte = 0x7d then
      if num - 1 = 0 then some (k + 1) else spanFrom bytes (k + 1) (num - 1)
    else
      spanFrom bytes (k + 1) num

/-- The number of bytes which the next frame takes from the input. -/
def nextLen (is_json : Bool) (bytes : List UInt8) : Option Nat :=
  if bytes = [] then none else if is_json then spanFrom bytes 0 (-1) else some (min 32 bytes.length)

theorem spanFrom_bounds {bytes : List UInt8} {k n : Nat} {num : Int} (h : spanFrom bytes k num = some n) :
    k < n ∧ n ≤ k + bytes.length := by
  induction bytes generalizing k num with
  | nil => cases h
  | cons byte bytes ih =>
    have hnext {num' : Int} (h' : spanFrom bytes (k + 1) num' = some n) :
        k < n ∧ n ≤ k + (byte :: bytes).length := by
      have hbounds := ih h'
      rw [List.length_cons]
      omega
    unfold spanFrom at h
    split at h
    · exact hnext h
    split at h
    · split at h
      · cases h
        rw [List.length_cons]
        omega
      · exact hnext h
    · exact hnext h

theorem nextLen_bounds {is_json : Bool} {bytes : List UInt8} {n : Nat} (h : nextLen is_json bytes = some n) :
    1 ≤ n ∧ n ≤ bytes.length := by
  unfold nextLen at h
  by_cases hempty : bytes = []
  · rw [if_pos hempty] at h
    cases h
  rw [if_neg hempty] at h
  have hlen := List.length_pos_iff.mpr hempty
  cases is_json with
  | true =>
    have hbounds := spanFrom_bounds h
    omega
  | false =>
    cases h
    omega

/-- The loop over the buffer finds what is found in its readable bytes. -/
theorem span_loop_eq {buf : Skb} (n pos : Nat) (num : Int) (hpos : buf.rdpos ≤ pos) (hsize : pos + n ≤ SKB_SIZE) :
    span_loop buf 0x7b 0x7d n pos num =
      match spanFrom (buf.data.window pos n) (pos - buf.rdpos) num with
      | none => -1
      | some k => k := by
  induction n generalizing pos num with
  | zero => rfl
  | succ n ih =>
    have hrec (num' : Int) := ih (pos + 1) num' (by omega) (by omega)
    have hk : pos + 1 - buf.rdpos = pos - buf.rdpos + 1 := by omega
    rw [Memory.window_succ]
    unfold span_loop spanFrom
    by_cases hopen : buf.data pos = 0x7b
    · rw [if_pos hopen, if_pos hopen, hrec, hk]
    rw [if_neg hopen, if_neg hopen]
    by_cases hclose : buf.data pos = 0x7d
    · rw [if_pos hclose, if_pos hclose]
      by_cases hnum : num - 1 = 0
      · rw [if_pos hnum, if_pos hnum]
        unfold SKB_SIZE at hsize
        simp only [i32]
        split <;> omega
      · rw [if_neg hnum, if_neg hnum, hrec, hk]
    · rw [if_neg hclose, if_neg hclose, hrec, hk]

section Frames

variable {s s' : Stdin} {wssk : Sk} {n : Nat}

theorem balanced_span_eq {buf : Skb} (hok : buf.Ok) :
    balanced_span buf 0x7b 0x7d = match spanFrom buf.readable 0 (-1) with | none => -1 | some k => k := by
  have hrd := hok.rdpos_le
  have hwr := hok.wrpos_le
  have hloop := @span_loop_eq buf (buf.wrpos - buf.rdpos) buf.rdpos (-1) (Nat.le_refl _) (by omega)
  rw [Nat.sub_self] at hloop
  exact hloop

/-- What the handler makes of a non-empty input. -/
theorem stdin_payload_len_eq (hok : s.sk.recvbuf.Ok) (hne : s.sk.recvbuf.readable ≠ []) :
    stdin_payload_len s = nextLen s.is_json s.sk.recvbuf.readable := by
  unfold stdin_payload_len nextLen
  rw [if_neg hne, balanced_span_eq hok]
  cases s.is_json with
  | false =>
    have hmin : (if 32 < skb_rdsz s.sk.recvbuf then 32 else skb_rdsz s.sk.recvbuf) = min 32 (skb_rdsz s.sk.recvbuf) := by
      split <;> omega
    simp only [Bool.false_eq_true, if_false, hmin, hok.length_readable_eq]
  | true =>
    simp only [if_true]
    cases spanFrom s.sk.recvbuf.readable 0 (-1) with
    | none => rfl
    | some k =>
      have hk : ((k : Nat) : Int) ≠ -1 := by omega
      simp [hk]

/-- Input which is to be repeated has a place to be kept in. -/
def Stdin.Keeps (s : Stdin) : Prop :=
  0 < s.repeat_last_num → s.last_input.isSome = true

/-- What is kept for repeating once so many bytes of the input are to be sent. -/
def savedInput (s : Stdin) (n : Nat) : Option Skb :=
  if 0 < s.repeat_last_num then
    s.last_input.map fun li => skb_put (skb_reset li) (s.sk.recvbuf.data.window s.sk.recvbuf.rdpos n)
  else s.last_input

theorem isSome_savedInput (s : Stdin) (n : Nat) : (savedInput s n).isSome = s.last_input.isSome := by
  unfold savedInput
  split
  · exact Option.isSome_map
  · rfl

theorem save_last_input_eq (h : s.Keeps) (n : Nat) :
    save_last_input s n = .ok { s with last_input := savedInput s n } := by
  unfold save_last_input savedInput
  by_cases hrepeat : 0 < s.repeat_last_num
  · rw [if_pos hrepeat, if_pos hrepeat]
    cases hlast : s.last_input with
    | none =>
      have hsome := h hrepeat
      rw [hlast] at hsome
      cases hsome
    | some last_input => rfl
  · rw [if_neg hrepeat, if_neg hrepeat]

/-- Input which is to be repeated is kept as it is read. -/
theorem savedInput_readable {li : Skb} (hok : s.sk.recvbuf.Ok) (hrepeat : 0 < s.repeat_last_num)
    (hlast : s.last_input = some li) (hn : n ≤ skb_rdsz s.sk.recvbuf) :
    ∃ li', savedInput s n = some li' ∧ li'.Ok ∧ li'.readable = s.sk.recvbuf.readable.take n := by
  have hroom : (s.sk.recvbuf.data.window s.sk.recvbuf.rdpos n).length ≤ skb_wrsz (skb_reset li) := by
    rw [Memory.length_window, (Skb.ok_reset li).wrsz_eq]
    exact Nat.le_trans hn hok.rdsz_le
  refine ⟨_, ?_, (Skb.ok_reset li).put hroom, ?_⟩
  · rw [savedInput, if_pos hrepeat, hlast]
    rfl
  · rw [(Skb.ok_reset li).readable_put hroom, Skb.readable_reset, List.nil_append]
    exact hok.get_bytes hn

/-- Without a complete object or chunk nothing is sent. -/
theorem stdin_decode_frame_none (hok : s.sk.recvbuf.Ok) (hnext : nextLen s.is_json s.sk.recvbuf.readable = none) :
    stdin_decode_frame s = .ok (-1, { s with wsd_errno := .WSD_EINPUT }) := by
  unfold stdin_decode_frame
  by_cases hempty : skb_rdsz s.sk.recvbuf = 0
  · rw [if_pos hempty]
    rfl
  have hne : s.sk.recvbuf.readable ≠ [] := fun h => hempty (hok.readable_eq_nil_iff.mp h)
  rw [if_neg hempty, stdin_payload_len_eq hok hne, hnext]
  rfl

theorem stdin_decode_frame_some (hok : s.sk.recvbuf.Ok) (hnext : nextLen s.is_json s.sk.recvbuf.readable = some n) :
    stdin_decode_frame s = (save_last_input s n >>= fun s => wssk_ws_encode_frame s { payload_len := n }) := by
  have hbounds := nextLen_bounds hnext
  have hne : s.sk.recvbuf.readable ≠ [] := List.length_pos_iff.mp (by omega)
  have hfull : skb_rdsz s.sk.recvbuf ≠ 0 := fun h => hne (hok.readable_eq_nil_iff.mpr h)
  unfold stdin_decode_frame
  rw [if_neg hfull, stdin_payload_len_eq hok hne, hnext]

/-- The encoder is asked for all bytes of the frame, and for no more than there are. -/
theorem dataLen_next {is_json : Bool} {b : Skb} (hok : b.Ok) (hnext : nextLen is_json b.readable = some n) :
    dataLen b (u32 n) = n := by
  have hbounds := nextLen_bounds hnext
  rw [hok.length_readable_eq] at hbounds
  have hsize := hok.rdsz_le
  rw [Skb.u32_of_le_size (by omega), dataLen]
  split <;> omega

/-- A frame for which there is not even the computed room is refused, and its bytes stay. -/
theorem stdin_decode_frame_waits (hok : s.sk.recvbuf.Ok) (hkeeps : s.Keeps) (hwssk : s.wssk = some wssk)
    (hnext : nextLen s.is_json s.sk.recvbuf.readable = some n) (hfull : skb_wrsz wssk.sendbuf < frameLen n) :
    stdin_decode_frame s = .ok (-1, { s with last_input := savedInput s n, wsd_errno := .WSD_EAGAIN }) := by
  rw [stdin_decode_frame_some hok hnext, save_last_input_eq hkeeps, Except.ok_bind]
  unfold wssk_ws_encode_frame
  simp only [hwssk]
  rw [wssk_ws_encode_data_frame_full hok (by rwa [dataLen_next hok hnext]), Except.ok_bind]
  rfl

theorem stdin_decode_frame_refused (hok : s.sk.recvbuf.Ok) (hkeeps : s.Keeps) (hwssk : s.wssk = some wssk)
    (hnext : nextLen s.is_json s.sk.recvbuf.readable = some n) (hfull : skb_wrsz wssk.sendbuf < frameLen n) :
    ∃ last_input, last_input.isSome = s.last_input.isSome ∧
      stdin_decode_frame s = .ok (-1, { s with last_input, wsd_errno := .WSD_EAGAIN }) :=
  ⟨_, isSome_savedInput s n, stdin_decode_frame_waits hok hkeeps hwssk hnext hfull⟩

/-- With room for its frame, the next part of the input moves from one buffer to the other. -/
theorem stdin_decode_frame_moves {payload : List UInt8} (hok : s.sk.recvbuf.Ok) (hsend : wssk.sendbuf.Ok)
    (hkeeps : s.Keeps) (hwssk : s.wssk = some wssk) (hnext : nextLen s.is_json s.sk.recvbuf.readable = some n)
    (hroom : maskedLen n ≤ skb_wrsz wssk.sendbuf) (hread : s.sk.recvbuf.readable.take n = payload) :
    ∃ (hlen : payload.length < 18446744073709551616),
      stdin_decode_frame s = .ok (0, { s with
        last_input := savedInput s n
        sk := { s.sk with recvbuf := skb_compact (skb_rd_forward s.sk.recvbuf n) }
        wssk := some { wssk with
          sendbuf := skb_put wssk.sendbuf ((Frame.text payload hlen).masked DATA_KEY) } }) ∧
      ((Frame.text payload hlen).masked DATA_KEY).length = maskedLen n := by
  subst hread
  have hbounds := nextLen_bounds hnext
  have hsize := hok.rdsz_le
  have htake : (s.sk.recvbuf.readable.take n).length = n := by
    rw [List.length_take]
    omega
  rw [hok.length_readable_eq] at hbounds
  have hu32 : u32 n = n := Skb.u32_of_le_size (by omega)
  unfold SKB_SIZE at hsize
  have hlen : (s.sk.recvbuf.readable.take n).length < 18446744073709551616 := by omega
  have hmasked : ((Frame.text (s.sk.recvbuf.readable.take n) hlen).masked DATA_KEY).length = maskedLen n := by
    rw [length_text_masked, htake]
    rfl
  have hput := @wssk_ws_encode_data_frame_eq wssk.sendbuf s.sk.recvbuf n s.wsd_errno hsend hok hlen
    (by rwa [hmasked])
  rw [htake] at hput
  refine ⟨hlen, ?_, hmasked⟩
  rw [stdin_decode_frame_some hok hnext, save_last_input_eq hkeeps, Except.ok_bind]
  unfold wssk_ws_encode_frame
  simp only [hwssk, hu32, hput, Except.ok_bind]
  rfl

/-- A frame with room for the whole of it is sent. -/
theorem stdin_decode_frame_sent (hok : s.sk.recvbuf.Ok) (hsend : wssk.sendbuf.Ok) (hkeeps : s.Keeps)
    (hwssk : s.wssk = some wssk) (hnext : nextLen s.is_json s.sk.recvbuf.readable = some n)
    (hroom : maskedLen n ≤ skb_wrsz wssk.sendbuf) :
    ∃ last_input recvbuf sendbuf, ∃ f : Frame, last_input.isSome = s.last_input.isSome ∧
      stdin_decode_frame s =
        .ok (0, { s with last_input, sk := { s.sk with recvbuf }, wssk := some { wssk with sendbuf } }) ∧
      recvbuf.Ok ∧ recvbuf.readable = s.sk.recvbuf.readable.drop n ∧
      f.opcode = WS_TEXT_FRAME ∧ f.payload = s.sk.recvbuf.readable.take n ∧
      wssk.sendbuf.Appended (f.masked DATA_KEY) sendbuf ∧ skb_wrsz sendbuf = skb_wrsz wssk.sendbuf - maskedLen n := by
  have hbounds := nextLen_bounds hnext
  rw [hok.length_readable_eq] at hbounds
  obtain ⟨hlen, hmoves, hmasked⟩ := stdin_decode_frame_moves hok hsend hkeeps hwssk hnext hroom rfl
  have hforward := hok.rd_forward hbounds.2
  refine ⟨_, _, _, Frame.text (s.sk.recvbuf.readable.take n) hlen, isSome_savedInput s n, hmoves, hforward.compact, ?_,
    Frame.opcode_text _ _, rfl, ⟨rfl, by rwa [hmasked]⟩, ?_⟩
  · rw [hforward.readable_compact, hok.readable_rd_forward hbounds.2]
  · rw [hsend.wrsz_put (by rwa [hmasked]), hmasked]

end Frames

/-- Each of the next frames which the input holds is refused or finds room for the whole of it. -/
def InputFits (is_json : Bool) : Nat → Nat → List UInt8 → Prop
  | 0, _, _ => True
  | fuel + 1, room, bytes =>
    match nextLen is_json bytes with
    | none => True
    | some n => room < frameLen n ∨ maskedLen n ≤ room ∧ InputFits is_json fuel (room - maskedLen n) (bytes.drop n)

/-- What is left of the input when there is no room for another frame. -/
def inputLeft (is_json : Bool) : Nat → Nat → List UInt8 → List UInt8
  | 0, _, bytes => bytes
  | fuel + 1, room, bytes =>
    match nextLen is_json bytes with
    | none => bytes
    | some n => if room < maskedLen n then bytes else inputLeft is_json fuel (room - maskedLen n) (bytes.drop n)

instance decidableInputFits (is_json : Bool) :
    (fuel room : Nat) → (bytes : List UInt8) → Decidable (InputFits is_json fuel room bytes)
  | 0, _, _ => isTrue trivial
  | fuel + 1, room, bytes =>
    match h : nextLen is_json bytes with
    | none => isTrue (by rw [InputFits, h]; trivial)
    | some n =>
      have := decidableInputFits is_json fuel (room - maskedLen n) (bytes.drop n)
      decidable_of_iff (room < frameLen n ∨ maskedLen n ≤ room ∧
        InputFits is_json fuel (room - maskedLen n) (bytes.drop n)) (by rw [InputFits, h])

/-- What the loop over the input has sent and left. -/
structure Sent (s : Stdin) (wssk : Sk) (left : List UInt8) (frames : List (Frame × UInt32)) (s' : Stdin) : Prop where
  state : ∃ last_input recvbuf sendbuf wsd_errno, last_input.isSome = s.last_input.isSome ∧ recvbuf.Ok ∧
    recvbuf.readable = left ∧ sendbuf.Ok ∧ sendbuf.readable = wssk.sendbuf.readable ++ maskedStream frames ∧
    s' = { s with last_input, sk := { s.sk with recvbuf }, wssk := some { wssk with sendbuf }, wsd_errno }
  text : ∀ f ∈ frames, f.1.opcode = WS_TEXT_FRAME
  data : sentData frames ++ left = s.sk.recvbuf.readable

/-- The loop sends frames as long as there is room for the next one; what is sent and what
    is left make up the input. -/
theorem stdin_decode_loop_sent {fuel : Nat} (k : Nat) {s : Stdin} {wssk : Sk} (hok : s.sk.recvbuf.Ok)
    (hsend : wssk.sendbuf.Ok) (hkeeps : s.Keeps) (hwssk : s.wssk = some wssk)
    (hfuel : s.sk.recvbuf.readable.length < fuel)
    (hfits : InputFits s.is_json fuel (skb_wrsz wssk.sendbuf) s.sk.recvbuf.readable) :
    ∃ frames s', stdin_decode_loop fuel k s = .ok (-1, k + frames.length, s') ∧
      Sent s wssk (inputLeft s.is_json fuel (skb_wrsz wssk.sendbuf) s.sk.recvbuf.readable) frames s' := by
  induction fuel generalizing k s wssk with
  | zero => exact absurd hfuel (Nat.not_lt_zero _)
  | succ fuel ih =>
    unfold stdin_decode_loop
    cases hnext : nextLen s.is_json s.sk.recvbuf.readable with
    | none =>
      rw [stdin_decode_frame_none hok hnext, Except.ok_bind]
      refine ⟨[], _, rfl, ⟨⟨s.last_input, s.sk.recvbuf, wssk.sendbuf, .WSD_EINPUT, rfl, hok, ?_, hsend, ?_, ?_⟩, ?_, ?_⟩⟩
      · simp only [inputLeft, hnext]
      · simp
      · rw [← hwssk]
      · simp
      · simp [inputLeft, hnext]
    | some n =>
      simp only [InputFits, hnext] at hfits
      by_cases hroom : skb_wrsz wssk.sendbuf < frameLen n
      · obtain ⟨last_input, hsome, hframe⟩ := stdin_decode_frame_refused hok hkeeps hwssk hnext hroom
        have hfull : skb_wrsz wssk.sendbuf < maskedLen n := Nat.lt_of_lt_of_le hroom (frameLen_le_maskedLen n)
        have hleft : inputLeft s.is_json (fuel + 1) (skb_wrsz wssk.sendbuf) s.sk.recvbuf.readable =
            s.sk.recvbuf.readable := by
          simp only [inputLeft, hnext, if_pos hfull]
        rw [hframe, Except.ok_bind, hleft]
        refine ⟨[], _, rfl, ⟨⟨last_input, s.sk.recvbuf, wssk.sendbuf, .WSD_EAGAIN, hsome, hok, rfl, hsend, ?_, ?_⟩, ?_, ?_⟩⟩
        · simp
        · rw [← hwssk]
        · simp
        · simp
      · obtain ⟨hfull, hfits⟩ := hfits.resolve_left hroom
        obtain ⟨last_input, recvbuf, sendbuf, f, hsome, hframe, hrok, hrest, htext, hpayload, hput, hleftroom⟩ :=
          stdin_decode_frame_sent hok hsend hkeeps hwssk hnext hfull
        have hbounds := nextLen_bounds hnext
        rw [hframe, Except.ok_bind]
        obtain ⟨frames, s', hloop, hsent⟩ := @ih (k + 1)
          { s with last_input, sk := { s.sk with recvbuf }, wssk := some { wssk with sendbuf } } { wssk with sendbuf }
          hrok (hput.ok hsend) (fun hrepeat => hsome.trans (hkeeps hrepeat)) rfl
          (by simp only [hrest, List.length_drop]; omega) (by simpa only [hrest, hleftroom] using hfits)
        have hleft : inputLeft s.is_json (fuel + 1) (skb_wrsz wssk.sendbuf) s.sk.recvbuf.readable =
            inputLeft s.is_json fuel (skb_wrsz sendbuf) recvbuf.readable := by
          simp only [inputLeft, hnext, if_neg (Nat.not_lt.mpr hfull), hrest, hleftroom]
        rw [hleft]
        obtain ⟨last_input', recvbuf', sendbuf', e, hsome', hrok', hrest', hsok', hread', hs'⟩ := hsent.state
        refine ⟨(f, DATA_KEY) :: frames, s', ?_, ⟨⟨last_input', recvbuf', sendbuf', e, ?_, hrok', hrest', hsok', ?_, ?_⟩, ?_, ?_⟩⟩
        · change stdin_decode_loop fuel (k + 1) _ = _
          rw [hloop, List.length_cons, Nat.add_assoc, Nat.add_comm 1]
        · exact hsome'.trans hsome
        · rw [hread', hput.readable hsend, List.append_assoc]
          rfl
        · exact hs'
        · rw [List.forall_mem_cons]
          exact ⟨htext, hsent.text⟩
        · have hdata := hsent.data
          have hcons : sentData ((f, DATA_KEY) :: frames) = f.payload ++ sentData frames := by
            have hisData : IsData f.opcode := by
              rw [htext]
              decide
            simp [sentData, payloads, hisData]
          rw [hcons, List.append_assoc, hdata, hrest, hpayload, List.take_append_drop]

/-- What `stdin_recv` has done with the input and with the websocket. -/
structure wscat.Pumped (opt : Options) (c : Wscat) (sk wssk : Sk) (frames : List (Frame × UInt32)) (c' : Wscat) :
    Prop where
  state : ∃ last_input recvbuf sendbuf events wsd_errno, last_input.isSome = c.last_input.isSome ∧ recvbuf.Ok ∧
    recvbuf.readable = inputLeft opt.is_json (sk.recvbuf.readable.length + 1) (skb_wrsz wssk.sendbuf)
      sk.recvbuf.readable ∧
    sendbuf.Ok ∧ sendbuf.readable = wssk.sendbuf.readable ++ maskedStream frames ∧
    sentData frames ++ recvbuf.readable = sk.recvbuf.readable ∧
    c' = { c with
      fdin := some { sk with recvbuf }
      wssk := some { wssk with sendbuf, events }
      last_input
      wsd_errno }
  text : ∀ f ∈ frames, f.1.opcode = WS_TEXT_FRAME

/-- The fields of the two sockets which `stdin_recv` may have changed. -/
theorem wscat.Pumped.eq {opt : Options} {c c' : Wscat} {sk wssk : Sk} {frames : List (Frame × UInt32)}
    (h : wscat.Pumped opt c sk wssk frames c') :
    ∃ last_input recvbuf sendbuf events wsd_errno, c' = { c with
      fdin := some { sk with recvbuf }
      wssk := some { wssk with sendbuf, events }
      last_input
      wsd_errno } := by
  obtain ⟨last_input, recvbuf, sendbuf, events, wsd_errno, hlast, hrok, hleft, hsok, hsread, hdata, hsame⟩ := h.state
  exact ⟨last_input, recvbuf, sendbuf, events, wsd_errno, hsame⟩

/-- The bytes of the standard input which find room are sent, and the others stay. -/
theorem wscat.post_stdin_pumped {opt : Options} {c c' : Wscat} {sk wssk : Sk} {rv : Int} (hget : c.fdin = some sk)
    (hwssk : c.wssk = some wssk) (hok : sk.recvbuf.Ok) (hsend : wssk.sendbuf.Ok)
    (hkeeps : 0 < c.repeat_last_num → c.last_input.isSome = true) (hclose : sk.close = false)
    (hwrite : sk.close_on_write = false)
    (hfits : InputFits opt.is_json (sk.recvbuf.readable.length + 1) (skb_wrsz wssk.sendbuf) sk.recvbuf.readable)
    (h : wscat.post_stdin opt c sk = .ok (rv, c')) : rv = 0 ∧ ∃ frames, wscat.Pumped opt c sk wssk frames c' := by
  obtain ⟨hrv, rfl, hempty⟩ | ⟨s, hrecv, rfl⟩ := wscat.post_stdin_inv h
  · have hnil : sk.recvbuf.readable = [] := hok.readable_eq_nil_iff.mpr hempty
    have hleft : inputLeft opt.is_json (sk.recvbuf.readable.length + 1) (skb_wrsz wssk.sendbuf) sk.recvbuf.readable =
        sk.recvbuf.readable := by
      rw [hnil]
      rfl
    refine ⟨hrv, [], ⟨⟨c'.last_input, sk.recvbuf, wssk.sendbuf, wssk.events, c'.wsd_errno, rfl, hok, hleft.symm, hsend, ?_,
      rfl, ?_⟩, by simp⟩⟩
    · rw [maskedStream_nil, List.append_nil]
    · rw [← hget, ← hwssk]
  · unfold stdin_recv at hrecv
    obtain ⟨_, -, hrecv⟩ := Except.bind_eq_ok_iff.mp hrecv
    have hsome : (c.stdin opt sk).wssk = some wssk := hwssk
    rw [hsome, if_neg (by simp)] at hrecv
    have hfuel : skb_rdsz (c.stdin opt sk).sk.recvbuf + 1 = sk.recvbuf.readable.length + 1 := by
      rw [hok.length_readable_eq]
      rfl
    obtain ⟨frames, s1, hloop, hsent⟩ := @stdin_decode_loop_sent (sk.recvbuf.readable.length + 1) 0 (c.stdin opt sk) wssk
      hok hsend hkeeps hsome (Nat.lt_succ_self _) hfits
    rw [hfuel, hloop, Except.ok_bind] at hrecv
    obtain ⟨last_input, recvbuf, sendbuf, e, hlast, hrok, hread, hsok, hsread, rfl⟩ := hsent.state
    have hleave := @stdin_recv_leave_eq (0 + frames.length)
      { c.stdin opt sk with last_input, sk := { sk with recvbuf }, wssk := some { wssk with sendbuf }, wsd_errno := e }
      hclose hwrite
    have hdata := hsent.data
    rw [← hread] at hdata
    cases hrecv
    refine ⟨rfl, frames, ⟨?_, hsent.text⟩⟩
    by_cases hnone : 0 + frames.length ≠ 0
    · refine ⟨last_input, recvbuf, sendbuf, wssk.events.union EPOLLOUT, e, hlast, hrok, hread, hsok, hsread, hdata, ?_⟩
      have hleave' := hleave
      rw [if_pos hnone] at hleave'
      exact congrArg (fun s : Stdin => { c.setStdin s with fdin := some s.sk }) hleave'
    · refine ⟨last_input, recvbuf, sendbuf, wssk.events, e, hlast, hrok, hread, hsok, hsread, hdata, ?_⟩
      have hleave' := hleave
      rw [if_neg hnone] at hleave'
      exact congrArg (fun s : Stdin => { c.setStdin s with fdin := some s.sk }) hleave'

end wsd

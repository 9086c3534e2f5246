import Wsd.Rounds
import Wsd.Loops.Resume
import Wsd.Loops.Sync
import Wsd.Wscat.Input
import Wsd.Wscat.World

namespace wsd

/-- What a handler leaves of a buffer: no more bytes than before. -/
def Skb.Consumed (b b' : Skb) : Prop :=
  b'.Ok ∧ skb_rdsz b' ≤ skb_rdsz b

namespace Skb

variable {b b' b'' : Skb} {size : Nat}

theorem Consumed.trans (h : b.Consumed b') (h' : b'.Consumed b'') : b.Consumed b'' :=
  ⟨h'.1, Nat.le_trans h'.2 h.2⟩

theorem Ok.consumed (h : b.Ok) : b.Consumed b :=
  ⟨h, Nat.le_refl _⟩

theorem consumed_reset (b b' : Skb) : b.Consumed (skb_reset b') := by
  refine ⟨ok_reset b', ?_⟩
  rw [rdsz_reset]
  exact Nat.zero_le _

theorem Ok.consumed_compact (h : b.Ok) : b.Consumed (skb_compact b) :=
  ⟨h.compact, Nat.le_of_eq h.rdsz_compact⟩

theorem Ok.consumed_rd_forward (h : b.Ok) (hsize : size ≤ skb_rdsz b) : b.Consumed (skb_rd_forward b size) :=
  ⟨h.rd_forward hsize, by rw [h.rdsz_rd_forward hsize]; exact Nat.sub_le ..⟩

theorem Consumed.compact (h : b.Consumed b') : b.Consumed (skb_compact b') :=
  h.trans h.1.consumed_compact

theorem Ok.get_char_left (h : b.Ok) (hsize : 1 ≤ skb_rdsz b) :
    ∃ byte b', skb_get_char b = (byte, b') ∧ b'.Ok ∧ skb_rdsz b' = skb_rdsz b - 1 :=
  ⟨_, (skb_get b 1).2, rfl, h.get hsize, h.rdsz_get hsize⟩

/-- The first two characters of a frame. -/
theorem Ok.get_chars (h : b.Ok) (hsize : 2 ≤ skb_rdsz b) :
    ∃ byte1 byte2 b1 b2, skb_get_char b = (byte1, b1) ∧ skb_get_char b1 = (byte2, b2) ∧ b2.Ok ∧
      skb_rdsz b2 < skb_rdsz b := by
  obtain ⟨byte1, b1, hget1, hok1, hleft1⟩ := h.get_char_left (by omega)
  obtain ⟨byte2, b2, hget2, hok2, hleft2⟩ := hok1.get_char_left (by omega)
  exact ⟨byte1, byte2, b1, b2, hget1, hget2, hok2, by omega⟩

end Skb

/-- The length field takes its bytes only if they are there. -/
theorem ws_decode_payload_len_consumed {buf b : Skb} {byte2 : UInt8} {len : Nat} {wsd_errno e : Errno} (hok : buf.Ok)
    (h : ws_decode_payload_len buf byte2 wsd_errno = (len, b, e)) : buf.Consumed b := by
  unfold ws_decode_payload_len at h
  split at h
  · cases h
    exact hok.consumed
  split at h
  · split at h
    · cases h
      exact hok.consumed
    · cases h
      exact hok.consumed_rd_forward (show 2 ≤ skb_rdsz buf by omega)
  split at h
  · split at h
    · cases h
      exact hok.consumed
    · cases h
      exact hok.consumed_rd_forward (show 8 ≤ skb_rdsz buf by omega)
  · cases h
    exact hok.consumed

section Encode

variable {c c' : Conn} {wsf : WsFrame} {e : Option EncodeFrame} {rv : Int}

theorem consumed_transfer {b dst : Skb} {n : Nat} (hok : b.Ok) (hlen : n ≤ skb_rdsz b) :
    b.Consumed (skb_compact (skb_transfer n dst b).2) := by
  have hrd := hok.rdpos_le
  have hwr := hok.wrpos_le
  have hsize := hok.rdsz_le
  unfold SKB_SIZE at hwr hsize
  rw [Skb.skb_transfer_snd n dst (by omega)]
  exact (hok.consumed_rd_forward hlen).compact

/-- A handler which takes a payload from a socket's receive buffer takes no more than that. -/
def Takes (sk sk' : Sk) (wsf : WsFrame) : Prop :=
  sk.recvbuf.Ok → wsf.payload_len ≤ skb_rdsz sk.recvbuf → sk.recvbuf.Consumed sk'.recvbuf

theorem takes_of_eq {sk sk' : Sk} (h : sk'.recvbuf = sk.recvbuf) : Takes sk sk' wsf := by
  intro hok _
  rw [h]
  exact hok.consumed

theorem ws_encode_frame_takes (h : ws_encode_frame c wsf = .ok (rv, c')) :
    Takes c.sk c'.sk wsf ∧ Takes c.pp2sk c'.pp2sk wsf := by
  unfold ws_encode_frame at h
  generalize ws_calculate_frame_length wsf.payload_len c.wsd_errno = calculated at h
  obtain ⟨frame_len, e⟩ := calculated
  obtain ⟨_, -, h⟩ := Except.bind_eq_ok_iff.mp h
  split at h
  · cases h
    exact ⟨takes_of_eq rfl, takes_of_eq rfl⟩
  simp only at h
  generalize ws_set_payload_len _ _ _ = put at h
  obtain ⟨set, sendbuf⟩ := put
  obtain ⟨_, -, h⟩ := Except.bind_eq_ok_iff.mp h
  cases h
  refine ⟨takes_of_eq ?_, fun hok hlen => consumed_transfer hok hlen⟩
  simp only
  split <;> split <;> rfl

theorem pp2_encode_frame_takes (h : pp2_encode_frame c wsf = .ok (rv, c')) :
    Takes c.sk c'.sk wsf ∧ Takes c.pp2sk c'.pp2sk wsf := by
  unfold pp2_encode_frame at h
  split at h
  · cases h
    exact ⟨takes_of_eq rfl, takes_of_eq rfl⟩
  · cases h
    refine ⟨fun hok hlen => ?_, takes_of_eq rfl⟩
    have hsize := hok.rdsz_le
    have hu32 : u32 wsf.payload_len = wsf.payload_len := Skb.u32_of_le_size (by omega)
    simp only [hu32]
    exact consumed_transfer hok hlen

theorem encode_frame_takes (h : encode_frame e c wsf = .ok (rv, c')) :
    Takes c.sk c'.sk wsf ∧ Takes c.pp2sk c'.pp2sk wsf := by
  cases e with
  | none => cases h
  | some handler =>
    cases handler with
    | ws_encode_frame => exact ws_encode_frame_takes h
    | pp2_encode_frame => exact pp2_encode_frame_takes h

end Encode

section Ws

variable {c c' : Conn} {wsf : WsFrame} {rv : Int}

theorem pong_recvbuf {p : Option Pong} {sk sk' : Sk} {do_mask : Bool} {wsd_errno e : Errno}
    (h : pong p sk do_mask wsd_errno = .ok (rv, sk', e)) : sk'.recvbuf = sk.recvbuf := by
  cases p with
  | none => cases h
  | some handler =>
    cases handler
    obtain ⟨-, ⟨-, -, sendbuf, rfl, -⟩ | ⟨-, -, rfl⟩⟩ := put_ping_pong_inv h
    · rfl
    · rfl

theorem start_closing_handshake_recvbuf {p : Option StartClosingHandshake} {sk sk' : Sk} {status : Nat}
    {do_mask : Bool} {wsd_errno e : Errno} (h : start_closing_handshake p sk status do_mask wsd_errno = .ok (rv, sk', e)) :
    sk'.recvbuf = sk.recvbuf := by
  cases p with
  | none => cases h
  | some handler =>
    cases handler
    obtain ⟨-, ⟨-, -, sendbuf, rfl, -⟩ | ⟨-, -, rfl⟩⟩ := ws_start_closing_handshake_inv h
    · rfl
    · rfl

theorem ws_finish_closing_handshake_consumed {sk sk' : Sk} {len : Nat} {do_mask : Bool} {wsd_errno e : Errno}
    (h : ws_finish_closing_handshake sk do_mask len wsd_errno = .ok (rv, sk', e)) :
    sk.recvbuf.Consumed sk'.recvbuf := by
  obtain ⟨recvbuf, ⟨-, -, -, rfl⟩ | ⟨-, -, -, status, sendbuf, -, rfl⟩ | ⟨-, -, -, rfl⟩⟩ :=
    ws_finish_closing_handshake_inv h
  · exact Skb.consumed_reset ..
  · exact Skb.consumed_reset ..
  · exact Skb.consumed_reset ..

theorem dispatch_payload_consumed (hok : c.sk.recvbuf.Ok) (hlen : wsf.payload_len ≤ skb_rdsz c.sk.recvbuf)
    (h : dispatch_payload c wsf = .ok (rv, c')) : c.sk.recvbuf.Consumed c'.sk.recvbuf := by
  unfold dispatch_payload at h
  simp only at h
  split at h
  · exact (encode_frame_takes h).1 hok hlen
  split at h
  · obtain ⟨⟨rv', sk', e⟩, hfinish, h⟩ := Except.bind_eq_ok_iff.mp h
    cases h
    exact ws_finish_closing_handshake_consumed hfinish
  split at h
  · obtain ⟨⟨rv', sk', e⟩, hpong, h⟩ := Except.bind_eq_ok_iff.mp h
    cases h
    rw [pong_recvbuf hpong]
    exact hok.consumed_compact
  split at h
  · cases h
    exact hok.consumed_compact
  · obtain ⟨⟨rv', sk', e⟩, hstart, h⟩ := Except.bind_eq_ok_iff.mp h
    cases h
    rw [start_closing_handshake_recvbuf hstart]
    exact hok.consumed

/-- A frame of a client which was handled has been taken from the receive buffer, its header at least. -/
theorem ws_decode_frame_lower (hok : c.sk.recvbuf.Ok) (h : ws_decode_frame c = .ok (0, c')) :
    c'.sk.recvbuf.Ok ∧ skb_rdsz c'.sk.recvbuf < skb_rdsz c.sk.recvbuf := by
  unfold ws_decode_frame at h
  split at h
  · cases h
  rename_i hshort
  unfold WS_MASKED_FRAME_LEN at hshort
  obtain ⟨byte1, byte2, b1, b2, hget1, hget2, hok2, hless⟩ := hok.get_chars (by omega)
  simp only [hget1, hget2] at h
  split at h
  · cases h
  generalize hdecoded : ws_decode_payload_len b2 byte2 c.wsd_errno = decoded at h
  obtain ⟨len, b3, e⟩ := decoded
  obtain ⟨hok3, hle3⟩ := ws_decode_payload_len_consumed hok2 hdecoded
  simp only at h
  split at h
  · cases h
  split at h
  · cases h
  rename_i hkey
  have hfour : 4 ≤ skb_rdsz b3 := by omega
  have hok4 := hok3.get hfour
  have hleft := hok3.rdsz_get hfour
  split at h
  · cases h
  rename_i hpayload
  have hconsumed := dispatch_payload_consumed (by exact ⟨hok4.rdpos_le, hok4.wrpos_le⟩) (Nat.le_of_not_lt hpayload) h
  obtain ⟨hok', hle'⟩ := hconsumed
  refine ⟨hok', ?_⟩
  have hsame : skb_rdsz c'.sk.recvbuf ≤ skb_rdsz (skb_get b3 4).2 := hle'
  omega

end Ws

section Pp2

variable {m m' : Mux} {rv : Int}

theorem pp2_decode_payload_consumed {b : Skb} {hash : UInt64} {len : Nat} (hok : b.Ok) (hlen : len ≤ skb_rdsz b)
    (h : pp2_decode_payload m b hash len = .ok (rv, m')) : b.Consumed m'.pp2sk.recvbuf := by
  unfold pp2_decode_payload at h
  obtain ⟨found, -, h⟩ := Except.bind_eq_ok_iff.mp h
  cases found with
  | none =>
    cases h
    exact (hok.consumed_rd_forward hlen).compact
  | some client =>
    obtain ⟨id, cln_sk⟩ := client
    obtain ⟨⟨rv', c⟩, hencode, h⟩ := Except.bind_eq_ok_iff.mp h
    cases h
    exact (encode_frame_takes hencode).2 hok hlen

/-- A frame of the backend which was handled has been taken from the receive buffer, whether its
    hash is known or not. -/
theorem pp2_decode_frame_lower (hok : m.pp2sk.recvbuf.Ok) (h : pp2_decode_frame m = .ok (0, m')) :
    m'.pp2sk.recvbuf.Ok ∧ skb_rdsz m'.pp2sk.recvbuf < skb_rdsz m.pp2sk.recvbuf := by
  have hheader : PP2_HEADER_LEN = 46 := rfl
  by_cases hshort : skb_rdsz m.pp2sk.recvbuf ≤ PP2_HEADER_LEN
  · rw [pp2_decode_frame_short hshort] at h
    cases h
  by_cases haccepted : ∃ hash len rest, Pp2Accepted m.pp2sk.recvbuf.readable hash len rest
  · obtain ⟨hash, len, rest, haccepted⟩ := haccepted
    have hlength := haccepted.length
    rw [hok.length_readable_eq] at hlength
    have hne : rest ≠ [] := by
      rw [← List.length_pos_iff]
      omega
    rw [pp2_decode_frame_accepted hok haccepted hne] at h
    split at h
    · cases h
    rename_i hlen
    have hfit : PP2_HEADER_LEN ≤ skb_rdsz m.pp2sk.recvbuf := by omega
    have hleft := hok.rdsz_rd_forward hfit
    obtain ⟨hok', hle⟩ := pp2_decode_payload_consumed (hok.rd_forward hfit) (by omega) h
    exact ⟨hok', by omega⟩
  · rw [pp2_decode_frame_rejected hok (by omega) haccepted] at h
    cases h

end Pp2

section Wssk

variable {no_handshake : Bool} {w w' : Wssk} {rv : Int}

theorem wssk_ws_decode_opcode_consumed {byte1 : UInt8} {payload_len : Nat} (hok : w.sk.recvbuf.Ok)
    (hlen : payload_len ≤ skb_rdsz w.sk.recvbuf)
    (h : wssk_ws_decode_opcode no_handshake w byte1 payload_len = .ok (rv, w')) :
    w.sk.recvbuf.Consumed w'.sk.recvbuf := by
  have hrd := hok.rdpos_le
  have hwr := hok.wrpos_le
  have hsize := hok.rdsz_le
  unfold SKB_SIZE at hwr hsize
  unfold wssk_ws_decode_opcode at h
  simp only at h
  split at h
  · unfold skb_print at h
    rw [print_loop_eq payload_len w.stdout w.sk.recvbuf (by omega)] at h
    simp only at h
    split at h
    · obtain ⟨_, hprint, -⟩ := Except.bind_eq_ok_iff.mp h
      cases hprint
    · obtain ⟨_, -, h⟩ := Except.bind_eq_ok_iff.mp h
      cases h
      exact (hok.consumed_rd_forward hlen).compact
  split at h
  · split at h
    · cases h
      exact Skb.consumed_reset ..
    · obtain ⟨⟨rv', sk', e⟩, hfinish, h⟩ := Except.bind_eq_ok_iff.mp h
      cases h
      exact ws_finish_closing_handshake_consumed hfinish
  split at h
  · obtain ⟨⟨rv', sk', e⟩, hpong, h⟩ := Except.bind_eq_ok_iff.mp h
    cases h
    rw [pong_recvbuf hpong]
    exact hok.consumed_compact
  split at h
  · cases h
    exact hok.consumed_compact
  · cases h
    exact hok.consumed

/-- A frame of the server which was handled has been taken from the receive buffer. -/
theorem wssk_ws_decode_frame_lower (hok : w.sk.recvbuf.Ok) (h : wssk_ws_decode_frame no_handshake w = .ok (0, w')) :
    w'.sk.recvbuf.Ok ∧ skb_rdsz w'.sk.recvbuf < skb_rdsz w.sk.recvbuf := by
  unfold wssk_ws_decode_frame at h
  split at h
  · cases h
  rename_i hshort
  unfold WS_UNMASKED_FRAME_LEN at hshort
  obtain ⟨byte1, byte2, b1, b2, hget1, hget2, hok2, hless⟩ := hok.get_chars (by omega)
  simp only [hget1, hget2] at h
  split at h
  · cases h
  generalize hdecoded : ws_decode_payload_len b2 byte2 w.wsd_errno = decoded at h
  obtain ⟨len, b3, e⟩ := decoded
  obtain ⟨hok3, hle3⟩ := ws_decode_payload_len_consumed hok2 hdecoded
  simp only at h
  split at h
  · cases h
  split at h
  · cases h
  split at h
  · cases h
  rename_i hpayload
  obtain ⟨_, -, h⟩ := Except.bind_eq_ok_iff.mp h
  obtain ⟨hok', hle'⟩ := wssk_ws_decode_opcode_consumed (by exact hok3) (Nat.le_of_not_lt hpayload) h
  refine ⟨hok', ?_⟩
  have hsame : skb_rdsz w'.sk.recvbuf ≤ skb_rdsz b3 := hle'
  omega

end Wssk

section Stdin

variable {s s' : Stdin} {rv : Int}

theorem mask_transfer_snd (key n i : Nat) (dst : Skb) {src : Skb} (h : src.rdpos + n < 4294967296) :
    (mask_transfer key n i dst src).2 = skb_rd_forward src n := by
  induction n generalizing i dst src with
  | zero =>
    have hr : u32 src.rdpos = src.rdpos := u32_of_lt (by omega)
    simp [mask_transfer, skb_rd_forward, hr]
  | succ n ih =>
    have hr : u32 (src.rdpos + 1) = src.rdpos + 1 := u32_of_lt (by omega)
    rw [mask_transfer, hr, ih (i + 1) _ (by simp only; omega)]
    simp only [skb_rd_forward, Nat.add_assoc, Nat.add_comm 1 n]

/-- The encoder takes the bytes of a frame, or leaves them for want of room. -/
theorem put_data_frame_cases {dst dst' src src' : Skb} {n : Nat} {wsd_errno e : Errno} (hok : src.Ok)
    (hn : n ≤ skb_rdsz src) (h : put_data_frame dst src n wsd_errno = .ok (rv, dst', src', e)) :
    rv = -1 ∧ src' = src ∨ rv = 0 ∧ src'.Ok ∧ skb_rdsz src' = skb_rdsz src - n := by
  have hrd := hok.rdpos_le
  have hwr := hok.wrpos_le
  have hsize := hok.rdsz_le
  unfold SKB_SIZE at hwr hsize
  unfold put_data_frame at h
  generalize ws_calculate_frame_length n wsd_errno = calculated at h
  obtain ⟨frame_len, e'⟩ := calculated
  dsimp only at h
  split at h
  · cases h
    exact .inl ⟨rfl, rfl⟩
  split at h
  · cases h
    exact .inl ⟨rfl, rfl⟩
  generalize decide ((ws_set_payload_len _ n (set_mask_bit 0)).1 = 0) = done at h
  cases done with
  | false => cases h
  | true =>
    cases h
    have hforward := hok.rd_forward hn
    refine .inr ⟨rfl, ?_⟩
    rw [mask_transfer_snd _ _ _ _ (by omega)]
    exact ⟨hforward.compact, by rw [hforward.rdsz_compact, hok.rdsz_rd_forward hn]⟩

/-- What is kept for repeating is not empty. -/
theorem save_last_input_saved {n : Nat} (hpos : 1 ≤ n) (hsize : n ≤ SKB_SIZE) (h : save_last_input s n = .ok s') :
    ∃ last_input, s' = { s with last_input } ∧
      (last_input = s.last_input ∨ ∃ li, last_input = some li ∧ li.Ok ∧ 0 < skb_rdsz li) := by
  unfold save_last_input at h
  split at h
  · cases hlast : s.last_input with
    | none =>
      rw [hlast] at h
      cases h
    | some li =>
      rw [hlast] at h
      cases h
      have hroom : (s.sk.recvbuf.data.window s.sk.recvbuf.rdpos n).length ≤ skb_wrsz (skb_reset li) := by
        rw [Memory.length_window, (Skb.ok_reset li).wrsz_eq]
        exact hsize
      have hput := (Skb.ok_reset li).put hroom
      refine ⟨_, rfl, .inr ⟨_, rfl, hput, ?_⟩⟩
      rw [← hput.length_readable_eq, (Skb.ok_reset li).readable_put hroom, Skb.readable_reset, List.nil_append,
        Memory.length_window]
      exact hpos
  · cases h
    exact ⟨s.last_input, rfl, .inl rfl⟩

/-- A call which has found a payload takes it, or leaves it for want of room. -/
theorem stdin_decode_frame_buffers {n : Nat} (hok : s.sk.recvbuf.Ok)
    (hnext : nextLen s.is_json s.sk.recvbuf.readable = some n) (h : stdin_decode_frame s = .ok (rv, s')) :
    ∃ last_input recvbuf wssk e, s' = { s with last_input, sk := { s.sk with recvbuf }, wssk, wsd_errno := e } ∧
      (last_input = s.last_input ∨ ∃ li, last_input = some li ∧ li.Ok ∧ 0 < skb_rdsz li) ∧
      (rv = -1 ∧ recvbuf = s.sk.recvbuf ∨ rv = 0 ∧ recvbuf.Ok ∧ skb_rdsz recvbuf = skb_rdsz s.sk.recvbuf - n) := by
  obtain ⟨hpos, hle⟩ := nextLen_bounds hnext
  rw [hok.length_readable_eq] at hle
  have hsize := hok.rdsz_le
  rw [stdin_decode_frame_some hok hnext] at h
  obtain ⟨s1, hsave, h⟩ := Except.bind_eq_ok_iff.mp h
  obtain ⟨last_input, rfl, hlast⟩ := save_last_input_saved hpos (by omega) hsave
  unfold wssk_ws_encode_frame at h
  cases hwssk : s.wssk with
  | none =>
    simp only [hwssk] at h
    cases h
  | some wssk =>
    simp only [hwssk] at h
    obtain ⟨⟨rv', sendbuf, recvbuf, e⟩, hencode, h⟩ := Except.bind_eq_ok_iff.mp h
    cases h
    rw [wssk_ws_encode_data_frame_put (dataLen_next hok hnext)] at hencode
    exact ⟨last_input, recvbuf, _, e, rfl, hlast, put_data_frame_cases hok hle hencode⟩

/-- What a call of the handler leaves. -/
structure StdinRound (s : Stdin) (rv : Int) (s' : Stdin) : Prop where
  taken : rv = -1 ∧ s'.sk = s.sk ∨
    rv = 0 ∧ s'.sk.recvbuf.Ok ∧ skb_rdsz s'.sk.recvbuf < skb_rdsz s.sk.recvbuf
  repeat_last_num : s'.repeat_last_num = s.repeat_last_num
  last_input : s'.last_input = s.last_input ∨ ∃ li, s'.last_input = some li ∧ li.Ok ∧ 0 < skb_rdsz li

theorem stdin_decode_frame_round (hok : s.sk.recvbuf.Ok) (h : stdin_decode_frame s = .ok (rv, s')) :
    StdinRound s rv s' := by
  cases hnext : nextLen s.is_json s.sk.recvbuf.readable with
  | none =>
    rw [stdin_decode_frame_none hok hnext] at h
    cases h
    exact ⟨.inl ⟨rfl, rfl⟩, rfl, .inl rfl⟩
  | some n =>
    obtain ⟨hpos, hle⟩ := nextLen_bounds hnext
    rw [hok.length_readable_eq] at hle
    obtain ⟨last_input, recvbuf, wssk, e, rfl, hlast, ⟨hrv, rfl⟩ | ⟨hrv, hok', hleft⟩⟩ :=
      stdin_decode_frame_buffers hok hnext h
    · exact ⟨.inl ⟨hrv, rfl⟩, rfl, hlast⟩
    · exact ⟨.inr ⟨hrv, hok', by simp only; omega⟩, rfl, hlast⟩

/-- A frame takes what the span of the input covers. -/
theorem stdin_decode_frame_takes (hok : s.sk.recvbuf.Ok) (h : stdin_decode_frame s = .ok (0, s')) :
    ∃ n, nextLen s.is_json s.sk.recvbuf.readable = some n ∧ s'.sk.recvbuf.Ok ∧
      skb_rdsz s'.sk.recvbuf = skb_rdsz s.sk.recvbuf - n := by
  cases hnext : nextLen s.is_json s.sk.recvbuf.readable with
  | none =>
    rw [stdin_decode_frame_none hok hnext] at h
    cases h
  | some n =>
    obtain ⟨last_input, recvbuf, wssk, e, rfl, -, ⟨hrv, -⟩ | ⟨-, hok', hleft⟩⟩ :=
      stdin_decode_frame_buffers hok hnext h
    · cases hrv
    · exact ⟨n, rfl, hok', hleft⟩

theorem stdin_decode_frame_lower (hok : s.sk.recvbuf.Ok) (h : stdin_decode_frame s = .ok (0, s')) :
    s'.sk.recvbuf.Ok ∧ skb_rdsz s'.sk.recvbuf < skb_rdsz s.sk.recvbuf := by
  obtain ⟨hrv, -⟩ | ⟨-, hok', hless⟩ := (stdin_decode_frame_round hok h).taken
  · cases hrv
  · exact ⟨hok', hless⟩

end Stdin

/-- The computation does not end within a loop. -/
structure Finishes {α : Type} (x : Except Fault α) : Prop where
  ne : x ≠ .error .unfinished

namespace Finishes

variable {α β : Type} {x : Except Fault α} {f : α → Except Fault β} {fault : Fault}

theorem ok (a : α) : Finishes (.ok a : Except Fault α) :=
  ⟨fun h => nomatch h⟩

theorem error (h : fault ≠ .unfinished) : Finishes (.error fault : Except Fault α) :=
  ⟨fun h' => h (Except.error.inj h')⟩

theorem bind (hx : Finishes x) (hf : ∀ a, Finishes (f a)) : Finishes (x >>= f) := by
  constructor
  intro h
  obtain h | ⟨a, -, h⟩ := Except.bind_eq_error_iff.mp h
  · exact hx.ne h
  · exact (hf a).ne h

theorem assert (failed : Assertion) (exp : Bool) : Finishes (assert failed exp) := by
  cases exp with
  | true => exact ok ()
  | false => exact error (fun h => nomatch h)

theorem ite {b : Prop} [Decidable b] {x y : Except Fault α} (hx : Finishes x) (hy : Finishes y) :
    Finishes (if b then x else y) := by
  split
  · exact hx
  · exact hy

end Finishes

section Finishes

theorem encode_ping_pong_frame_finishes {dst : Skb} {opcode : UInt8} {do_mask : Bool} {wsd_errno : Errno} :
    Finishes (encode_ping_pong_frame dst opcode do_mask wsd_errno) := by
  obtain h | ⟨dst', h⟩ | h := encode_ping_pong_frame_outcome dst opcode do_mask wsd_errno
  · rw [h]
    exact .ok _
  · rw [h]
    exact .ok _
  · rw [h]
    exact .error (by decide)

theorem encode_close_frame_finishes {dst : Skb} {status : Nat} {do_mask : Bool} {wsd_errno : Errno} :
    Finishes (encode_close_frame dst status do_mask wsd_errno) := by
  obtain h | ⟨dst', h⟩ | h := encode_close_frame_outcome dst status do_mask wsd_errno
  · rw [h]
    exact .ok _
  · rw [h]
    exact .ok _
  · rw [h]
    exact .error (by decide)

theorem encode_frame_finishes (e : Option EncodeFrame) (c : Conn) (wsf : WsFrame) : Finishes (encode_frame e c wsf) := by
  cases e with
  | none => exact .error (by decide)
  | some handler =>
    cases handler with
    | ws_encode_frame =>
      unfold encode_frame ws_encode_frame
      exact .bind (.assert ..) fun _ => .ite (.ok _) (.bind (.assert ..) fun _ => .ok _)
    | pp2_encode_frame =>
      unfold encode_frame pp2_encode_frame
      exact .ite (.ok _) (.ok _)

theorem pong_finishes (p : Option Pong) (sk : Sk) (do_mask : Bool) (wsd_errno : Errno) :
    Finishes (pong p sk do_mask wsd_errno) := by
  cases p with
  | none => exact .error (by decide)
  | some handler => exact .bind (.assert ..) fun _ => .bind encode_ping_pong_frame_finishes fun _ => .ok _

theorem start_closing_handshake_finishes (p : Option StartClosingHandshake) (sk : Sk) (status : Nat) (do_mask : Bool)
    (wsd_errno : Errno) : Finishes (start_closing_handshake p sk status do_mask wsd_errno) := by
  cases p with
  | none => exact .error (by decide)
  | some handler =>
    exact .bind (.assert ..) fun _ => .bind encode_close_frame_finishes fun _ => .ite (.ok _) (.ok _)

theorem ws_finish_closing_handshake_finishes (sk : Sk) (do_mask : Bool) (len : Nat) (wsd_errno : Errno) :
    Finishes (ws_finish_closing_handshake sk do_mask len wsd_errno) :=
  .ite (.ok _) (.bind encode_close_frame_finishes fun _ => .ok _)

theorem ws_decode_frame_finishes (c : Conn) : Finishes (ws_decode_frame c) := by
  unfold ws_decode_frame
  refine .ite (.ok _) (.ite (.ok _) (.ite (.ok _) (.ite (.ok _) (.ite (.ok _) ?_))))
  refine .ite (encode_frame_finishes ..) (.ite ?_ (.ite ?_ (.ite (.ok _) ?_)))
  · exact .bind (ws_finish_closing_handshake_finishes ..) fun _ => .ok _
  · exact .bind (pong_finishes ..) fun _ => .ok _
  · exact .bind (start_closing_handshake_finishes ..) fun _ => .ok _

theorem wssk_ws_decode_frame_finishes (no_handshake : Bool) (w : Wssk) :
    Finishes (wssk_ws_decode_frame no_handshake w) := by
  unfold wssk_ws_decode_frame
  refine .ite (.ok _) (.ite (.ok _) (.ite (.ok _) (.ite (.ok _) (.ite (.ok _) (.bind (.assert ..) fun _ => ?_)))))
  refine .ite (.bind (.assert ..) fun _ => .ok _) (.ite (.ite (.ok _) ?_) (.ite ?_ (.ite (.ok _) (.ok _))))
  · exact .bind (ws_finish_closing_handshake_finishes ..) fun _ => .ok _
  · exact .bind (pong_finishes ..) fun _ => .ok _

theorem hash_for_each_possible_finishes (clients : Nat → Option Sk) (hash : UInt64) (chain : List Nat) :
    Finishes (hash_for_each_possible clients hash chain) := by
  induction chain with
  | nil => exact .ok _
  | cons id chain ih =>
    unfold hash_for_each_possible
    split
    · exact .error (by decide)
    · exact .ite (.ok _) ih

theorem hash_lookup_finishes (clients : Nat → Option Sk) (sk_hash : Nat → List Nat) (hash : UInt64) :
    Finishes (hash_lookup clients sk_hash hash) :=
  .ite (hash_for_each_possible_finishes ..) (.error (by decide))

theorem pp2_decode_frame_finishes (m : Mux) : Finishes (pp2_decode_frame m) := by
  unfold pp2_decode_frame
  refine .ite (.ok _) (.ite (.ok _) (.ite (.ok _) (.ite (.ok _) (.ite (.ok _) (.ite (.ok _) ?_)))))
  refine .bind (hash_lookup_finishes ..) fun found => ?_
  cases found with
  | none => exact .ok _
  | some client => exact .bind (encode_frame_finishes ..) fun _ => .ok _

theorem put_data_frame_finishes (dst src : Skb) (n : Nat) (wsd_errno : Errno) :
    Finishes (put_data_frame dst src n wsd_errno) := by
  unfold put_data_frame
  generalize ws_calculate_frame_length n wsd_errno = calculated
  obtain ⟨frame_len, e⟩ := calculated
  dsimp only
  refine .ite (.ok _) (.ite (.ok _) ?_)
  generalize decide ((ws_set_payload_len _ n (set_mask_bit 0)).1 = 0) = done
  cases done with
  | false => exact .error fun h => nomatch h
  | true => exact .ok _

theorem wssk_ws_encode_frame_finishes (s : Stdin) (wsf : WsFrame) : Finishes (wssk_ws_encode_frame s wsf) := by
  unfold wssk_ws_encode_frame
  cases s.wssk with
  | none => exact .error (by decide)
  | some wssk =>
    simp only
    rw [wssk_ws_encode_data_frame_put rfl]
    exact .bind (put_data_frame_finishes ..) fun _ => .ok _

theorem stdin_decode_frame_finishes (s : Stdin) : Finishes (stdin_decode_frame s) := by
  unfold stdin_decode_frame
  refine .ite (.ok _) ?_
  cases stdin_payload_len s with
  | none => exact .ok _
  | some payload_len =>
    refine .bind ?_ fun s1 => ?_
    · unfold save_last_input
      refine .ite ?_ (.ok _)
      cases s.last_input with
      | none => exact .error (by decide)
      | some last_input => exact .ok _
    · exact wssk_ws_encode_frame_finishes s1 _

theorem decode_frame_finishes (w : World) (id : Nat) : Finishes (decode_frame w id) := by
  refine .bind ?_ fun sk => ?_
  · unfold World.deref
    split
    · exact .error (by decide)
    · exact .ok _
  cases sk.proto.decode_frame with
  | none => exact .error (by decide)
  | some handler =>
    cases handler with
    | ws_decode_frame =>
      refine .bind ?_ fun c => .bind (ws_decode_frame_finishes c) fun _ => .ok _
      unfold World.conn
      split
      · exact .error (by decide)
      · exact .error (by decide)
      · exact .ok _
    | pp2_decode_frame =>
      refine .bind ?_ fun m => .bind (pp2_decode_frame_finishes m) fun _ => .ok _
      unfold World.mux
      split
      · exact .error (by decide)
      · exact .ok _

end Finishes

/-- The bytes which a socket, if it is there, has to read. -/
@[simp] def unreadSize : Option Sk → Nat
  | none => 0
  | some sk => skb_rdsz sk.recvbuf

section Loops

variable {w : World} {id : Nat} {sk : Sk}

theorem decode_loop_eq (id fuel n : Nat) (w : World) :
    decode_loop id fuel n w = Rounds.countZero .unfinished (fun w => decode_frame w id) fuel n w := by
  induction fuel generalizing n w with
  | zero => rfl
  | succ fuel ih => simp only [decode_loop, Rounds.countZero, ih]

theorem wssk_decode_loop_eq (no_handshake : Bool) (fuel n : Nat) (w : Wssk) :
    wssk_decode_loop no_handshake fuel n w =
      Rounds.countZero .unfinished (wssk_ws_decode_frame no_handshake) fuel n w := by
  induction fuel generalizing n w with
  | zero => rfl
  | succ fuel ih => simp only [wssk_decode_loop, Rounds.countZero, ih]

theorem stdin_decode_loop_eq (fuel n : Nat) (s : Stdin) :
    stdin_decode_loop fuel n s = Rounds.countZero .unfinished stdin_decode_frame fuel n s := by
  induction fuel generalizing n s with
  | zero => rfl
  | succ fuel ih => simp only [stdin_decode_loop, Rounds.countZero, ih]

/-- A client which frames are read from. -/
def ReadsFrames (id : Nat) (w : World) : Prop :=
  w.Wf ∧ ∃ sk, w.clients id = some sk ∧ Upgraded sk ∧ sk.recvbuf.Ok

/-- The backend's socket, which frames are read from. -/
def ReadsBackend (id : Nat) (w : World) : Prop :=
  w.Wf ∧ ∃ sk, w.pp2sk = some (id, sk) ∧ sk.recvbuf.Ok

theorem ReadsFrames.lower {w' : World} (h : ReadsFrames id w) (hframe : decode_frame w id = .ok (0, w')) :
    ReadsFrames id w' ∧ unreadSize (w'.clients id) < unreadSize (w.clients id) := by
  obtain ⟨hwf, sk, hclient, hup, hok⟩ := h
  obtain ⟨hwf', sk', hclient', hup', -⟩ := decode_frame_client hwf hclient hup hframe
  obtain ⟨p, pp2sk, c', -, hdecode, rfl⟩ := World.decode_frame_ws hwf hclient hup hframe
  have hsame : c'.sk = sk' := by simpa [World.setConn] using hclient'
  subst hsame
  obtain ⟨hok', hless⟩ := @ws_decode_frame_lower { sk, pp2sk, wsd_errno := w.wsd_errno } c' hok hdecode
  refine ⟨⟨hwf', c'.sk, hclient', hup', hok'⟩, ?_⟩
  rw [hclient, hclient', unreadSize, unreadSize]
  exact hless

theorem ReadsBackend.lower {w' : World} (h : ReadsBackend id w) (hframe : decode_frame w id = .ok (0, w')) :
    ReadsBackend id w' ∧ unreadSize (w'.pp2sk.map (·.2)) < unreadSize (w.pp2sk.map (·.2)) := by
  obtain ⟨hwf, sk, hpp, hok⟩ := h
  obtain ⟨hwf', sk', hpp', hok', -⟩ := decode_frame_backend hwf hpp hok hframe
  obtain ⟨m', hdecode, rfl⟩ := World.decode_frame_pp2 hpp (hwf.backend id sk hpp).1 hframe
  have hsame : m'.pp2sk = sk' := by simpa [World.setMux, hpp] using hpp'
  subst hsame
  obtain ⟨-, hless⟩ := @pp2_decode_frame_lower
    { clients := w.clients, sk_hash := w.sk_hash, pp2sk := sk, wsd_errno := w.wsd_errno } m' hok hdecode
  refine ⟨⟨hwf', m'.pp2sk, hpp', hok'⟩, ?_⟩
  rw [hpp, hpp', Option.map_some, Option.map_some, unreadSize, unreadSize]
  exact hless

theorem decode_loop_ends_client (h : ReadsFrames id w) :
    Rounds.Ends .unfinished (fun fuel => decode_loop id fuel 0 w) (unreadSize (w.clients id)) := by
  intro fuel hfuel
  have hends := @Rounds.countZero_ends _ _ .unfinished (fun w => decode_frame w id) (ReadsFrames id)
    (fun w => unreadSize (w.clients id)) w (fun w _ => (decode_frame_finishes w id).ne) (fun _ _ h => h.lower) fuel 0 h hfuel
  simpa only [decode_loop_eq, Nat.zero_add] using hends

theorem decode_loop_ends_backend (h : ReadsBackend id w) :
    Rounds.Ends .unfinished (fun fuel => decode_loop id fuel 0 w) (unreadSize (w.pp2sk.map (·.2))) := by
  intro fuel hfuel
  have hends := @Rounds.countZero_ends _ _ .unfinished (fun w => decode_frame w id) (ReadsBackend id)
    (fun w => unreadSize (w.pp2sk.map (·.2))) w (fun w _ => (decode_frame_finishes w id).ne) (fun _ _ h => h.lower) fuel 0
    h hfuel
  simpa only [decode_loop_eq, Nat.zero_add] using hends

theorem wssk_decode_loop_ends {w : Wssk} (no_handshake : Bool) (hok : w.sk.recvbuf.Ok) :
    Rounds.Ends .unfinished (fun fuel => wssk_decode_loop no_handshake fuel 0 w) (skb_rdsz w.sk.recvbuf) := by
  intro fuel hfuel
  have hends := @Rounds.countZero_ends _ _ .unfinished (wssk_ws_decode_frame no_handshake) (fun w => w.sk.recvbuf.Ok)
    (fun w => skb_rdsz w.sk.recvbuf) w (fun w _ => (wssk_ws_decode_frame_finishes no_handshake w).ne)
    (fun _ _ h hframe => wssk_ws_decode_frame_lower h hframe) fuel 0 hok hfuel
  simpa only [wssk_decode_loop_eq, Nat.zero_add] using hends

theorem stdin_decode_loop_ends {s : Stdin} (hok : s.sk.recvbuf.Ok) :
    Rounds.Ends .unfinished (fun fuel => stdin_decode_loop fuel 0 s) (skb_rdsz s.sk.recvbuf) := by
  intro fuel hfuel
  have hends := @Rounds.countZero_ends _ _ .unfinished stdin_decode_frame (fun s => s.sk.recvbuf.Ok)
    (fun s => skb_rdsz s.sk.recvbuf) s (fun s _ => (stdin_decode_frame_finishes s).ne)
    (fun _ _ h hframe => stdin_decode_frame_lower h hframe) fuel 0 hok hfuel
  simpa only [stdin_decode_loop_eq, Nat.zero_add] using hends

end Loops

section Repeat

/-- Some input is kept for repeating. -/
def Repeats (s : Stdin) : Prop :=
  ∃ li, s.last_input = some li ∧ li.Ok ∧ 0 < skb_rdsz li

/-- The rounds which are left: each one sends a frame, or fills the receive buffer further. -/
def roundsLeft (s : Stdin) : Nat :=
  s.repeat_last_num.toNat * (SKB_SIZE + 1) + skb_wrsz s.sk.recvbuf

theorem StdinRound.repeats {s s' : Stdin} {rv : Int} (h : StdinRound s rv s') (hrepeats : Repeats s) : Repeats s' := by
  obtain hsame | hnew := h.last_input
  · unfold Repeats
    rwa [hsame]
  · exact hnew

theorem repeat_loop_finishes {fuel : Nat} {s : Stdin} (hok : s.sk.recvbuf.Ok) (hrepeats : Repeats s)
    (hnum : 0 ≤ s.repeat_last_num) (hfuel : roundsLeft s < fuel) : Finishes (repeat_loop fuel s) := by
  induction fuel generalizing s with
  | zero => omega
  | succ fuel ih =>
    unfold repeat_loop
    by_cases hzero : s.repeat_last_num = 0
    · rw [if_pos hzero]
      exact .ok _
    rw [if_neg hzero]
    obtain ⟨li, hlast, hli, hpos⟩ := hrepeats
    rw [hlast]
    simp only
    by_cases hfull : skb_wrsz s.sk.recvbuf < skb_rdsz li
    · rw [if_pos hfull]
      exact .ok _
    rw [if_neg hfull]
    have hroom : (li.data.window li.rdpos (skb_rdsz li)).length ≤ skb_wrsz s.sk.recvbuf := by
      rw [Memory.length_window]
      omega
    have hok1 := hok.put hroom
    have hwrsz1 := hok.wrsz_put hroom
    rw [Memory.length_window] at hwrsz1
    generalize skb_put s.sk.recvbuf (li.data.window li.rdpos (skb_rdsz li)) = recvbuf at hok1 hwrsz1 ⊢
    cases hcall : stdin_decode_frame { s with sk := { s.sk with recvbuf }, last_input := some li } with
    | error fault =>
      refine .error fun heq => ?_
      rw [heq] at hcall
      exact (stdin_decode_frame_finishes _).ne hcall
    | ok r =>
      obtain ⟨rv, s1⟩ := r
      rw [Except.ok_bind]
      have hround := stdin_decode_frame_round (by exact hok1) hcall
      have hrepeats1 := hround.repeats ⟨li, rfl, hli, hpos⟩
      have hnum1 : s1.repeat_last_num = s.repeat_last_num := hround.repeat_last_num
      unfold roundsLeft at hfuel ih
      obtain ⟨hrv, hsk⟩ | ⟨hrv, hok2, -⟩ := hround.taken
      · subst hrv
        have hbuf : s1.sk.recvbuf = recvbuf := by rw [hsk]
        simp only [show ¬ (-1 : Int) = 0 by decide, if_false, show (-1 : Int) < 0 by decide, true_and]
        by_cases hagain : s1.wsd_errno = .WSD_EAGAIN
        · -- The frame waits, and the next copy of the input goes behind it.
          simp only [hagain, ne_eq, not_true_eq_false, if_false]
          apply ih (hbuf ▸ hok1) hrepeats1 (hnum1 ▸ hnum)
          rw [hnum1, hbuf]
          omega
        · simp only [hagain, ne_eq, not_false_eq_true, if_true]
          refine ih (by exact hbuf ▸ hok1) hrepeats1 (Int.le_refl _) ?_
          simp only [hbuf, Int.toNat_zero]
          omega
      · subst hrv
        simp only [if_true, show ¬ (0 : Int) < 0 by decide, false_and, if_false]
        refine ih hok2 hrepeats1 (by simp only; omega) ?_
        have hwrsz2 := hok2.wrsz_eq
        have hless : (s1.repeat_last_num - 1).toNat + 1 = s.repeat_last_num.toNat := by omega
        rw [← hless, Nat.succ_mul] at hfuel
        simp only
        omega

theorem repeat_last_finishes (opt : Options) {c : Wscat} (hlast : ∀ li, c.last_input = some li → li.Ok)
    (hnum : 0 ≤ c.repeat_last_num) : Finishes (repeat_last opt c) := by
  unfold repeat_last
  cases hli : c.last_input with
  | none => exact .error (by decide)
  | some li =>
    by_cases hzero : skb_rdsz li = 0
    · simp only [if_pos hzero]
      exact .ok _
    simp only [if_neg hzero]
    refine .bind (repeat_loop_finishes Skb.ok_zero ⟨li, hli, hlast li hli, by omega⟩ hnum ?_) fun _ => .ok _
    unfold roundsLeft repeat_fuel
    have hempty : skb_wrsz (c.stdin opt (sk_init (-1) 0)).sk.recvbuf = SKB_SIZE := Skb.wrsz_zero
    rw [hempty]
    exact Nat.lt_succ_of_lt (Nat.lt_succ_self _)

end Repeat

/-- Every decoder which handled a frame has taken at least its header from the receive buffer, so that
    the receive loops end with the bytes that are there, and so does the loop of `repeat_last`. -/
theorem receive_loops_end :
    (∀ c c' : Conn, c.sk.recvbuf.Ok → ws_decode_frame c = .ok (0, c') →
      skb_rdsz c'.sk.recvbuf < skb_rdsz c.sk.recvbuf) ∧
    (∀ (no_handshake : Bool) (w w' : Wssk), w.sk.recvbuf.Ok → wssk_ws_decode_frame no_handshake w = .ok (0, w') →
      skb_rdsz w'.sk.recvbuf < skb_rdsz w.sk.recvbuf) ∧
    (∀ s s' : Stdin, s.sk.recvbuf.Ok → stdin_decode_frame s = .ok (0, s') →
      skb_rdsz s'.sk.recvbuf < skb_rdsz s.sk.recvbuf) ∧
    (∀ m m' : Mux, m.pp2sk.recvbuf.Ok → pp2_decode_frame m = .ok (0, m') →
      skb_rdsz m'.pp2sk.recvbuf < skb_rdsz m.pp2sk.recvbuf) ∧
    (∀ (id : Nat) (w : World), ReadsFrames id w →
      Rounds.Ends .unfinished (fun fuel => decode_loop id fuel 0 w) (unreadSize (w.clients id))) ∧
    (∀ (id : Nat) (w : World), ReadsBackend id w →
      Rounds.Ends .unfinished (fun fuel => decode_loop id fuel 0 w) (unreadSize (w.pp2sk.map (·.2)))) ∧
    (∀ (no_handshake : Bool) (w : Wssk), w.sk.recvbuf.Ok →
      Rounds.Ends .unfinished (fun fuel => wssk_decode_loop no_handshake fuel 0 w) (skb_rdsz w.sk.recvbuf)) ∧
    (∀ s : Stdin, s.sk.recvbuf.Ok →
      Rounds.Ends .unfinished (fun fuel => stdin_decode_loop fuel 0 s) (skb_rdsz s.sk.recvbuf)) ∧
    (∀ (opt : Options) (c : Wscat), (∀ li, c.last_input = some li → li.Ok) → 0 ≤ c.repeat_last_num →
      repeat_last opt c ≠ .error .unfinished) := by
  refine ⟨fun c c' hok h => (ws_decode_frame_lower hok h).2, fun nh w w' hok h => (wssk_ws_decode_frame_lower hok h).2,
    fun s s' hok h => (stdin_decode_frame_lower hok h).2, fun m m' hok h => (pp2_decode_frame_lower hok h).2, ?_⟩
  exact ⟨fun id w => decode_loop_ends_client, fun id w => decode_loop_ends_backend,
    fun nh w hok => wssk_decode_loop_ends nh hok, fun s hok => stdin_decode_loop_ends hok,
    fun opt c hlast hnum => (repeat_last_finishes opt hlast hnum).ne⟩

namespace Sample

/-- Input which has been sent once and is to be sent five times more. -/
def repeating : Wscat :=
  { Wscat.init (options false false (-1) (-1) 5) 3 (ascii "GET") false with last_input := some (Skb.ofBytes (ascii "hi")) }

/-- Two masked frames of two characters, and the first byte of another. -/
def masked_frames : List UInt8 :=
  [0x81, 0x82, 0, 0, 0, 0, 104, 105, 0x81, 0x82, 0, 0, 0, 0, 104, 111, 0x81]

/-- The same frames without a mask. -/
def unmasked_frames : List UInt8 :=
  [0x81, 2, 104, 105, 0x81, 2, 104, 111, 0x81]

end Sample

/-- The first of two frames, the loops of wsd and of wscat over several frames, and the repeated input. -/
theorem receive_loops_end_repeating :
    (∃ c', ws_decode_frame (Sample.upgraded Sample.masked_frames) = .ok (0, c') ∧
      skb_rdsz c'.sk.recvbuf < skb_rdsz (Sample.upgraded Sample.masked_frames).sk.recvbuf) ∧
    Rounds.Ends .unfinished (fun fuel => decode_loop 0 fuel 0 Sample.full_world)
      (unreadSize (Sample.full_world.clients 0)) ∧
    Rounds.Ends .unfinished (fun fuel => wssk_decode_loop false fuel 0 (Sample.wssk_with Sample.unmasked_frames))
      (skb_rdsz (Sample.wssk_with Sample.unmasked_frames).sk.recvbuf) ∧
    repeat_last (options false false (-1) (-1) 5) Sample.repeating ≠ .error .unfinished := by
  obtain ⟨hws, -, -, -, hclient, -, hwssk, -, hrepeat⟩ := receive_loops_end
  obtain ⟨c', hframe⟩ := Except.exists_ok_fst (a := 0) (x := ws_decode_frame (Sample.upgraded Sample.masked_frames))
    (by decide +kernel)
  refine ⟨⟨c', hframe, hws _ _ (Skb.ok_ofBytes (by decide)) hframe⟩, hclient 0 _ ?_,
    hwssk false _ (Skb.ok_ofBytes (by decide)), hrepeat _ _ (fun li hli => ?_) (by decide)⟩
  · exact ⟨Sample.full_world_wf, _, rfl, ⟨rfl, rfl, rfl, rfl, rfl⟩,
      Skb.ok_ofBytes (Nat.le_of_eq Sample.length_fill)⟩
  · have hlast : Sample.repeating.last_input = some (Skb.ofBytes (ascii "hi")) := rfl
    rw [hlast, Option.some.injEq] at hli
    rw [← hli]
    exact Skb.ok_ofBytes (by decide)

end wsd

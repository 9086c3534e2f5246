import Wsd.Wscat.Input

namespace wsd

/-- The closing of a socket has begun. -/
def Begun (sk : Sk) : Prop :=
  sk.closing = true ∨ sk.close = true ∨ sk.close_on_write = true

instance (sk : Sk) : Decidable (Begun sk) :=
  inferInstanceAs (Decidable (_ ∨ _ ∨ _))

def NoClose (f : Frame × UInt32) : Prop :=
  f.1.opcode ≠ WS_CLOSE_FRAME

/-- Frames which were put into a socket's send buffer end with the close frame, with which
    its closing begins, and none is put after that. -/
structure Ordered (sk : Sk) (frames : List (Frame × UInt32)) (sk' : Sk) : Prop where
  begun : Begun sk → frames = [] ∧ Begun sk'
  last : frames.Pairwise fun f _ => NoClose f
  open_ : ¬ Begun sk' → ∀ f ∈ frames, NoClose f

namespace Ordered

variable {sk sk1 sk2 : Sk} {fs gs : List (Frame × UInt32)}

theorem of_flags (hclosing : sk1.closing = sk.closing) (hclose : sk1.close = sk.close)
    (hwrite : sk1.close_on_write = sk.close_on_write) : Ordered sk [] sk1 := by
  refine ⟨fun hbegun => ⟨rfl, ?_⟩, List.Pairwise.nil, by simp⟩
  rwa [Begun, hclosing, hclose, hwrite]

theorem append_last (hfs : ∀ f ∈ fs, NoClose f) (hgs : gs.Pairwise fun f _ => NoClose f) :
    (fs ++ gs).Pairwise fun f _ => NoClose f := by
  rw [List.pairwise_append]
  refine ⟨?_, hgs, fun f hf _ _ => hfs f hf⟩
  exact List.pairwise_of_forall_mem_list fun f hf _ _ => hfs f hf

theorem trans (h : Ordered sk fs sk1) (h' : Ordered sk1 gs sk2) : Ordered sk (fs ++ gs) sk2 := by
  refine ⟨fun hbegun => ?_, ?_, fun hopen => ?_⟩
  · obtain ⟨rfl, hbegun1⟩ := h.begun hbegun
    exact h'.begun hbegun1
  · by_cases hbegun1 : Begun sk1
    · obtain ⟨rfl, -⟩ := h'.begun hbegun1
      rw [List.append_nil]
      exact h.last
    · exact append_last (h.open_ hbegun1) h'.last
  · have hopen1 : ¬ Begun sk1 := fun hbegun1 => hopen (h'.begun hbegun1).2
    rw [List.forall_mem_append]
    exact ⟨h.open_ hopen1, h'.open_ hopen⟩

/-- A frame may be put before the closing has begun. -/
theorem single {f : Frame × UInt32} (hopen : ¬ Begun sk) (hf : ¬ NoClose f → Begun sk1) : Ordered sk [f] sk1 := by
  refine ⟨fun hbegun => absurd hbegun hopen, List.pairwise_singleton _ f, fun hopen1 => ?_⟩
  rw [List.forall_mem_singleton]
  exact Classical.byContradiction fun hclose => hopen1 (hf hclose)

end Ordered

/-- Control frames have been put into the websocket's send buffer in this order. -/
structure Speaks (sk : Sk) (frames : List (Frame × UInt32)) (sk' : Sk) : Prop where
  puts : Puts sk frames sk'
  order : Ordered sk frames sk'
  control : sentData frames = []

namespace Speaks

variable {sk sk1 sk2 : Sk} {fs gs : List (Frame × UInt32)}

theorem quiet (hsend : sk1.sendbuf = sk.sendbuf) (hclosing : sk1.closing = sk.closing) (hclose : sk1.close = sk.close)
    (hwrite : sk1.close_on_write = sk.close_on_write) : Speaks sk [] sk1 :=
  ⟨.of_eq hsend, .of_flags hclosing hclose hwrite, rfl⟩

theorem trans (h : Speaks sk fs sk1) (h' : Speaks sk1 gs sk2) : Speaks sk (fs ++ gs) sk2 :=
  ⟨h.puts.trans h'.puts, h.order.trans h'.order, by rw [sentData_append, h.control, h'.control]; rfl⟩

theorem single {bytes : List UInt8} {f : Frame} {key : UInt32} (hf : f.masked key = bytes) (hdata : ¬ IsData f.opcode)
    (happended : sk.sendbuf.Ok → sk.sendbuf.Appended bytes sk1.sendbuf) (hopen : ¬ Begun sk)
    (hclose : f.opcode = WS_CLOSE_FRAME → Begun sk1) : Speaks sk [(f, key)] sk1 := by
  refine ⟨.of_appended hf happended, .single hopen fun hf => hclose (Classical.byContradiction hf), ?_⟩
  simp [sentData, payloads, hdata]

end Speaks

/-- What the handlers of a ping or pong put. -/
theorem put_ping_pong_speaks {closing : Assertion} {opcode : UInt8} {sk sk' : Sk} {rv : Int} {wsd_errno errno' : Errno}
    {f : Frame} (hf : f.masked 0xcafebabe = pingPongFrame opcode true) (hdata : ¬ IsData f.opcode)
    (hopcode : f.opcode ≠ WS_CLOSE_FRAME) (hopen : ¬ Begun sk)
    (h : put_ping_pong closing opcode sk true wsd_errno = .ok (rv, sk', errno')) :
    (∃ frames, Speaks sk frames sk') ∧ sk'.closing = sk.closing ∧ sk'.close = sk.close ∧
      sk'.close_on_write = sk.close_on_write ∧ sk'.recvbuf = sk.recvbuf ∧ sk'.proto = sk.proto := by
  obtain ⟨-, ⟨-, -, sendbuf, rfl, happended⟩ | ⟨-, -, rfl⟩⟩ := put_ping_pong_inv h
  · exact ⟨⟨_, .single hf hdata happended hopen fun hclose => absurd hclose hopcode⟩, rfl, rfl, rfl, rfl, rfl⟩
  · exact ⟨⟨[], .quiet rfl rfl rfl rfl⟩, rfl, rfl, rfl, rfl, rfl⟩

theorem ws_ping_speaks {sk sk' : Sk} {rv : Int} {wsd_errno errno' : Errno} (hopen : ¬ Begun sk)
    (h : ws_ping sk true wsd_errno = .ok (rv, sk', errno')) :
    (∃ frames, Speaks sk frames sk') ∧ sk'.closing = sk.closing ∧ sk'.close = sk.close ∧
      sk'.close_on_write = sk.close_on_write ∧ sk'.recvbuf = sk.recvbuf ∧ sk'.proto = sk.proto := by
  obtain ⟨f, hf, hopcode⟩ := pingFrame_masked
  exact put_ping_pong_speaks hf (by rw [hopcode]; decide) (by rw [hopcode]; decide) hopen h

theorem ws_pong_speaks {sk sk' : Sk} {rv : Int} {wsd_errno errno' : Errno} (hopen : ¬ Begun sk)
    (h : ws_pong sk true wsd_errno = .ok (rv, sk', errno')) :
    (∃ frames, Speaks sk frames sk') ∧ sk'.closing = sk.closing ∧ sk'.close = sk.close ∧
      sk'.close_on_write = sk.close_on_write ∧ sk'.recvbuf = sk.recvbuf ∧ sk'.proto = sk.proto := by
  obtain ⟨f, hf, hopcode⟩ := pongFrame_masked
  exact put_ping_pong_speaks hf (by rw [hopcode]; decide) (by rw [hopcode]; decide) hopen h

/-- What `start_closing_handshake` puts. -/
theorem start_closing_handshake_speaks {fn : Option StartClosingHandshake} {sk sk' : Sk} {status : Nat} {rv : Int}
    {wsd_errno errno' : Errno} (hopen : ¬ Begun sk)
    (h : start_closing_handshake fn sk status true wsd_errno = .ok (rv, sk', errno')) :
    (∃ frames, Speaks sk frames sk') ∧ sk'.close = sk.close ∧ (sk'.close_on_write = sk.close_on_write) ∧
      sk'.proto = sk.proto := by
  cases fn with
  | none => cases h
  | some fn =>
    cases fn
    obtain ⟨f, -, hf, hopcode⟩ := closeFrame_masked status
    obtain ⟨-, ⟨-, -, sendbuf, rfl, happended⟩ | ⟨-, -, rfl⟩⟩ := ws_start_closing_handshake_inv h
    · refine ⟨⟨_, .single hf (by rw [hopcode]; decide) happended hopen fun _ => .inl rfl⟩, rfl, rfl, rfl⟩
    · exact ⟨⟨[], .quiet rfl rfl rfl rfl⟩, rfl, rfl, rfl⟩

/-- A socket in the receive loop either has no flag set, or waits for the other side's
    close frame, or has received it. -/
def Receiving (sk : Sk) : Prop :=
  sk.closing = true ∨ (sk.close = false ∧ sk.close_on_write = false) ∨
    (sk.close = true ∧ skb_rdsz sk.recvbuf = 0)

section Recv

variable {no_handshake : Bool} {w w' : Wssk} {rv : Int}

/-- The answer to a ping, which is asserted to come before the closing. -/
theorem pong_speaks {fn : Option Pong} {sk sk' : Sk} {wsd_errno errno' : Errno}
    (hactive : sk.closing = true ∨ (sk.close = false ∧ sk.close_on_write = false))
    (h : pong fn sk true wsd_errno = .ok (rv, sk', errno')) :
    (∃ frames, Speaks sk frames sk') ∧ sk'.closing = sk.closing ∧ sk'.close = sk.close ∧
      sk'.close_on_write = sk.close_on_write := by
  cases fn with
  | none => cases h
  | some fn =>
    cases fn
    have hclosing : sk.closing = false := (put_ping_pong_inv h).1
    have hopen : ¬ Begun sk := by
      obtain hbegun | ⟨hclose, hwrite⟩ := hactive
      · rw [hclosing] at hbegun
        cases hbegun
      · simp [Begun, hclosing, hclose, hwrite]
    obtain ⟨hspeaks, hclosing', hclose', hwrite', -, -⟩ := ws_pong_speaks hopen h
    exact ⟨hspeaks, hclosing', hclose', hwrite'⟩

/-- What a frame makes the websocket say. -/
theorem wssk_ws_decode_opcode_speaks {byte1 : UInt8} {len : Nat}
    (hactive : w.sk.closing = true ∨ (w.sk.close = false ∧ w.sk.close_on_write = false))
    (h : wssk_ws_decode_opcode no_handshake w byte1 len = .ok (rv, w')) :
    Receiving w'.sk ∧ ∃ frames, Speaks w.sk frames w'.sk := by
  have hkept {recvbuf : Skb} {stdout : Stream} {wsd_errno : Errno}
      (hw : w' = { w.setRecvbuf recvbuf with stdout, wsd_errno }) :
      Receiving w'.sk ∧ ∃ frames, Speaks w.sk frames w'.sk := by
    subst hw
    exact ⟨hactive.imp id .inl, [], .quiet rfl rfl rfl rfl⟩
  unfold wssk_ws_decode_opcode at h
  by_cases hdata : IsData (OPCODE byte1)
  · rw [if_pos hdata] at h
    generalize skb_print w.stdout w.sk.recvbuf len w.wsd_errno = printed at h
    obtain ⟨rv1, stdout, recvbuf, e⟩ := printed
    obtain ⟨_, -, hret⟩ := Except.bind_eq_ok_iff.mp h
    cases hret
    exact hkept rfl
  rw [if_neg hdata] at h
  by_cases hclose : OPCODE byte1 = WS_CLOSE_FRAME
  · rw [if_pos hclose] at h
    cases no_handshake with
    | true =>
      cases h
      exact @hkept _ w.stdout w.wsd_errno rfl
    | false =>
      obtain ⟨⟨rv1, sk, e⟩, hfinish, hret⟩ := Except.bind_eq_ok_iff.mp h
      cases hret
      obtain ⟨recvbuf, ⟨-, -, hclosing, rfl⟩ | ⟨-, -, hclosing, status, sendbuf, happended, rfl⟩ | ⟨-, -, -, rfl⟩⟩ :=
        ws_finish_closing_handshake_inv hfinish
      · refine ⟨.inr (.inr ⟨rfl, Skb.rdsz_reset recvbuf⟩), [], .of_eq rfl, ⟨fun _ => ⟨rfl, .inr (.inl rfl)⟩, .nil, ?_⟩, rfl⟩
        simp
      · obtain ⟨f, -, hf, hopcode⟩ := closeFrame_masked status
        have hopen : ¬ Begun w.sk := by
          obtain hbegun | ⟨hclose, hwrite⟩ := hactive
          · rw [hclosing] at hbegun
            cases hbegun
          · simp [Begun, hclosing, hclose, hwrite]
        exact ⟨.inl rfl, _, .single hf (by rw [hopcode]; decide) happended hopen fun _ => .inl rfl⟩
      · exact ⟨hactive.imp id .inl, [], .quiet rfl rfl rfl rfl⟩
  rw [if_neg hclose] at h
  by_cases hping : OPCODE byte1 = WS_PING_FRAME
  · rw [if_pos hping] at h
    obtain ⟨⟨rv1, sk, e⟩, hpong, hret⟩ := Except.bind_eq_ok_iff.mp h
    cases hret
    have hquiet : Speaks w.sk [] (w.setRecvbuf (skb_compact w.sk.recvbuf)).sk := .quiet rfl rfl rfl rfl
    have hactive' : (w.setRecvbuf (skb_compact w.sk.recvbuf)).sk.closing = true ∨
        ((w.setRecvbuf (skb_compact w.sk.recvbuf)).sk.close = false ∧
          (w.setRecvbuf (skb_compact w.sk.recvbuf)).sk.close_on_write = false) := hactive
    obtain ⟨⟨frames, hspeaks⟩, hclosing, hclose, hwrite⟩ := pong_speaks hactive' hpong
    refine ⟨?_, _, hquiet.trans hspeaks⟩
    simp only [Receiving, hclosing, hclose, hwrite]
    exact hactive'.imp id .inl
  rw [if_neg hping] at h
  by_cases hpong : OPCODE byte1 = WS_PONG_FRAME
  · rw [if_pos hpong] at h
    cases h
    exact hkept rfl
  · rw [if_neg hpong] at h
    cases h
    exact ⟨hactive.imp id .inl, [], .quiet rfl rfl rfl rfl⟩

/-- A call of the decoder says what a frame makes it say, or nothing. -/
theorem wssk_ws_decode_frame_speaks (hrecv : Receiving w.sk)
    (h : wssk_ws_decode_frame no_handshake w = .ok (rv, w')) :
    Receiving w'.sk ∧ ∃ frames, Speaks w.sk frames w'.sk := by
  unfold wssk_ws_decode_frame at h
  by_cases hshort : skb_rdsz w.sk.recvbuf < WS_UNMASKED_FRAME_LEN
  · rw [if_pos hshort] at h
    cases h
    exact ⟨hrecv, [], .quiet rfl rfl rfl rfl⟩
  rw [if_neg hshort] at h
  have hactive : w.sk.closing = true ∨ (w.sk.close = false ∧ w.sk.close_on_write = false) := by
    obtain hclosing | hopen | ⟨-, hempty⟩ := hrecv
    · exact .inl hclosing
    · exact .inr hopen
    · exact absurd (by rw [hempty]; decide) hshort
  have hkept {recvbuf : Skb} {wsd_errno : Errno} (hw : w' = { w.setRecvbuf recvbuf with wsd_errno }) :
      Receiving w'.sk ∧ ∃ frames, Speaks w.sk frames w'.sk := by
    subst hw
    exact ⟨hactive.imp id .inl, [], .quiet rfl rfl rfl rfl⟩
  generalize skb_get_char w.sk.recvbuf = first at h
  obtain ⟨byte1, b1⟩ := first
  simp only at h
  generalize skb_get_char b1 = second at h
  obtain ⟨byte2, b2⟩ := second
  simp only at h
  split at h
  · cases h
    exact hkept rfl
  generalize ws_decode_payload_len b2 byte2 w.wsd_errno = decoded at h
  obtain ⟨len, b3, e⟩ := decoded
  simp only at h
  split at h
  · cases h
    exact hkept rfl
  split at h
  · cases h
    exact hkept rfl
  split at h
  · cases h
    exact hkept rfl
  obtain ⟨_, -, h⟩ := Except.bind_eq_ok_iff.mp h
  have hquiet : Speaks w.sk [] (w.setRecvbuf b3).sk := .quiet rfl rfl rfl rfl
  have hopcode := @wssk_ws_decode_opcode_speaks no_handshake { w.setRecvbuf b3 with wsd_errno := e } w' rv _ _ hactive h
  obtain ⟨hrecv', frames, hspeaks⟩ := hopcode
  exact ⟨hrecv', _, hquiet.trans hspeaks⟩

theorem wssk_decode_loop_speaks {fuel frames frames' : Nat} (hrecv : Receiving w.sk)
    (h : wssk_decode_loop no_handshake fuel frames w = .ok (rv, frames', w')) :
    Receiving w'.sk ∧ ∃ said, Speaks w.sk said w'.sk := by
  induction fuel generalizing frames w with
  | zero => cases h
  | succ fuel ih =>
    obtain ⟨⟨rv1, w1⟩, hframe, h⟩ := Except.bind_eq_ok_iff.mp h
    obtain ⟨hrecv1, said, hspeaks⟩ := wssk_ws_decode_frame_speaks hrecv hframe
    by_cases hrv : rv1 = 0
    · simp only [if_pos hrv] at h
      obtain ⟨hrecv', said', hspeaks'⟩ := ih hrecv1 h
      exact ⟨hrecv', _, hspeaks.trans hspeaks'⟩
    · simp only [if_neg hrv] at h
      cases h
      exact ⟨hrecv1, said, hspeaks⟩

/-- The end of the websocket's receive loop changes its events only. -/
theorem wssk_ws_recv_leave_same (frames : Nat) (sk : Sk) :
    ∃ events, wssk_ws_recv_leave frames sk = { sk with events } := by
  unfold wssk_ws_recv_leave
  simp only
  split <;> split <;> split <;> exact ⟨_, rfl⟩

theorem wssk_ws_recv_speaks (hclose : w.sk.close = false) (hwrite : w.sk.close_on_write = false)
    (h : wssk_ws_recv no_handshake w = .ok (rv, w')) : Receiving w'.sk ∧ ∃ said, Speaks w.sk said w'.sk := by
  obtain ⟨_, -, h⟩ := Except.bind_eq_ok_iff.mp h
  obtain ⟨⟨rv1, frames, w1⟩, hloop, hret⟩ := Except.bind_eq_ok_iff.mp h
  obtain ⟨hrecv, said, hspeaks⟩ := wssk_decode_loop_speaks (.inr (.inl ⟨hclose, hwrite⟩)) hloop
  cases hret
  obtain ⟨events, hleave⟩ := wssk_ws_recv_leave_same frames w1.sk
  rw [hleave]
  have hsame : Speaks w1.sk [] { w1.sk with events } := .quiet rfl rfl rfl rfl
  exact ⟨hrecv, _, hspeaks.trans hsame⟩

end Recv

end wsd

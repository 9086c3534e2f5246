import Wsd.Common.Sk
import Wsd.Wscat.Recv

namespace wsd

/-- The bytes printed for a sequence of frames. -/
def payloads (frames : List Frame) : List UInt8 :=
  frames.flatMap Frame.payload

/-- The state of the websocket socket between two reads after the handshake. -/
structure Wssk.Ready (w : Wssk) : Prop where
  fd : 0 ≤ w.sk.fd
  close : w.sk.close = false
  close_on_write : w.sk.close_on_write = false
  flush : w.stdout.broken = false
  recvbuf : w.sk.recvbuf.Ok
  rdpos : w.sk.recvbuf.rdpos = 0

/-- A data frame which fits the receive buffer. -/
def Frame.Fitting (f : Frame) : Prop :=
  IsData f.opcode ∧ f.unmasked.length ≤ SKB_SIZE

instance (f : Frame) : Decidable f.Fitting :=
  inferInstanceAs (Decidable (_ ∧ _))

section Prefix

variable {no_handshake : Bool} {w : Wssk} {f : Frame} {more : List UInt8}

/-- A proper part of a frame ends inside its extended length, or it does not; the
    decoder classifies the first kind as bad and the second as incomplete. -/
theorem wssk_ws_decode_frame_cut (hok : w.sk.recvbuf.Ok) (hf : f.unmasked.length ≤ SKB_SIZE)
    (hread : w.sk.recvbuf.readable ++ more = f.unmasked) (hmore : more ≠ []) :
    LenCut w.sk.recvbuf.readable ∧
        wssk_ws_decode_frame no_handshake w = .ok (-1, { w with wsd_errno := .WSD_EBADREQ }) ∨
      ¬ LenCut w.sk.recvbuf.readable ∧
        wssk_ws_decode_frame no_handshake w = .ok (-1, { w with wsd_errno := .WSD_EINPUT }) := by
  have hlength := hok.length_readable_eq
  have hmore' : 0 < more.length := List.length_pos_iff.mpr hmore
  have htotal := congrArg List.length hread
  rw [List.length_append, Frame.length_unmasked] at htotal
  rw [Frame.length_unmasked] at hf
  cases hr : w.sk.recvbuf.readable with
  | nil =>
    rw [hr] at hlength
    refine Or.inr ⟨?_, wssk_ws_decode_frame_short (by rw [← hlength]; decide)⟩
    rintro ⟨byte1, byte2, rest, h, -⟩
    cases h
  | cons byte1 tail =>
    cases tail with
    | nil =>
      rw [hr] at hlength
      refine Or.inr ⟨?_, wssk_ws_decode_frame_short (by rw [← hlength]; exact Nat.lt_succ_self 1)⟩
      rintro ⟨byte1', byte2, rest, h, -⟩
      cases h
    | cons byte2 rest =>
      rw [hr, f.unmasked_eq] at hread
      simp only [List.cons_append, List.cons.injEq] at hread
      obtain ⟨rfl, rfl, hrest⟩ := hread
      have hcode := LenForm.code_lt f.fits
      have hform := payload_len_ofNat hcode
      by_cases hcut : LenCut w.sk.recvbuf.readable
      · exact Or.inl ⟨hr ▸ hcut, wssk_ws_decode_frame_lenCut hok hcut⟩
      · have hext : f.form.extLen ≤ rest.length := by
          by_contra hless
          refine hcut ⟨_, _, rest, hr, f.rsv, mask_bit_ofNat hcode, ?_⟩
          rw [hform]
          cases hlen : f.form with
          | len7 =>
            rw [hlen] at hless
            exact absurd (Nat.zero_le _) hless
          | len16 =>
            rw [hlen] at hless
            exact Or.inl ⟨rfl, Nat.not_le.mp hless⟩
          | len64 =>
            rw [hlen] at hless
            exact Or.inr ⟨rfl, Nat.not_le.mp hless⟩
        obtain ⟨body, rfl⟩ : ∃ body, rest = f.form.ext f.payload.length ++ body := by
          have htake := congrArg (List.take f.form.extLen) hrest
          rw [List.take_append_of_le_length hext, List.take_left' (by simp)] at htake
          exact ⟨rest.drop f.form.extLen, by rw [← htake, List.take_append_drop]⟩
        rw [List.append_assoc] at hrest
        have hbody := congrArg List.length (List.append_cancel_left hrest)
        rw [List.length_append] at hbody
        refine Or.inr ⟨hr ▸ hcut, @wssk_ws_decode_frame_payloadCut _ _ f hok body (by omega) ?_ (by omega)⟩
        rw [hr]
        simp [Frame.header]

end Prefix

section Loop

variable {no_handshake : Bool}

/-- The loop prints the complete frames and stops at the part of a frame behind them. -/
theorem wssk_decode_loop_frames {done : List Frame} {part : List UInt8} {w : Wssk} {fuel frames : Nat}
    (hready : w.Ready) (hdone : ∀ f ∈ done, f.Fitting)
    (hread : w.sk.recvbuf.readable = Framing.stream Frame.unmasked done ++ part) (hfuel : done.length ≤ fuel) :
    ∃ w', wssk_decode_loop no_handshake (fuel + 1) frames w =
        wssk_decode_loop no_handshake (fuel - done.length + 1) (frames + done.length) w' ∧
      w'.Ready ∧ w'.sk.recvbuf.readable = part ∧ w'.stdout.printed = w.stdout.printed ++ payloads done := by
  induction done generalizing w fuel frames with
  | nil =>
    refine ⟨w, ?_, hready, hread, ?_⟩
    · simp only [List.length_nil, Nat.sub_zero, Nat.add_zero]
    · simp [payloads]
  | cons f done ih =>
    obtain ⟨fuel, rfl⟩ : ∃ fuel', fuel = fuel' + 1 := ⟨fuel - 1, by simp only [List.length_cons] at hfuel; omega⟩
    obtain ⟨hf, hdone⟩ := List.forall_mem_cons.mp hdone
    rw [Framing.stream_cons, List.append_assoc] at hread
    obtain ⟨recvbuf, hdecode, hok, hrest, hpos⟩ :=
      @wssk_ws_decode_frame_data no_handshake _ _ _ hready.recvbuf hready.flush hf.1 hread
    have hready' : Wssk.Ready { w.setRecvbuf recvbuf with
        stdout := { w.stdout with printed := w.stdout.printed ++ f.payload } } :=
      ⟨hready.fd, hready.close, hready.close_on_write, hready.flush, hok, hpos⟩
    obtain ⟨w', hloop, hw', hpart, hprinted⟩ := @ih _ fuel (frames + 1) hready'
      hdone hrest (by simp only [List.length_cons] at hfuel; omega)
    refine ⟨w', ?_, hw', hpart, ?_⟩
    · rw [wssk_decode_loop, hdecode]
      simp only [Except.ok_bind, if_true]
      rw [hloop, List.length_cons]
      congr 1 <;> omega
    · rw [hprinted]
      simp [payloads]

/-- At a proper part of the next frame the loop stops, with the class of that part. -/
theorem wssk_decode_loop_stop {left : List Frame} {rest : List UInt8} {w : Wssk} {fuel frames : Nat}
    (hready : w.Ready) (hleft : ∀ f ∈ left, f.Fitting)
    (hread : w.sk.recvbuf.readable ++ rest = Framing.stream Frame.unmasked left)
    (hshort : ∀ f ∈ left.head?, w.sk.recvbuf.readable.length < f.unmasked.length) :
    ∃ wsd_errno, (LenCut w.sk.recvbuf.readable ∧ wsd_errno = .WSD_EBADREQ ∨
        ¬ LenCut w.sk.recvbuf.readable ∧ wsd_errno = .WSD_EINPUT) ∧
      wssk_decode_loop no_handshake (fuel + 1) frames w = .ok (-1, frames, { w with wsd_errno }) := by
  have hstop {wsd_errno : Errno}
      (h : wssk_ws_decode_frame no_handshake w = .ok (-1, { w with wsd_errno })) :
      wssk_decode_loop no_handshake (fuel + 1) frames w = .ok (-1, frames, { w with wsd_errno }) := by
    rw [wssk_decode_loop, h]
    rfl
  cases left with
  | nil =>
    obtain ⟨hnil, -⟩ := List.append_eq_nil_iff.mp hread
    refine ⟨.WSD_EINPUT, Or.inr ⟨?_, rfl⟩, hstop (wssk_ws_decode_frame_short ?_)⟩
    · rintro ⟨byte1, byte2, rest, h, -⟩
      rw [hnil] at h
      cases h
    · rw [← hready.recvbuf.length_readable_eq, hnil]
      decide
  | cons f left =>
    have hlen := hshort f rfl
    obtain ⟨more, hmore⟩ : ∃ more, w.sk.recvbuf.readable ++ more = f.unmasked := by
      have htake := congrArg (List.take w.sk.recvbuf.readable.length) hread
      rw [List.take_left, Framing.stream_cons, List.take_append_of_le_length (Nat.le_of_lt hlen)] at htake
      exact ⟨f.unmasked.drop w.sk.recvbuf.readable.length, by
        conv => lhs; arg 1; rw [htake]
        exact List.take_append_drop ..⟩
    have hne : more ≠ [] := by
      rintro rfl
      rw [List.append_nil] at hmore
      rw [hmore] at hlen
      omega
    obtain ⟨hcut, hdecode⟩ | ⟨hcut, hdecode⟩ := @wssk_ws_decode_frame_cut no_handshake _ _ _
      hready.recvbuf (List.forall_mem_cons.mp hleft).1.2 hmore hne
    · exact ⟨.WSD_EBADREQ, Or.inl ⟨hcut, rfl⟩, hstop hdecode⟩
    · exact ⟨.WSD_EINPUT, Or.inr ⟨hcut, rfl⟩, hstop hdecode⟩

end Loop

section Reads

variable {no_handshake : Bool}

theorem wssk_ws_recv_leave_ready {w : Wssk} {frames : Nat} {wsd_errno : Errno} (h : w.Ready) :
    Wssk.Ready { w with sk := wssk_ws_recv_leave frames w.sk, wsd_errno } ∧
      (wssk_ws_recv_leave frames w.sk).recvbuf = w.sk.recvbuf := by
  obtain ⟨hfd, hclose, hcow, hflush, hok, hpos⟩ := h
  have hrecv : (wssk_ws_recv_leave frames w.sk).recvbuf = w.sk.recvbuf ∧
      (wssk_ws_recv_leave frames w.sk).fd = w.sk.fd ∧ (wssk_ws_recv_leave frames w.sk).close = w.sk.close ∧
      (wssk_ws_recv_leave frames w.sk).close_on_write = w.sk.close_on_write := by
    unfold wssk_ws_recv_leave turn_on_events turn_off_events
    refine ⟨?_, ?_, ?_, ?_⟩ <;> (simp only; split_ifs <;> rfl)
  obtain ⟨h1, h2, h3, h4⟩ := hrecv
  exact ⟨⟨h2 ▸ hfd, h3.trans hclose, h4.trans hcow, hflush, h1 ▸ hok, by simp only [h1]; exact hpos⟩, h1⟩

/-- The state after the bytes of a read, before they are processed. -/
def Wssk.received (w : Wssk) (bytes : List UInt8) (now : Timespec) : Wssk :=
  { w with sk := { w.sk with recvbuf := skb_put w.sk.recvbuf bytes, ts_last_io := now } }

/-- A read of a socket which is ready hands the bytes to `post_read` and closes the
    socket if that reports a failure. -/
theorem wssk_on_read_eq {bytes : List UInt8} {now : Timespec} {w w' : Wssk} {rv : Int} (hready : w.Ready)
    (hne : bytes ≠ []) (hroom : bytes.length ≤ skb_wrsz w.sk.recvbuf)
    (hpost : wssk_post_read no_handshake (w.received bytes now) = .ok (rv, w')) :
    wssk_on_read no_handshake (.ok bytes) now w =
      if rv < 0 ∧ w'.wsd_errno ≠ .WSD_EAGAIN ∧ w'.wsd_errno ≠ .WSD_EINPUT then .ok (false, w')
      else .ok (!w'.sk.close, w') := by
  have hsk := @sk_read_ok _ w.wsd_errno _ hready.fd hne hroom
  unfold Wssk.received at hpost
  unfold wssk_on_read
  rw [hready.close_on_write, hready.close]
  simp only [Bool.not_false, assert_true, Except.ok_bind]
  rw [hsk]
  simp only [Except.ok_bind]
  rw [if_neg (by simp), hpost]
  rfl

/-- One read: the frames which it completes are printed, and the socket is closed
    exactly if what is left ends inside an extended length. -/
theorem wssk_on_read_frames {todo : List Frame} {bytes rest : List UInt8} {now : Timespec} {w : Wssk}
    (hready : w.Ready) (htodo : ∀ f ∈ todo, f.Fitting) (hne : bytes ≠ [])
    (hroom : w.sk.recvbuf.readable.length + bytes.length ≤ SKB_SIZE)
    (hread : (w.sk.recvbuf.readable ++ bytes) ++ rest = Framing.stream Frame.unmasked todo) :
    ∃ done left part w', todo = done ++ left ∧
      part = Framing.leftover Frame.unmasked todo (w.sk.recvbuf.readable ++ bytes) ∧
      w.sk.recvbuf.readable ++ bytes = Framing.stream Frame.unmasked done ++ part ∧
      part ++ rest = Framing.stream Frame.unmasked left ∧
      (∀ f ∈ left.head?, part.length < f.unmasked.length) ∧
      w'.stdout.printed = w.stdout.printed ++ payloads done ∧ w'.Ready ∧ w'.sk.recvbuf.readable = part ∧
      (LenCut part ∧ wssk_on_read no_handshake (.ok bytes) now w = .ok (false, w') ∨
        ¬ LenCut part ∧ wssk_on_read no_handshake (.ok bytes) now w = .ok (true, w')) := by
  obtain ⟨done, left, hitems, hpart, hrest, hshort⟩ := Framing.exists_split hread
  generalize hlo : Framing.leftover Frame.unmasked todo (w.sk.recvbuf.readable ++ bytes) = part at *
  have hlength := hready.recvbuf.length_readable_eq
  have hrdsz := hready.recvbuf.rdsz_eq
  rw [hready.rdpos, Nat.sub_zero] at hrdsz
  have hput : bytes.length ≤ skb_wrsz w.sk.recvbuf := by
    rw [hready.recvbuf.wrsz_eq]
    omega
  have hokput := hready.recvbuf.put hput
  have hreadput := hready.recvbuf.readable_put hput
  have hready1 : (w.received bytes now).Ready :=
    ⟨hready.fd, hready.close, hready.close_on_write, hready.flush, hokput, hready.rdpos⟩
  have hread1 : (w.received bytes now).sk.recvbuf.readable = Framing.stream Frame.unmasked done ++ part :=
    hreadput.trans hpart
  have hprinted1 : (w.received bytes now).stdout = w.stdout := rfl
  have hon_read {rv : Int} {w' : Wssk} (hpost : wssk_post_read no_handshake (w.received bytes now) = .ok (rv, w')) :=
    wssk_on_read_eq hready hne hput hpost
  generalize w.received bytes now = w1 at hready1 hread1 hprinted1 hon_read
  have hrdsz1 : skb_rdsz w1.sk.recvbuf ≠ 0 := by
    rw [← hready1.recvbuf.length_readable_eq, hread1, ← hpart, List.length_append]
    have hpos := List.length_pos_iff.mpr hne
    omega
  rw [hitems] at htodo
  have hdone : ∀ f ∈ done, f.Fitting := fun f hf => htodo f (List.mem_append_left _ hf)
  have hfuel : done.length ≤ skb_rdsz w1.sk.recvbuf := by
    have hle : done.length ≤ (Framing.stream Frame.unmasked done).length :=
      Framing.length_le_stream (fun f => by rw [Frame.length_unmasked]; omega) done
    rw [← hready1.recvbuf.length_readable_eq, hread1, List.length_append]
    omega
  obtain ⟨w2, hloop, hready2, hread2, hprinted2⟩ := @wssk_decode_loop_frames no_handshake _ _ _ _ 0 hready1 hdone
      hread1 hfuel
  obtain ⟨e, hclass, hstop⟩ := @wssk_decode_loop_stop no_handshake left rest _ (skb_rdsz w1.sk.recvbuf - done.length)
      (0 + done.length) hready2
    (fun f hf => htodo f (List.mem_append_right _ hf)) (by rw [hread2]; exact hrest) (by rw [hread2]; exact hshort)
  obtain ⟨hready3, hrecv3⟩ := @wssk_ws_recv_leave_ready _ (0 + done.length) e hready2
  have hpost : wssk_post_read no_handshake w1 =
      .ok (-1, { w2 with sk := wssk_ws_recv_leave (0 + done.length) w2.sk, wsd_errno := e }) := by
    unfold wssk_post_read wssk_ws_recv
    rw [if_neg hrdsz1, hloop, hstop]
    simp only [hrdsz1, ne_eq, not_false_eq_true, decide_true, assert_true, Except.ok_bind, Except.pure_eq_ok]
  refine ⟨done, left, part, _, hitems, rfl, hpart, hrest, hshort, ?_, hready3, ?_, ?_⟩
  · rw [hprinted2, hprinted1]
  · rw [← hread2]
    exact congrArg Skb.readable hrecv3
  · have hend := hon_read hpost
    have hclose := hready3.close
    obtain ⟨hcut, rfl⟩ | ⟨hcut, rfl⟩ := hclass
    · rw [hread2] at hcut
      rw [if_pos (by simp)] at hend
      exact Or.inl ⟨hcut, hend⟩
    · rw [hread2] at hcut
      rw [if_neg (by simp), hclose] at hend
      exact Or.inr ⟨hcut, hend⟩

theorem payloads_append (done left : List Frame) : payloads (done ++ left) = payloads done ++ payloads left :=
  List.flatMap_append

/-- Successive reads: the socket stays open, and every payload is printed, exactly if
    no read leaves a part which ends inside an extended length. -/
theorem wssk_reads_open_iff {frames done left : List Frame} {reads : List (Timespec × List UInt8)}
    {part : List UInt8} {w : Wssk} (hready : w.Ready) (hframes : ∀ f ∈ frames, f.Fitting)
    (hitems : frames = done ++ left) (hpart : part = Framing.stream Frame.unmasked done ++ w.sk.recvbuf.readable)
    (hshort : ∀ f ∈ left.head?, w.sk.recvbuf.readable.length < f.unmasked.length)
    (hstream : part ++ (reads.map Prod.snd).flatten = Framing.stream Frame.unmasked frames)
    (hfits : Framing.Fits Frame.unmasked SKB_SIZE frames part (reads.map Prod.snd)) :
    (∃ w', wssk_reads no_handshake reads w = .ok (true, w') ∧ w'.sk.recvbuf.readable = [] ∧
        w'.stdout.printed = w.stdout.printed ++ payloads left) ↔
      Framing.Leaves Frame.unmasked (fun r => ¬ LenCut r) frames part (reads.map Prod.snd) := by
  induction reads generalizing done left part w with
  | nil =>
    simp only [List.map_nil, List.flatten_nil, List.append_nil] at hstream
    have hleft : w.sk.recvbuf.readable = Framing.stream Frame.unmasked left := by
      rw [hpart, hitems, Framing.stream_append] at hstream
      exact List.append_cancel_left hstream
    cases left with
    | nil => exact ⟨fun _ => trivial, fun _ => ⟨w, rfl, hleft, by simp [payloads]⟩⟩
    | cons f left =>
      have hlen := hshort f rfl
      rw [hleft, Framing.stream_cons, List.length_append] at hlen
      omega
  | cons read reads ih =>
    obtain ⟨now, bytes⟩ := read
    simp only [List.map_cons, List.flatten_cons, Framing.Fits, Framing.Leaves] at hstream hfits ⊢
    obtain ⟨hne, hroom, hfits⟩ := hfits
    have hskip (more : List UInt8) : Framing.leftover Frame.unmasked frames (part ++ more) =
        Framing.leftover Frame.unmasked left (w.sk.recvbuf.readable ++ more) := by
      rw [hpart, hitems, List.append_assoc, Framing.leftover_append]
    have hown : Framing.leftover Frame.unmasked frames part = w.sk.recvbuf.readable := by
      have hnone := hskip []
      rw [List.append_nil, List.append_nil] at hnone
      rw [hnone]
      cases left with
      | nil => rfl
      | cons f left => exact Framing.leftover_of_lt (hshort f rfl)
    have hread : w.sk.recvbuf.readable ++ bytes ++ (reads.map Prod.snd).flatten =
        Framing.stream Frame.unmasked left := by
      rw [hpart, hitems, Framing.stream_append, List.append_assoc] at hstream
      rw [List.append_assoc]
      exact List.append_cancel_left hstream
    have hleft : ∀ f ∈ left, f.Fitting := fun f hf => hframes f (hitems ▸ List.mem_append_right _ hf)
    obtain ⟨done', left', part', w', hitems', hpart', hbytes, hrest, hshort', hprinted, hready', hread', hend⟩ :=
      @wssk_on_read_frames no_handshake _ _ _ now _ hready hleft hne
        (by rw [← hown]; exact hroom) hread
    have hleave : Framing.leftover Frame.unmasked frames (part ++ bytes) = part' := (hskip bytes).trans hpart'.symm
    rw [hleave, wssk_reads]
    obtain ⟨hcut, hon_read⟩ | ⟨hcut, hon_read⟩ := hend
    · rw [hon_read]
      simp only [Except.ok_bind, Bool.false_eq_true, if_false, Except.pure_eq_ok, Except.ok.injEq, Prod.mk.injEq,
        false_and, exists_false, hcut, not_true_eq_false]
    · rw [hon_read]
      simp only [Except.ok_bind, if_true, hcut, not_false_eq_true, true_and]
      rw [← @ih (done ++ done') left' (part ++ bytes) _ hready' (by rw [hitems, hitems', List.append_assoc])
        (by rw [hread', hpart, List.append_assoc, hbytes, Framing.stream_append, List.append_assoc])
        (by rw [hread']; exact hshort') (by rw [List.append_assoc]; exact hstream) hfits]
      rw [hprinted, hitems', payloads_append, List.append_assoc]

end Reads

/-- The socket stays open over the reads, and all payloads are printed; one read of
    the whole stream, where it fits the buffer, does the same. -/
def AsOneRead (no_handshake : Bool) (frames : List Frame) (reads : List (Timespec × List UInt8)) (w : Wssk) : Prop :=
  ∃ w', wssk_reads no_handshake reads w = .ok (true, w') ∧ w'.sk.recvbuf.readable = [] ∧
    w'.stdout.printed = w.stdout.printed ++ payloads frames ∧
    ∀ now, Framing.stream Frame.unmasked frames ≠ [] → (Framing.stream Frame.unmasked frames).length ≤ SKB_SIZE →
      ∃ w1, wssk_reads no_handshake [(now, Framing.stream Frame.unmasked frames)] w = .ok (true, w1) ∧
        w1.sk.recvbuf.readable = w'.sk.recvbuf.readable ∧ w1.stdout.printed = w'.stdout.printed

/-- The decoder asks for more input and leaves the socket as it is. -/
def WaitsForInput (no_handshake : Bool) (w : Wssk) : Prop :=
  wssk_ws_decode_frame no_handshake w = .ok (-1, { w with wsd_errno := .WSD_EINPUT })

theorem leftover_nil {frames : List Frame} : Framing.leftover Frame.unmasked frames [] = [] := by
  cases frames with
  | nil => rfl
  | cons f frames =>
    exact Framing.leftover_of_lt (by rw [Frame.length_unmasked, List.length_nil]; omega)

/-- Between the handshake and the first read nothing is left over. -/
theorem asOneRead_iff {no_handshake : Bool} {w : Wssk} {frames : List Frame} {reads : List (Timespec × List UInt8)}
    (hready : w.Ready) (hempty : w.sk.recvbuf.readable = []) (hframes : ∀ f ∈ frames, f.Fitting)
    (hstream : (reads.map Prod.snd).flatten = Framing.stream Frame.unmasked frames)
    (hfits : Framing.Fits Frame.unmasked SKB_SIZE frames [] (reads.map Prod.snd)) :
    AsOneRead no_handshake frames reads w ↔
      Framing.Leaves Frame.unmasked (fun r => ¬ LenCut r) frames [] (reads.map Prod.snd) := by
  have hshort : ∀ f ∈ frames.head?, w.sk.recvbuf.readable.length < f.unmasked.length := by
    intro f _
    rw [hempty, List.length_nil, Frame.length_unmasked]
    omega
  have hiff {reads : List (Timespec × List UInt8)}
      (hstream : (reads.map Prod.snd).flatten = Framing.stream Frame.unmasked frames)
      (hfits : Framing.Fits Frame.unmasked SKB_SIZE frames [] (reads.map Prod.snd)) :=
    @wssk_reads_open_iff no_handshake _ [] frames _ [] _ hready hframes rfl
      hempty.symm hshort hstream hfits
  rw [← hiff hstream hfits]
  constructor
  · rintro ⟨w', hreads, hread, hprinted, -⟩
    exact ⟨w', hreads, hread, hprinted⟩
  · rintro ⟨w', hreads, hread, hprinted⟩
    refine ⟨w', hreads, hread, hprinted, fun now hne hsize => ?_⟩
    obtain ⟨w1, hreads1, hread1, hprinted1⟩ :=
      (@hiff [(now, Framing.stream Frame.unmasked frames)] (by simp)
        ⟨hne, by rw [leftover_nil, List.length_nil, Nat.zero_add]; exact hsize, trivial⟩).mpr
        ⟨by rw [List.nil_append, Framing.leftover_stream]; decide, trivial⟩
    exact ⟨w1, hreads1, hread1.trans hread.symm, hprinted1.trans hprinted.symm⟩

/-- Reads may cut the stream anywhere but inside an extended length: there the part of
    the frame is taken for a bad one and the connection is closed. -/
theorem wssk_segmentation_iff (no_handshake : Bool) (w : Wssk) :
    (∀ (frames : List Frame) (reads : List (Timespec × List UInt8)),
        w.Ready → w.sk.recvbuf.readable = [] → (∀ f ∈ frames, f.Fitting) →
        (reads.map Prod.snd).flatten = Framing.stream Frame.unmasked frames →
        Framing.Fits Frame.unmasked SKB_SIZE frames [] (reads.map Prod.snd) →
        (AsOneRead no_handshake frames reads w ↔
          Framing.Leaves Frame.unmasked (fun r => ¬ LenCut r) frames [] (reads.map Prod.snd))) ∧
      ∀ (f : Frame) (more : List UInt8), w.sk.recvbuf.Ok → f.Fitting → w.sk.recvbuf.readable ++ more = f.unmasked → more ≠ [] →
        (WaitsForInput no_handshake w ↔ ¬ LenCut w.sk.recvbuf.readable) := by
  refine ⟨fun frames reads hready hempty hframes hstream hfits =>
    asOneRead_iff hready hempty hframes hstream hfits, fun f more hok hf hread hmore => ?_⟩
  obtain ⟨hcut, hdecode⟩ | ⟨hcut, hdecode⟩ :=
    @wssk_ws_decode_frame_cut no_handshake _ _ _ hok hf.2 hread hmore
  · refine iff_of_false (fun hwaits => ?_) (not_not.mpr hcut)
    have hsame := congrArg (fun x => x.toOption.map fun y => y.2.wsd_errno) (hdecode.symm.trans hwaits)
    cases hsame
  · exact iff_of_true hdecode hcut

namespace Sample

/-- The websocket socket after the handshake. -/
def wssk : Wssk where
  sk := sk_init 3 0
  stdout := { printed := [], broken := false }
  wsd_errno := .WSD_CHECKERRNO

theorem wssk_ready : wssk.Ready :=
  ⟨by decide, rfl, rfl, rfl, Skb.ok_zero, rfl⟩

/-- A text frame. -/
def short : Frame where
  byte1 := 0x81
  form := .len7
  payload := ascii "Hi"
  rsv := rsvClear_text
  fits := by decide

/-- A text frame with a 16-bit length. -/
def long : Frame where
  byte1 := 0x81
  form := .len16
  payload := List.replicate 126 0x61
  rsv := rsvClear_text
  fits := by decide +kernel

end Sample

/-- A frame is read in three pieces, and a part of it is decoded. -/
theorem wssk_segmentation_short :
    AsOneRead false [Sample.short] [(.zero, [0x81]), (.zero, [0x02, 0x48]), (.zero, [0x69])] Sample.wssk ∧
      WaitsForInput false { Sample.wssk with sk := { Sample.wssk.sk with recvbuf := Skb.ofBytes [0x81] } } :=
  ⟨((wssk_segmentation_iff false Sample.wssk).1 [Sample.short] _ Sample.wssk_ready rfl (by decide) (by decide)
      (by decide)).mpr (by decide),
    ((wssk_segmentation_iff false _).2 Sample.short [0x02, 0x48, 0x69] (Skb.ok_ofBytes (by decide)) (by decide)
      (by rw [Skb.readable_ofBytes (by decide)]; decide) (by decide)).mpr
      (by rw [Skb.readable_ofBytes (by decide)]; decide)⟩

/-- A cut behind the two header bytes of a frame with a 16-bit length. -/
theorem wssk_length_cut_closes :
    ¬ ∀ (no_handshake : Bool) (w : Wssk) (frames : List Frame) (reads : List (Timespec × List UInt8)),
      w.Ready → w.sk.recvbuf.readable = [] → (∀ f ∈ frames, f.Fitting) →
      (reads.map Prod.snd).flatten = Framing.stream Frame.unmasked frames →
      Framing.Fits Frame.unmasked SKB_SIZE frames [] (reads.map Prod.snd) → AsOneRead no_handshake frames reads w := by
  intro h
  have hone := h false Sample.wssk [Sample.long] [(.zero, [0x81, 0x7e]), (.zero, Sample.long.unmasked.drop 2)]
    Sample.wssk_ready rfl (by decide +kernel) (by decide +kernel) (by decide +kernel)
  have hleaves := (asOneRead_iff Sample.wssk_ready rfl (by decide +kernel) (by decide +kernel) (by decide +kernel)).mp hone
  exact absurd hleaves (by decide +kernel)

end wsd

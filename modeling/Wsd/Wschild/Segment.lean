import Wsd.Wschild.Forward

namespace wsd

/-- The bytes end where the decoder does not restore the read position. -/
def InKey (r : List UInt8) : Prop :=
  ∃ consumed, KeyCut r consumed

instance : DecidablePred InKey
  | [] => isFalse (by rintro ⟨_, _, _, _, h, -⟩; cases h)
  | [_] => isFalse (by rintro ⟨_, _, _, _, h, -⟩; cases h)
  | byte1 :: byte2 :: rest =>
    decidable_of_iff (RsvClear byte1 ∧ MASK_BIT byte2 ≠ 0 ∧
        (PAYLOAD_LEN byte2 = 126 ∧ 4 ≤ rest.length ∧ rest.length < 6 ∨
          PAYLOAD_LEN byte2 = 127 ∧ 8 ≤ rest.length ∧ rest.length < 12)) (by
      constructor
      · rintro ⟨hrsv, hmask, ⟨hlen, hlo, hhi⟩ | ⟨hlen, hlo, hhi⟩⟩
        · exact ⟨4, byte1, byte2, rest, rfl, hrsv, hmask, Or.inl ⟨hlen, rfl, hlo, hhi⟩⟩
        · exact ⟨10, byte1, byte2, rest, rfl, hrsv, hmask, Or.inr ⟨hlen, rfl, hlo, hhi⟩⟩
      · rintro ⟨consumed, byte1', byte2', rest', hr, hrsv, hmask, hcut⟩
        cases hr
        refine ⟨hrsv, hmask, ?_⟩
        obtain ⟨hlen, -, hlo, hhi⟩ | ⟨hlen, -, hlo, hhi⟩ := hcut
        · exact Or.inl ⟨hlen, hlo, hhi⟩
        · exact Or.inr ⟨hlen, hlo, hhi⟩)

/-- A part which is cut in the key is not what the decoder leaves of it. -/
theorem KeyCut.drop_ne {r : List UInt8} {consumed : Nat} (h : KeyCut r consumed) : r.drop consumed ≠ r := by
  obtain ⟨byte1, byte2, rest, rfl, -, -, hcut⟩ := h
  intro heq
  have hlen := congrArg List.length heq
  rw [List.length_drop, List.length_cons, List.length_cons] at hlen
  omega

/-- The decoder asks for more input and leaves everything as it is. -/
def Conn.WaitsForInput (c : Conn) : Prop :=
  ws_decode_frame c = .ok (-1, { c with wsd_errno := .WSD_EINPUT })

/-- A proper part of a frame ends in the key behind an extended length, or it does not. -/
theorem ws_decode_frame_cut {c : Conn} {f : Frame} {key : UInt32} {more : List UInt8} (hok : c.sk.recvbuf.Ok)
    (hread : c.sk.recvbuf.readable ++ more = f.masked key) (hmore : more ≠ []) :
    InKey c.sk.recvbuf.readable ∨ ¬ InKey c.sk.recvbuf.readable ∧ c.WaitsForInput := by
  obtain ⟨f', key', rest, hframe⟩ | ⟨byte1, byte2, rest, hbytes, -, hbad⟩ | hcut | hwaits := ws_decode_frame_cases hok
  · rw [hframe, List.append_assoc, ← List.append_nil (f.masked key)] at hread
    obtain ⟨-, -, hnil⟩ := Frame.masked_inj hread
    exact absurd (List.append_eq_nil_iff.mp hnil).2 hmore
  · rw [hbytes, Frame.masked, maskedHeader] at hread
    simp only [List.cons_append, List.cons.injEq] at hread
    obtain ⟨rfl, rfl, -⟩ := hread
    exact absurd ⟨f.rsv, mask_bit_masked (LenForm.code_lt f.fits)⟩ hbad
  · exact Or.inl hcut
  · exact Or.inr hwaits

/-- Behind the complete frames of a stream the decoder stops. -/
theorem ws_decode_frame_part {c : Conn} {left : List DataFrame} {rest : List UInt8} (hok : c.sk.recvbuf.Ok)
    (hread : c.sk.recvbuf.readable ++ rest = Framing.stream DataFrame.bytes left)
    (hshort : ∀ d ∈ left.head?, c.sk.recvbuf.readable.length < d.bytes.length) :
    ∃ recvbuf : Skb, recvbuf.Ok ∧
      ws_decode_frame c = .ok (-1, { c.setRecvbuf recvbuf with wsd_errno := .WSD_EINPUT }) ∧
      (InKey c.sk.recvbuf.readable ∧ recvbuf.readable ≠ c.sk.recvbuf.readable ∨
        ¬ InKey c.sk.recvbuf.readable ∧ recvbuf.readable = c.sk.recvbuf.readable) := by
  cases left with
  | nil =>
    obtain ⟨hnil, -⟩ := List.append_eq_nil_iff.mp hread
    refine ⟨c.sk.recvbuf, hok, ws_decode_frame_short ?_, Or.inr ⟨?_, rfl⟩⟩
    · rw [← hok.length_readable_eq, hnil]
      decide
    · rw [hnil]
      decide
  | cons d left =>
    have hlen := hshort d rfl
    obtain ⟨more, hmore⟩ : ∃ more, c.sk.recvbuf.readable ++ more = d.bytes := by
      have htake := congrArg (List.take c.sk.recvbuf.readable.length) hread
      rw [List.take_left, Framing.stream_cons, List.take_append_of_le_length (Nat.le_of_lt hlen)] at htake
      exact ⟨d.bytes.drop c.sk.recvbuf.readable.length, by
        conv => lhs; arg 1; rw [htake]
        exact List.take_append_drop ..⟩
    have hne : more ≠ [] := by
      rintro rfl
      rw [List.append_nil] at hmore
      rw [hmore] at hlen
      omega
    obtain ⟨consumed, hcut⟩ | ⟨hcut, hwaits⟩ := ws_decode_frame_cut hok hmore hne
    · have hle := hcut.consumed_le hok
      refine ⟨_, hok.rd_forward hle, ws_decode_frame_keyCut hok hcut, Or.inl ⟨⟨consumed, hcut⟩, ?_⟩⟩
      rw [hok.readable_rd_forward hle]
      exact hcut.drop_ne
    · exact ⟨c.sk.recvbuf, hok, hwaits, Or.inr ⟨hcut, rfl⟩⟩

/-- The call leaves a proper part of a frame alone exactly if it does not end there. -/
theorem waitsForInput_iff {c : Conn} {f : Frame} {key : UInt32} {more : List UInt8} (hok : c.sk.recvbuf.Ok)
    (hread : c.sk.recvbuf.readable ++ more = f.masked key) (hmore : more ≠ []) :
    c.WaitsForInput ↔ ¬ InKey c.sk.recvbuf.readable := by
  obtain ⟨consumed, hcut⟩ | ⟨hcut, hwaits⟩ := ws_decode_frame_cut hok hread hmore
  · refine iff_of_false (fun hwaits => ?_) (not_not.mpr ⟨consumed, hcut⟩)
    unfold Conn.WaitsForInput at hwaits
    rw [ws_decode_frame_keyCut hok hcut] at hwaits
    have hbuf := congrArg (fun x => x.toOption.map fun y => y.2.sk.recvbuf.readable) hwaits
    simp only [Except.toOption, Option.map_some, Option.some.injEq, Conn.setRecvbuf] at hbuf
    rw [hok.readable_rd_forward (hcut.consumed_le hok)] at hbuf
    exact hcut.drop_ne hbuf
  · exact iff_of_true hwaits hcut

/-- A read of a client delivers bytes, and `ws_recv` runs. -/
def ws_read (cfg : Config) (opens : List OpenResult) (id : Nat) (bytes : List UInt8) (w : World) :
    Except Fault World := do
  let sk ← w.deref id
  let (_, sk, wsd_errno) ← sk_read (.ok bytes) sk w.wsd_errno
  let (_, w) ← ws_recv cfg opens { w.set id sk with wsd_errno } id
  return w

/-- Successive reads. -/
def ws_reads (cfg : Config) (opens : List OpenResult) (id : Nat) :
    List (List UInt8) → World → Except Fault World
  | [], w => .ok w
  | bytes :: reads, w => do
    let w ← ws_read cfg opens id bytes w
    ws_reads cfg opens id reads w

/-- The readable bytes of a client's receive buffer. -/
def World.unread (w : World) (id : Nat) : List UInt8 :=
  match w.clients id with
  | none => []
  | some sk => sk.recvbuf.readable

/-- The bytes which wait for the backend. -/
def World.queued (w : World) : List UInt8 :=
  match w.pp2sk with
  | none => []
  | some (_, pp2sk) => pp2sk.sendbuf.readable

/-- No read delivers more than there is room for. -/
def Receivable (cfg : Config) (opens : List OpenResult) (id : Nat) : List (List UInt8) → World → Prop
  | [], _ => True
  | bytes :: reads, w => bytes ≠ [] ∧ (∀ sk ∈ w.clients id, bytes.length ≤ skb_wrsz sk.recvbuf) ∧
    match ws_read cfg opens id bytes w with
    | .error _ => True
    | .ok w => Receivable cfg opens id reads w

instance decidableReceivable (cfg : Config) (opens : List OpenResult) (id : Nat) :
    (reads : List (List UInt8)) → (w : World) → Decidable (Receivable cfg opens id reads w)
  | [], _ => isTrue trivial
  | bytes :: reads, w =>
    have : Decidable (match ws_read cfg opens id bytes w with
        | .error _ => True
        | .ok w => Receivable cfg opens id reads w) :=
      match ws_read cfg opens id bytes w with
      | .error _ => isTrue trivial
      | .ok w => decidableReceivable cfg opens id reads w
    inferInstanceAs (Decidable (_ ∧ _ ∧ _))

/-- Each read leaves what lies behind the complete frames, in front of which the given
    part of the stream has been read. -/
def Intact (cfg : Config) (opens : List OpenResult) (id : Nat) (frames : List DataFrame) :
    List UInt8 → List (List UInt8) → World → Prop
  | _, [], _ => True
  | part, bytes :: reads, w => ∃ w', ws_read cfg opens id bytes w = .ok w' ∧
    w'.unread id = Framing.leftover DataFrame.bytes frames (part ++ bytes) ∧
    Intact cfg opens id frames (part ++ bytes) reads w'

section Reads

variable {cfg : Config} {opens : List OpenResult} {w : World} {id p : Nat} {sk pp2sk : Sk}

theorem World.Forwards.unread_eq (h : w.Forwards id p sk pp2sk) : w.unread id = sk.recvbuf.readable := by
  rw [World.unread, h.client]

theorem World.Forwards.queued_eq (h : w.Forwards id p sk pp2sk) : w.queued = pp2sk.sendbuf.readable := by
  rw [World.queued, h.backend]

theorem World.Forwards.apart (h : w.Forwards id p sk pp2sk) : ∀ q ∈ w.pp2sk, q.1 ≠ id := by
  rintro q hq rfl
  have hnone := (h.wf.backend q.1 q.2 hq).2.2
  rw [h.client] at hnone
  cases hnone

/-- A read appends the bytes to the receive buffer. -/
theorem World.Forwards.received (h : w.Forwards id p sk pp2sk) {bytes : List UInt8}
    (hroom : bytes.length ≤ skb_wrsz sk.recvbuf) :
    World.Forwards { w with clients := Function.update w.clients id (some { sk with recvbuf := skb_put sk.recvbuf bytes }) }
      id p { sk with recvbuf := skb_put sk.recvbuf bytes } pp2sk := by
  have hput := h.setConn (h.recvbuf.put hroom) h.sendbuf sk.events pp2sk.events w.wsd_errno
  have hset : w.setConn id { sk := { sk with recvbuf := skb_put sk.recvbuf bytes }, pp2sk, wsd_errno := w.wsd_errno } =
      { w with clients := Function.update w.clients id (some { sk with recvbuf := skb_put sk.recvbuf bytes }) } := by
    simp only [World.setConn, h.backend, Option.map_some]
  rw [← hset]
  exact hput

/-- One read: the frames which it completes are forwarded. What it leaves behind them
    stays in the receive buffer, unless it ends in a key. -/
theorem ws_read_frames (cfg : Config) (opens : List OpenResult) {todo : List DataFrame} {bytes rest : List UInt8} (h : w.Forwards id p sk pp2sk)
    (hne : bytes ≠ []) (hroom : bytes.length ≤ skb_wrsz sk.recvbuf)
    (hspace : (forwarded sk todo).length ≤ skb_wrsz pp2sk.sendbuf)
    (hread : (sk.recvbuf.readable ++ bytes) ++ rest = Framing.stream DataFrame.bytes todo) :
    ∃ done left part w' sk' pp2sk', todo = done ++ left ∧
      part = Framing.leftover DataFrame.bytes todo (sk.recvbuf.readable ++ bytes) ∧
      sk.recvbuf.readable ++ bytes = Framing.stream DataFrame.bytes done ++ part ∧
      part ++ rest = Framing.stream DataFrame.bytes left ∧
      (∀ d ∈ left.head?, part.length < d.bytes.length) ∧
      ws_read cfg opens id bytes w = .ok w' ∧ w'.Forwards id p sk' pp2sk' ∧
      (∀ frames, forwarded sk' frames = forwarded sk frames) ∧
      pp2sk'.sendbuf.readable = pp2sk.sendbuf.readable ++ forwarded sk done ∧
      (forwarded sk left).length ≤ skb_wrsz pp2sk'.sendbuf ∧
      (InKey part ∧ sk'.recvbuf.readable ≠ part ∨ ¬ InKey part ∧ sk'.recvbuf.readable = part) := by
  obtain ⟨done, left, hitems, hpart, hrest, hshort⟩ := Framing.exists_split hread
  generalize Framing.leftover DataFrame.bytes todo (sk.recvbuf.readable ++ bytes) = part at *
  have h1 := h.received hroom
  have hread1 := h.recvbuf.readable_put hroom
  rw [hitems, forwarded_append, List.length_append] at hspace
  obtain ⟨recvbuf, sendbuf, events, pp2events, e, hrecv, hok, hend, hsend, hsent, hleft⟩ := @ws_recv_forwards
    _ _ _ _ _ cfg opens done part
    (fun recvbuf _ => InKey part ∧ recvbuf.readable ≠ part ∨ ¬ InKey part ∧ recvbuf.readable = part) h1
    (hread1.trans hpart) (by rw [hread1]; simp [hne]) (Nat.le_trans (Nat.le_add_right ..) hspace) (by
      intro recvbuf sendbuf hok hread2 _ _
      obtain ⟨recvbuf', hok', hdecode, hend⟩ := @ws_decode_frame_part
        { sk := { sk with recvbuf }, pp2sk := { pp2sk with sendbuf }, wsd_errno := w.wsd_errno } left rest hok
        (by rw [← hrest, ← hread2]) (by rw [hread2]; exact hshort)
      rw [hread2] at hend
      exact ⟨recvbuf', _, hok', hend, hdecode⟩)
  have h2 := h1.setConn hok hsend events pp2events e
  refine ⟨done, left, part, _, _, _, hitems, rfl, hpart, hrest, hshort, ?_, h2, forwarded_congr rfl rfl rfl, hsent, ?_, hend⟩
  · unfold ws_read
    rw [World.deref_of_get (h.wf.get_of_client h.client), Except.ok_bind, sk_read_ok h.fd hne hroom]
    simp only [Except.ok_bind, World.set_client h.apart]
    rw [hrecv]
    rfl
  · rw [hleft]
    exact Nat.le_sub_of_add_le' hspace

/-- Successive reads leave the parts intact and forward every payload exactly if none of
    them ends in a key. -/
theorem ws_reads_intact_iff {frames done left : List DataFrame} {reads : List (List UInt8)} {part : List UInt8}
    (h : w.Forwards id p sk pp2sk) (hitems : frames = done ++ left)
    (hpart : part = Framing.stream DataFrame.bytes done ++ sk.recvbuf.readable)
    (hshort : ∀ d ∈ left.head?, sk.recvbuf.readable.length < d.bytes.length)
    (hstream : part ++ reads.flatten = Framing.stream DataFrame.bytes frames)
    (hkernel : Receivable cfg opens id reads w) (hspace : (forwarded sk left).length ≤ skb_wrsz pp2sk.sendbuf) :
    (Intact cfg opens id frames part reads w ∧ ∃ w', ws_reads cfg opens id reads w = .ok w' ∧ w'.unread id = [] ∧
        w'.queued = w.queued ++ forwarded sk left) ↔
      Framing.Leaves DataFrame.bytes (fun r => ¬ InKey r) frames part reads := by
  induction reads generalizing done left part w sk pp2sk with
  | nil =>
    rw [List.flatten_nil, List.append_nil] at hstream
    have hleft : sk.recvbuf.readable = Framing.stream DataFrame.bytes left := by
      rw [hpart, hitems, Framing.stream_append] at hstream
      exact List.append_cancel_left hstream
    cases left with
    | nil => exact ⟨fun _ => trivial, fun _ => ⟨trivial, w, rfl, h.unread_eq.trans hleft, (List.append_nil _).symm⟩⟩
    | cons d left =>
      have hlen := hshort d rfl
      rw [hleft, Framing.stream_cons, List.length_append] at hlen
      omega
  | cons bytes reads ih =>
    obtain ⟨hne, hroom, hkernel⟩ := hkernel
    rw [List.flatten_cons] at hstream
    have hskip (more : List UInt8) : Framing.leftover DataFrame.bytes frames (part ++ more) =
        Framing.leftover DataFrame.bytes left (sk.recvbuf.readable ++ more) := by
      rw [hpart, hitems, List.append_assoc, Framing.leftover_append]
    have hread : sk.recvbuf.readable ++ bytes ++ reads.flatten = Framing.stream DataFrame.bytes left := by
      rw [hpart, hitems, Framing.stream_append, List.append_assoc] at hstream
      rw [List.append_assoc]
      exact List.append_cancel_left hstream
    obtain ⟨done', left', part', w', sk', pp2sk', hitems', hpart', hbytes, hrest, hshort', hws_read, h', hsame, hsent,
      hspace', hend⟩ := ws_read_frames cfg opens h hne (hroom sk h.client) hspace hread
    rw [hws_read] at hkernel
    have hleave : Framing.leftover DataFrame.bytes frames (part ++ bytes) = part' := (hskip bytes).trans hpart'.symm
    simp only [Framing.Leaves, Intact, hleave, ws_reads, hws_read, Except.ok_bind, Except.ok.injEq,
      exists_eq_left', h'.unread_eq]
    obtain ⟨hcut, hlost⟩ | ⟨hcut, hkept⟩ := hend
    · exact iff_of_false (fun hintact => hlost hintact.1.1) (fun hleaves => hleaves.1 hcut)
    · have hnext := @ih w' sk' pp2sk' (done ++ done') left' (part ++ bytes) h'
        (by rw [hitems, hitems', List.append_assoc])
        (by rw [hkept, hpart, List.append_assoc, hbytes, Framing.stream_append, List.append_assoc])
        (by rw [hkept]; exact hshort') (by rw [List.append_assoc]; exact hstream) hkernel
        (by rw [hsame]; exact hspace')
      rw [h'.queued_eq, hsent, hsame, List.append_assoc, ← forwarded_append, ← hitems', ← h.queued_eq] at hnext
      simp only [hkept, true_and, hcut, not_false_eq_true]
      exact hnext

end Reads

/-- After the reads the backend gets the payloads of all frames, and nothing is left; one
    read of the whole stream, where it fits, does the same. No read on the way disturbs the
    part of a frame which it ends with. -/
def ForwardedAsOne (cfg : Config) (opens : List OpenResult) (id : Nat) (sk : Sk) (frames : List DataFrame)
    (reads : List (List UInt8)) (w : World) : Prop :=
  (∃ w', ws_reads cfg opens id reads w = .ok w' ∧ w'.unread id = [] ∧ w'.queued = w.queued ++ forwarded sk frames ∧
    (Framing.stream DataFrame.bytes frames ≠ [] →
      (Framing.stream DataFrame.bytes frames).length ≤ skb_wrsz sk.recvbuf →
        ∃ w1, ws_read cfg opens id (Framing.stream DataFrame.bytes frames) w = .ok w1 ∧
          w1.unread id = w'.unread id ∧ w1.queued = w'.queued)) ∧
    Intact cfg opens id frames [] reads w

theorem forwardedAsOne_iff {cfg : Config} {opens : List OpenResult} {w : World} {id p : Nat} {sk pp2sk : Sk}
    {frames : List DataFrame} {reads : List (List UInt8)} (h : w.Forwards id p sk pp2sk)
    (hempty : sk.recvbuf.readable = []) (hstream : reads.flatten = Framing.stream DataFrame.bytes frames)
    (hkernel : Receivable cfg opens id reads w) (hspace : (forwarded sk frames).length ≤ skb_wrsz pp2sk.sendbuf) :
    ForwardedAsOne cfg opens id sk frames reads w ↔
      Framing.Leaves DataFrame.bytes (fun r => ¬ InKey r) frames [] reads := by
  have hshort : ∀ d ∈ frames.head?, sk.recvbuf.readable.length < d.bytes.length := by
    intro d _
    have hlen := d.six_le_length
    rw [hempty, List.length_nil]
    omega
  have hiff {reads : List (List UInt8)} (hstream : reads.flatten = Framing.stream DataFrame.bytes frames)
      (hkernel : Receivable cfg opens id reads w) :=
    @ws_reads_intact_iff cfg opens _ _ _ _ _ frames [] frames reads [] h rfl hempty.symm hshort hstream hkernel hspace
  rw [← hiff hstream hkernel]
  constructor
  · rintro ⟨⟨w', hreads, hunread, hqueued, -⟩, hintact⟩
    exact ⟨hintact, w', hreads, hunread, hqueued⟩
  · rintro ⟨hintact, w', hreads, hunread, hqueued⟩
    refine ⟨⟨w', hreads, hunread, hqueued, fun hne hsize => ?_⟩, hintact⟩
    have hlast : Receivable cfg opens id [Framing.stream DataFrame.bytes frames] w := by
      refine ⟨hne, fun sk' hsk' => ?_, ?_⟩
      · rw [h.client] at hsk'
        cases hsk'
        exact hsize
      · cases ws_read cfg opens id (Framing.stream DataFrame.bytes frames) w <;> trivial
    have hone := (@hiff [Framing.stream DataFrame.bytes frames] (by simp) hlast).mpr
      ⟨by rw [List.nil_append, Framing.leftover_stream]; decide, trivial⟩
    obtain ⟨-, w1, hread1, hunread1, hqueued1⟩ := hone
    rw [ws_reads] at hread1
    obtain ⟨w2, hread2, hret⟩ := Except.bind_eq_ok_iff.mp hread1
    cases hret
    exact ⟨w1, hread2, hunread1.trans hunread.symm, hqueued1.trans hqueued.symm⟩

/-- Reads may cut the stream anywhere but in a key behind an extended length: there the
    decoder does not set the read position back. -/
theorem ws_segmentation_iff {cfg : Config} {opens : List OpenResult} {w : World} {id p : Nat} {sk pp2sk : Sk}
    {frames : List DataFrame} {reads : List (List UInt8)} (h : w.Forwards id p sk pp2sk)
    (hempty : sk.recvbuf.readable = []) (hstream : reads.flatten = Framing.stream DataFrame.bytes frames)
    (hkernel : Receivable cfg opens id reads w) (hspace : (forwarded sk frames).length ≤ skb_wrsz pp2sk.sendbuf) :
    (ForwardedAsOne cfg opens id sk frames reads w ↔
        Framing.Leaves DataFrame.bytes (fun r => ¬ InKey r) frames [] reads) ∧
      ∀ (c : Conn) (d : DataFrame) (more : List UInt8), c.sk.recvbuf.Ok →
        c.sk.recvbuf.readable ++ more = d.bytes → more ≠ [] →
        (c.WaitsForInput ↔ ¬ InKey c.sk.recvbuf.readable) := by
  refine ⟨forwardedAsOne_iff h hempty hstream hkernel hspace, fun c d more hok hread hmore => ?_⟩
  exact waitsForInput_iff hok hread hmore

namespace Sample

theorem fits_long : LenForm.Fits .len16 (List.replicate 126 (0x61 : UInt8)).length := by
  rw [List.length_replicate]
  decide

/-- A text frame with a 16-bit length. -/
def longGreeting : DataFrame where
  frame := {
    byte1 := 0x81
    form := .len16
    payload := List.replicate 126 0x61
    rsv := rsvClear_text
    fits := fits_long }
  key := 0
  data := by decide

end Sample

/-- A frame is read in three pieces, and a part of it is decoded. -/
theorem ws_segmentation_pieces :
    ForwardedAsOne Sample.config [] 0 (Sample.talker 6 0x0300000a 10) [Sample.textData]
        [[0x81], [0x82, 0, 0, 0], [0, 104, 105]] Sample.talkers ∧
      Conn.WaitsForInput { textConn Skb.zero with sk := { sk_init 7 0 with recvbuf := Skb.ofBytes [0x81] } } := by
  obtain ⟨pp2sk, hforwards, hsend⟩ := Sample.talkers_forward
  have hboth := @ws_segmentation_iff Sample.config [] _ _ _ _ _ [Sample.textData] [[0x81], [0x82, 0, 0, 0], [0, 104, 105]]
    hforwards rfl (by decide) (by decide +kernel) (by rw [hsend]; decide +kernel)
  constructor
  · exact hboth.1.mpr (by decide)
  · have hread : (Skb.ofBytes [0x81]).readable = [0x81] := Skb.readable_ofBytes (by decide)
    exact (hboth.2 _ Sample.textData [0x82, 0, 0, 0, 0, 104, 105] (Skb.ok_ofBytes (by decide))
      (by rw [hread]; decide) (by decide)).mpr (by rw [hread]; decide)

/-- A cut behind two bytes of the key of a frame with a 16-bit length. -/
theorem ws_key_cut_lost :
    ¬ ∀ (cfg : Config) (opens : List OpenResult) (w : World) (id p : Nat) (sk pp2sk : Sk) (frames : List DataFrame)
      (reads : List (List UInt8)), w.Forwards id p sk pp2sk → sk.recvbuf.readable = [] →
      reads.flatten = Framing.stream DataFrame.bytes frames → Receivable cfg opens id reads w →
      (forwarded sk frames).length ≤ skb_wrsz pp2sk.sendbuf →
      ∃ w', ws_reads cfg opens id reads w = .ok w' ∧ w'.unread id = [] ∧
        w'.queued = w.queued ++ forwarded sk frames := by
  intro hall
  obtain ⟨pp2sk, hforwards, hsend⟩ := Sample.talkers_forward
  obtain ⟨w', hreads, hunread, -⟩ := hall Sample.config [] Sample.talkers 0 2 _ pp2sk [Sample.longGreeting]
    [Sample.longGreeting.bytes.take 6, Sample.longGreeting.bytes.drop 6] hforwards rfl (by decide +kernel) (by decide +kernel)
    (by rw [hsend]; decide +kernel)
  have hleft : (ws_reads Sample.config [] 0 [Sample.longGreeting.bytes.take 6, Sample.longGreeting.bytes.drop 6]
      Sample.talkers).toOption.any (fun w => decide (w.unread 0 = [])) = false := by decide +kernel
  rw [hreads] at hleft
  simp [Except.toOption, hunread] at hleft

end wsd

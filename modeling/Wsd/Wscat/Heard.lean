import Wsd.Loops.Sync
import Wsd.Ws.Sent
import Wsd.Wscat.Segment
import Wsd.Wscat.Talk

namespace wsd

theorem Frame.unmasked_ne_nil (f : Frame) : f.unmasked ≠ [] := by
  intro hnil
  have hlen := f.length_unmasked
  rw [hnil, List.length_nil] at hlen
  omega

/-- The bytes start with a whole frame. -/
def Complete (bytes : List UInt8) : Prop :=
  ∃ (f : Frame) (rest : List UInt8), bytes = f.unmasked ++ rest

theorem not_complete_nil : ¬ Complete [] := by
  rintro ⟨f, rest, hbytes⟩
  exact f.unmasked_ne_nil (List.append_eq_nil_iff.mp hbytes.symm).1

/-- The frames which are heard in a byte string, and the bytes which are left: a data frame is taken as a whole,
    of a ping or pong frame the header only, and with a close frame more of what follows it. -/
inductive Hears : List UInt8 → List Frame → List UInt8 → Prop
  | stop (rest : List UInt8) : Hears rest [] rest
  | data {f : Frame} {bytes : List UInt8} {frames : List Frame} {rest : List UInt8} (hdata : IsData f.opcode)
      (h : Hears bytes frames rest) : Hears (f.unmasked ++ bytes) (f :: frames) rest
  | answered {f : Frame} {bytes : List UInt8} {frames : List Frame} {rest : List UInt8}
      (hanswered : f.opcode = WS_PING_FRAME ∨ f.opcode = WS_PONG_FRAME) (h : Hears (f.payload ++ bytes) frames rest) :
      Hears (f.unmasked ++ bytes) (f :: frames) rest
  | close {f : Frame} {behind bytes : List UInt8} {frames : List Frame} {rest : List UInt8}
      (hclose : f.opcode = WS_CLOSE_FRAME) (h : Hears bytes frames rest) :
      Hears (f.unmasked ++ (behind ++ bytes)) (f :: frames) rest

namespace Hears

variable {bytes mid rest rest' : List UInt8} {frames frames' : List Frame}

theorem append (h : Hears bytes frames rest) (more : List UInt8) : Hears (bytes ++ more) frames (rest ++ more) := by
  induction h with
  | stop rest => exact .stop _
  | data hdata h ih =>
    rw [List.append_assoc]
    exact .data hdata ih
  | answered hanswered h ih =>
    rw [List.append_assoc] at ih ⊢
    exact .answered hanswered ih
  | close hclose h ih =>
    rw [List.append_assoc, List.append_assoc]
    exact .close hclose ih

theorem trans (h : Hears bytes frames mid) (h' : Hears mid frames' rest) : Hears bytes (frames ++ frames') rest := by
  induction h with
  | stop rest => exact h'
  | data hdata h ih => exact .data hdata (ih h')
  | answered hanswered h ih => exact .answered hanswered (ih h')
  | close hclose h ih => exact .close hclose (ih h')

theorem nil (h : Hears bytes [] rest) : rest = bytes := by
  cases h
  rfl

/-- A frame which is heard is a data frame, a ping, a pong or a close frame. -/
theorem first {f : Frame} (h : Hears bytes (f :: frames) rest) : ∃ more left, bytes = f.unmasked ++ more ∧
    Hears left frames rest ∧ (IsData f.opcode → left = more) ∧
      (f.opcode = WS_PING_FRAME ∨ f.opcode = WS_PONG_FRAME → left = f.payload ++ more) ∧
      (IsData f.opcode ∨ f.opcode = WS_PING_FRAME ∨ f.opcode = WS_PONG_FRAME ∨ f.opcode = WS_CLOSE_FRAME) := by
  have hopcodes {opcode : UInt8} (hdata : IsData opcode) : ¬ (opcode = WS_PING_FRAME ∨ opcode = WS_PONG_FRAME) := by
    rintro (rfl | rfl)
    · exact absurd hdata (by decide)
    · exact absurd hdata (by decide)
  cases h with
  | data hdata h => exact ⟨_, _, rfl, h, fun _ => rfl, fun h => absurd h (hopcodes hdata), .inl hdata⟩
  | answered hanswered h =>
    exact ⟨_, _, rfl, h, fun hdata => absurd hanswered (hopcodes hdata), fun _ => rfl, .inr (hanswered.imp_right .inl)⟩
  | close hclose h =>
    refine ⟨_, _, rfl, h, fun hdata => ?_, fun hanswered => ?_, .inr (.inr (.inr hclose))⟩
    · rw [hclose] at hdata
      exact absurd hdata (by decide)
    · rw [hclose] at hanswered
      exact absurd hanswered (by decide)

/-- Nothing is heard in no bytes. -/
theorem of_nil (h : Hears [] frames rest) : frames = [] := by
  cases frames with
  | nil => rfl
  | cons f frames =>
    obtain ⟨more, -, hbytes, -⟩ := h.first
    exact absurd ⟨f, more, hbytes⟩ not_complete_nil

/-- A frame which is complete is the first one which is heard, unless nothing is heard at all. -/
theorem first_of_complete {f : Frame} {more : List UInt8} (h : Hears (f.unmasked ++ more) frames rest)
    (hrest : ¬ Complete rest) : ∃ frames1 left, frames = f :: frames1 ∧ Hears left frames1 rest ∧
      (IsData f.opcode → left = more) ∧
      (f.opcode = WS_PING_FRAME ∨ f.opcode = WS_PONG_FRAME → left = f.payload ++ more) := by
  cases frames with
  | nil =>
    obtain rfl := h.nil
    exact absurd ⟨f, more, rfl⟩ hrest
  | cons f' frames1 =>
    obtain ⟨more', left, hbytes, hmore, hdata, hanswered, -⟩ := h.first
    obtain ⟨rfl, rfl⟩ := Frame.unmasked_inj hbytes
    exact ⟨frames1, left, rfl, hmore, hdata, hanswered⟩

/-- What is heard without a close frame up to where no frame is complete is determined by the bytes. -/
theorem unique (h : Hears bytes frames rest) (h' : Hears bytes frames' rest') (hrest : ¬ Complete rest)
    (hrest' : ¬ Complete rest') (hopen : ∀ f ∈ frames, f.opcode ≠ WS_CLOSE_FRAME) :
    frames = frames' ∧ rest = rest' := by
  induction h generalizing frames' with
  | stop rest =>
    cases frames' with
    | nil => exact ⟨rfl, h'.nil.symm⟩
    | cons f frames' =>
      obtain ⟨more, -, hbytes, -⟩ := h'.first
      exact absurd ⟨f, more, hbytes⟩ hrest
  | data hdata h ih =>
    obtain ⟨frames1, left, rfl, hmore, hleft, -⟩ := h'.first_of_complete hrest'
    obtain rfl := hleft hdata
    obtain ⟨rfl, rfl⟩ := ih hmore hrest fun f hf => hopen f (List.mem_cons_of_mem _ hf)
    exact ⟨rfl, rfl⟩
  | answered hanswered h ih =>
    obtain ⟨frames1, left, rfl, hmore, -, hleft⟩ := h'.first_of_complete hrest'
    obtain rfl := hleft hanswered
    obtain ⟨rfl, rfl⟩ := ih hmore hrest fun f hf => hopen f (List.mem_cons_of_mem _ hf)
    exact ⟨rfl, rfl⟩
  | close hclose h ih => exact absurd hclose (hopen _ List.mem_cons_self)

/-- In a stream of data frames its first frames are heard. -/
theorem of_stream {items : List Frame} {more : List UInt8} (h : Hears bytes frames rest)
    (hdata : ∀ f ∈ items, IsData f.opcode) (hbytes : bytes ++ more = Framing.stream Frame.unmasked items) :
    ∃ left, items = frames ++ left ∧ rest ++ more = Framing.stream Frame.unmasked left := by
  have hfirst {f : Frame} {tail : List UInt8} {items : List Frame}
      (heq : f.unmasked ++ tail = Framing.stream Frame.unmasked items) :
      ∃ items', items = f :: items' ∧ tail = Framing.stream Frame.unmasked items' := by
    have hstream : Framing.stream Frame.unmasked [f] ++ tail = Framing.stream Frame.unmasked items := by
      rwa [Framing.stream_cons, Framing.stream_nil, List.append_nil]
    exact Framing.exists_left Frame.unmasked_ne_nil (fun _ _ _ _ => Frame.unmasked_inj) hstream
  induction h generalizing items with
  | stop rest => exact ⟨items, rfl, hbytes⟩
  | data hdata' h ih =>
    rw [List.append_assoc] at hbytes
    obtain ⟨items', rfl, htail⟩ := hfirst hbytes
    obtain ⟨left, rfl, hrest⟩ := ih (fun f hf => hdata f (List.mem_cons_of_mem _ hf)) htail
    exact ⟨left, rfl, hrest⟩
  | answered hanswered h ih =>
    rw [List.append_assoc] at hbytes
    obtain ⟨items', rfl, -⟩ := hfirst hbytes
    have hopcode := hdata _ List.mem_cons_self
    obtain hping | hpong := hanswered
    · rw [hping] at hopcode
      exact absurd hopcode (by decide)
    · rw [hpong] at hopcode
      exact absurd hopcode (by decide)
  | close hclose h ih =>
    rw [List.append_assoc] at hbytes
    obtain ⟨items', rfl, -⟩ := hfirst hbytes
    have hopcode := hdata _ List.mem_cons_self
    rw [hclose] at hopcode
    exact absurd hopcode (by decide)

end Hears

/-- What is printed of the frames which are heard. -/
def printedOf (frames : List Frame) : List UInt8 :=
  payloads (frames.filter fun f => IsData f.opcode)

theorem printedOf_append (frames frames' : List Frame) :
    printedOf (frames ++ frames') = printedOf frames ++ printedOf frames' := by
  rw [printedOf, List.filter_append, payloads_append]
  rfl

/-- A websocket has handled frames. Without -N a close frame is the last one, and the websocket is to be closed
    behind it. -/
structure Listens (no_handshake : Bool) (w : Wssk) (frames : List Frame) (w' : Wssk) : Prop where
  printed : w'.stdout.printed = w.stdout.printed ++ printedOf frames
  hears : Hears w.sk.recvbuf.readable frames w'.sk.recvbuf.readable
  recvbuf : w'.sk.recvbuf.Ok
  still : frames = [] → w' = w
  last : no_handshake = false → frames.Pairwise fun f _ => f.opcode ≠ WS_CLOSE_FRAME
  ended : no_handshake = false → ∀ f ∈ frames, f.opcode = WS_CLOSE_FRAME →
    w'.sk.recvbuf.readable = [] ∧ (w'.sk.close = true ∨ w'.sk.close_on_write = true)

namespace Listens

variable {no_handshake : Bool} {w w1 w' : Wssk} {frames frames' : List Frame}

theorem refl (hok : w.sk.recvbuf.Ok) : Listens no_handshake w [] w where
  printed := (List.append_nil _).symm
  hears := .stop _
  recvbuf := hok
  still _ := rfl
  last _ := .nil
  ended _ _ hf := by cases hf

theorem trans (h : Listens no_handshake w frames w1) (h' : Listens no_handshake w1 frames' w') :
    Listens no_handshake w (frames ++ frames') w' := by
  -- Nothing is heard behind a close frame.
  have hover (hshake : no_handshake = false) {f : Frame} (hf : f ∈ frames) (hclose : f.opcode = WS_CLOSE_FRAME) :
      frames' = [] := by
    have hhears := h'.hears
    rw [(h.ended hshake f hf hclose).1] at hhears
    exact hhears.of_nil
  refine ⟨?_, h.hears.trans h'.hears, h'.recvbuf, fun hnil => ?_, fun hshake => ?_, fun hshake f hf hclose => ?_⟩
  · rw [h'.printed, h.printed, List.append_assoc, printedOf_append]
  · obtain ⟨hfs, hgs⟩ := List.append_eq_nil_iff.mp hnil
    rw [h'.still hgs, h.still hfs]
  · refine List.pairwise_append.mpr ⟨h.last hshake, h'.last hshake, fun f hf g hg hclose => ?_⟩
    rw [hover hshake hf hclose] at hg
    cases hg
  · obtain hf | hf := List.mem_append.mp hf
    · obtain rfl := h'.still (hover hshake hf hclose)
      exact h.ended hshake f hf hclose
    · exact h'.ended hshake f hf hclose

end Listens

section Decode

variable {no_handshake : Bool} {w w' : Wssk} {f : Frame} {rest : List UInt8} {rv : Int}

theorem Listens.single (hprinted : w'.stdout.printed = w.stdout.printed ++ printedOf [f])
    (hhears : Hears w.sk.recvbuf.readable [f] w'.sk.recvbuf.readable) (hok : w'.sk.recvbuf.Ok)
    (hended : no_handshake = false → f.opcode = WS_CLOSE_FRAME →
      w'.sk.recvbuf.readable = [] ∧ (w'.sk.close = true ∨ w'.sk.close_on_write = true)) :
    Listens no_handshake w [f] w' where
  printed := hprinted
  hears := hhears
  recvbuf := hok
  still h := by cases h
  last _ := List.pairwise_singleton _ _
  ended hshake g hg hclose := by
    rw [List.mem_singleton.mp hg] at hclose
    exact hended hshake hclose

/-- A call of the decoder has failed: it prints nothing, and either waits for the rest of a frame or gives up. -/
def Fails (w w' : Wssk) : Prop :=
  w'.stdout = w.stdout ∧
    (w'.sk = w.sk ∧ w'.wsd_errno = .WSD_EINPUT ∧ ¬ Complete w.sk.recvbuf.readable ∨
      w'.wsd_errno = .WSD_ENOMEM ∨ w'.wsd_errno = .WSD_EBADREQ)

/-- A complete frame other than a data frame is handled, or the websocket gives up. -/
theorem wssk_ws_decode_opcode_listens {recvbuf : Skb} (hok : recvbuf.Ok) (hdata : ¬ IsData f.opcode)
    (hread : w.sk.recvbuf.readable = f.unmasked ++ rest) (hrest : recvbuf.readable = f.payload ++ rest)
    (h : wssk_ws_decode_opcode no_handshake (w.setRecvbuf recvbuf) f.byte1 f.payload.length = .ok (rv, w')) :
    rv = 0 ∧ Listens no_handshake w [f] w' ∨ rv = -1 ∧ Fails w w' := by
  have hopcode : OPCODE f.byte1 = f.opcode := rfl
  have hprinted : w.stdout.printed = w.stdout.printed ++ printedOf [f] := by
    simp [printedOf, hdata, payloads]
  have hclosed {b : Skb} (hclose : f.opcode = WS_CLOSE_FRAME) :
      Hears w.sk.recvbuf.readable [f] (skb_reset b).readable := by
    have hhears := @Hears.close f rest [] [] [] hclose (.stop [])
    rwa [hread, Skb.readable_reset, ← List.append_nil rest]
  have hanswered (h : f.opcode = WS_PING_FRAME ∨ f.opcode = WS_PONG_FRAME) :
      Hears w.sk.recvbuf.readable [f] (skb_compact recvbuf).readable := by
    rw [hread, hok.readable_compact, hrest]
    exact .answered h (.stop _)
  unfold wssk_ws_decode_opcode at h
  simp only [hopcode, if_neg hdata] at h
  by_cases hclose : f.opcode = WS_CLOSE_FRAME
  · rw [if_pos hclose] at h
    cases no_handshake with
    | true =>
      cases h
      exact .inl ⟨rfl, .single hprinted (hclosed hclose) (Skb.ok_reset _) fun hshake => by cases hshake⟩
    | false =>
      obtain ⟨⟨rv1, sk, e⟩, hfinish, hret⟩ := Except.bind_eq_ok_iff.mp h
      cases hret
      obtain ⟨b, ⟨rfl, -, -, rfl⟩ | ⟨rfl, -, -, status, sendbuf, -, rfl⟩ | ⟨rfl, he, -, -⟩⟩ :=
        ws_finish_closing_handshake_inv hfinish
      · exact .inl ⟨rfl, .single hprinted (hclosed hclose) (Skb.ok_reset _) fun _ _ => ⟨Skb.readable_reset _, .inl rfl⟩⟩
      · exact .inl ⟨rfl, .single hprinted (hclosed hclose) (Skb.ok_reset _) fun _ _ => ⟨Skb.readable_reset _, .inr rfl⟩⟩
      · exact .inr ⟨rfl, rfl, .inr (.inl he)⟩
  rw [if_neg hclose] at h
  by_cases hping : f.opcode = WS_PING_FRAME
  · rw [if_pos hping] at h
    obtain ⟨⟨rv1, sk, e⟩, hpong, hret⟩ := Except.bind_eq_ok_iff.mp h
    cases hret
    cases hproto : (w.setRecvbuf recvbuf).sk.proto.pong with
    | none =>
      have hnone : ((w.setRecvbuf recvbuf).setRecvbuf (skb_compact (w.setRecvbuf recvbuf).sk.recvbuf)).sk.proto.pong =
        none := hproto
      rw [hnone] at hpong
      cases hpong
    | some handler =>
      have hsome : ((w.setRecvbuf recvbuf).setRecvbuf (skb_compact (w.setRecvbuf recvbuf).sk.recvbuf)).sk.proto.pong =
        some handler := hproto
      rw [hsome] at hpong
      cases handler
      obtain ⟨-, ⟨rfl, -, sendbuf, rfl, -⟩ | ⟨rfl, he, -⟩⟩ := put_ping_pong_inv hpong
      · exact .inl ⟨rfl, .single hprinted (hanswered (.inl hping)) hok.compact fun _ hclose' => absurd hclose' hclose⟩
      · exact .inr ⟨rfl, rfl, .inr (.inl he)⟩
  rw [if_neg hping] at h
  by_cases hpong : f.opcode = WS_PONG_FRAME
  · rw [if_pos hpong] at h
    cases h
    exact .inl ⟨rfl, .single hprinted (hanswered (.inr hpong)) hok.compact fun _ hclose' => absurd hclose' hclose⟩
  · rw [if_neg hpong] at h
    cases h
    exact .inr ⟨rfl, rfl, .inr (.inr rfl)⟩

/-- Without a complete frame the decoder waits or gives up. -/
theorem wssk_ws_decode_frame_incomplete (hok : w.sk.recvbuf.Ok) (hpart : ¬ Complete w.sk.recvbuf.readable) :
    ∃ w', wssk_ws_decode_frame no_handshake w = .ok (-1, w') ∧ Fails w w' := by
  have hlen := hok.length_readable_eq
  have hwaits : Fails w { w with wsd_errno := .WSD_EINPUT } := ⟨rfl, .inl ⟨rfl, rfl, hpart⟩⟩
  have hgives : Fails w { w with wsd_errno := .WSD_EBADREQ } := ⟨rfl, .inr (.inr rfl)⟩
  rcases hread : w.sk.recvbuf.readable with _ | ⟨byte1, _ | ⟨byte2, rest⟩⟩
  · rw [hread, List.length_nil] at hlen
    exact ⟨_, wssk_ws_decode_frame_short (by omega), hwaits⟩
  · rw [hread, List.length_singleton] at hlen
    exact ⟨_, wssk_ws_decode_frame_short (by omega), hwaits⟩
  · by_cases hheader : RsvClear byte1 ∧ MASK_BIT byte2 = 0
    · obtain ⟨hrsv, hmask⟩ := hheader
      by_cases hcut : LenCut w.sk.recvbuf.readable
      · exact ⟨_, wssk_ws_decode_frame_lenCut hok hcut, hgives⟩
      have henough : extLenOf byte2 ≤ rest.length := by
        by_contra hless
        have hlt := payload_len_lt byte2
        refine hcut ⟨byte1, byte2, rest, hread, hrsv, hmask, ?_⟩
        unfold extLenOf at hless
        split at hless
        · omega
        · split at hless <;> omega
      obtain ⟨form, len, body, hfits, hcode, hbytes⟩ := exists_unmaskedHeader hmask henough
      by_cases hbody : len ≤ body.length
      · obtain ⟨f, hf, -⟩ := unmaskedHeader_complete hrsv hfits hbody
        exact absurd ⟨f, body.drop len, hread.trans (hbytes.trans hf)⟩ hpart
      by_cases hlarge : SKB_SIZE < len
      · exact ⟨_, wssk_ws_decode_frame_large hok hrsv hfits hlarge (hread.trans hbytes), hgives⟩
      · -- Any payload of the declared length stands for the one which is cut.
        have hreplicate : (List.replicate len (0 : UInt8)).length = len := List.length_replicate
        have hcall := @wssk_ws_decode_frame_payloadCut no_handshake w
          ⟨byte1, form, List.replicate len 0, hrsv, by rwa [hreplicate]⟩ hok body
          (by simpa using Nat.le_of_not_lt hlarge) (by simpa [Frame.header, unmaskedHeader] using hread.trans hbytes)
          (by simpa using hbody)
        exact ⟨_, hcall, hwaits⟩
    · have hsize : ¬ skb_rdsz w.sk.recvbuf < WS_UNMASKED_FRAME_LEN := by
        rw [← hlen, hread]
        simp only [List.length_cons, WS_UNMASKED_FRAME_LEN]
        omega
      obtain ⟨b1, b2, hget1, hget2, -⟩ := hok.get_header hread
      refine ⟨{ w.setRecvbuf b2 with wsd_errno := .WSD_EBADREQ }, ?_, rfl, .inr (.inr rfl)⟩
      unfold wssk_ws_decode_frame
      rw [if_neg hsize]
      simp only [hget1, hget2, if_pos ((unmasked_check_iff byte1 byte2).mpr hheader)]
      rfl

/-- One call of the decoder hears a frame or fails. -/
theorem wssk_ws_decode_frame_listens (hok : w.sk.recvbuf.Ok) (h : wssk_ws_decode_frame no_handshake w = .ok (rv, w')) :
    (∃ f, rv = 0 ∧ Listens no_handshake w [f] w') ∨ rv = -1 ∧ Fails w w' := by
  by_cases hwhole : Complete w.sk.recvbuf.readable
  · obtain ⟨f, rest, hread⟩ := hwhole
    by_cases hdata : IsData f.opcode
    · cases hflush : w.stdout.broken with
      | true => exact absurd h (wssk_ws_decode_frame_broken hok hflush hdata hread)
      | false =>
        obtain ⟨recvbuf, hcall, hok', hrest, -⟩ := @wssk_ws_decode_frame_data no_handshake _ _ _ hok hflush hdata hread
        cases hcall.symm.trans h
        refine .inl ⟨f, rfl, .single ?_ ?_ hok' fun _ hclose => ?_⟩
        · simp [printedOf, hdata, payloads]
        · rw [hread, ← hrest]
          exact .data hdata (.stop _)
        · rw [hclose] at hdata
          exact absurd hdata (by decide)
    · obtain ⟨recvbuf, hcall, hok', hrest, -⟩ := @wssk_ws_decode_frame_unmasked no_handshake _ _ _ hok hread
      obtain hdone | hfailed := wssk_ws_decode_opcode_listens hok' hdata hread hrest (hcall.symm.trans h)
      · exact .inl ⟨f, hdone⟩
      · exact .inr hfailed
  · obtain ⟨w1, hcall, hfails⟩ := @wssk_ws_decode_frame_incomplete no_handshake _ hok hwhole
    cases hcall.symm.trans h
    exact .inr ⟨rfl, hfails⟩

/-- The loop hears frames until a call fails. -/
theorem wssk_decode_loop_listens {fuel n n' : Nat} (hok : w.sk.recvbuf.Ok)
    (h : wssk_decode_loop no_handshake fuel n w = .ok (rv, n', w')) :
    rv = -1 ∧ ∃ frames w1, Listens no_handshake w frames w1 ∧ Fails w1 w' := by
  induction fuel generalizing n w with
  | zero => cases h
  | succ fuel ih =>
    obtain ⟨⟨rv1, w1⟩, hframe, h⟩ := Except.bind_eq_ok_iff.mp h
    obtain ⟨f, rfl, hlistens⟩ | ⟨rfl, hfails⟩ := wssk_ws_decode_frame_listens hok hframe
    · simp only [if_true] at h
      obtain ⟨hrv, frames, w2, hmore, hfails⟩ := ih hlistens.recvbuf h
      exact ⟨hrv, _, w2, hlistens.trans hmore, hfails⟩
    · simp only [show ¬ (-1 : Int) = 0 by decide, if_false] at h
      cases h
      exact ⟨rfl, [], w, .refl hok, hfails⟩

/-- The receive loop hears frames until a call fails, and then changes events only. -/
theorem wssk_ws_recv_listens (hok : w.sk.recvbuf.Ok) (h : wssk_ws_recv no_handshake w = .ok (rv, w')) :
    rv = -1 ∧ ∃ frames w1 w2 events, Listens no_handshake w frames w1 ∧ Fails w1 w2 ∧
      w' = { w2 with sk := { w2.sk with events } } := by
  obtain ⟨_, -, h⟩ := Except.bind_eq_ok_iff.mp h
  obtain ⟨⟨rv1, n, w2⟩, hloop, hret⟩ := Except.bind_eq_ok_iff.mp h
  obtain ⟨hrv, frames, w1, hlistens, hfails⟩ := wssk_decode_loop_listens hok hloop
  cases hret
  obtain ⟨events, hleave⟩ := wssk_ws_recv_leave_same n w2.sk
  exact ⟨hrv, frames, w1, w2, events, hlistens, hfails, by rw [hleave]⟩

end Decode

end wsd

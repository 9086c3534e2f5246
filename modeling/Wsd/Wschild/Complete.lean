import Wsd.Pp2.Item
import Wsd.Wschild.Inversion

namespace wsd

/-- A read of the backend's socket delivers bytes, and `pp2_recv` runs. -/
def pp2_read (id : Nat) (bytes : List UInt8) (w : World) : Except Fault World := do
  let sk ← w.deref id
  let (_, sk, wsd_errno) ← sk_read (.ok bytes) sk w.wsd_errno
  let (_, w) ← pp2_recv { w.set id sk with wsd_errno } id
  return w

/-- Successive reads. -/
def pp2_reads (id : Nat) : List (List UInt8) → World → Except Fault World
  | [], w => .ok w
  | bytes :: reads, w => do
    let w ← pp2_read id bytes w
    pp2_reads id reads w

/-- The backend's socket is open and delivers the given bytes. -/
structure World.Receives (w : World) (id : Nat) (sk : Sk) : Prop where
  pp2sk : w.pp2sk = some (id, sk)
  decode_frame : sk.proto.decode_frame = some .pp2_decode_frame
  fd : 0 ≤ sk.fd
  recvbuf : sk.recvbuf.Ok

/-- Each read delivers at least one byte and no more than there is room for. -/
def Deliverable (id : Nat) : List (List UInt8) → World → Prop
  | [], _ => True
  | bytes :: reads, w => bytes ≠ [] ∧ (∀ p ∈ w.pp2sk, bytes.length ≤ skb_wrsz p.2.recvbuf) ∧
    ∀ w', pp2_read id bytes w = .ok w' → Deliverable id reads w'

/-- What `pp2_recv` leaves: a proper part of a frame, or a frame without a payload. -/
def Stops (left : List Pp2Item) (part : List UInt8) : Prop :=
  (∀ f ∈ left.head?, part.length < f.bytes.length) ∨ ∃ f ∈ left.head?, part = f.bytes ∧ f.payload = []

/-- The bucket of each frame which the bytes hold as a whole is one of the hash table's. -/
def CompleteNear (frames : List Pp2Item) (bytes : List UInt8) : Prop :=
  ∀ done f left, frames = done ++ f :: left → Framing.stream Pp2Item.bytes (done ++ [f]) <+: bytes →
    hash_min f.hash < HASH_SIZE

/-- The bytes end behind a frame without a payload. -/
def EndsEmpty (frames : List Pp2Item) (bytes : List UInt8) : Prop :=
  ∃ done f left, frames = done ++ f :: left ∧ bytes = Framing.stream Pp2Item.bytes (done ++ [f]) ∧ f.payload = []

section Loop

variable {w : World} {id : Nat} {sk : Sk} {left served : List Pp2Item}

/-- One call of the handler in the world's terms. -/
theorem World.Receives.decode_frame_eq (h : w.Receives id sk) : wsd.decode_frame w id = do
    let (rv, m) ← pp2_decode_frame
      { clients := w.clients, sk_hash := w.sk_hash, pp2sk := sk, wsd_errno := w.wsd_errno }
    return (rv, w.setMux m) := by
  unfold wsd.decode_frame
  rw [World.deref_of_get (World.get_backend h.pp2sk)]
  simp only [Except.ok_bind, h.decode_frame, World.mux, h.pp2sk]

/-- The loop consumes the complete frames, the last of which has a payload or is not the
    last of the bytes. -/
theorem decode_loop_items {done : List Pp2Item} {part : List UInt8} {fuel frames : Nat} (h : w.Receives id sk)
    (hserves : Serves w.clients w.sk_hash (done ++ served))
    (hread : sk.recvbuf.readable = Framing.stream Pp2Item.bytes done ++ part)
    (hlast : ∀ f ∈ done.getLast?, f.payload = [] → part ≠ []) (hfuel : done.length ≤ fuel) :
    ∃ w' sk', decode_loop id (fuel + 1) frames w =
        decode_loop id (fuel - done.length + 1) (frames + done.length) w' ∧
      w'.Receives id sk' ∧ sk'.recvbuf.readable = part ∧ Serves w'.clients w'.sk_hash served := by
  induction done generalizing w sk fuel frames with
  | nil => exact ⟨w, sk, rfl, h, hread, hserves⟩
  | cons f done ih =>
    obtain ⟨fuel, rfl⟩ : ∃ fuel', fuel = fuel' + 1 := ⟨fuel - 1, by simp only [List.length_cons] at hfuel; omega⟩
    rw [Framing.stream_cons, List.append_assoc] at hread
    have hne : f.payload ++ (Framing.stream Pp2Item.bytes done ++ part) ≠ [] := by
      intro hnil
      obtain ⟨hpayload, htail⟩ := List.append_eq_nil_iff.mp hnil
      obtain ⟨hdone, hpart⟩ := List.append_eq_nil_iff.mp htail
      cases done with
      | nil => exact hlast f rfl hpayload hpart
      | cons g done =>
        have hlen := congrArg List.length hdone
        rw [Framing.stream_cons, List.length_append, g.length_bytes, List.length_nil] at hlen
        have hheader : PP2_HEADER_LEN = 46 := rfl
        omega
    obtain ⟨clients, recvbuf, hdecode, hok, hrest, hserves'⟩ := @pp2_decode_frame_item
      { clients := w.clients, sk_hash := w.sk_hash, pp2sk := sk, wsd_errno := w.wsd_errno } f _ (done ++ served)
      h.recvbuf hread hne hserves
    have hnext : (w.setMux { clients, sk_hash := w.sk_hash, pp2sk := { sk with recvbuf }, wsd_errno := w.wsd_errno })
        |>.Receives id { sk with recvbuf } :=
      ⟨by simp [World.setMux, h.pp2sk], h.decode_frame, h.fd, hok⟩
    have hlast' : ∀ g ∈ done.getLast?, g.payload = [] → part ≠ [] := by
      intro g hg
      apply hlast g
      cases done with
      | nil => cases hg
      | cons g' done => rwa [List.getLast?_cons_cons]
    obtain ⟨w', sk', hloop, hreceives, hpart, hleft⟩ := @ih _ _ fuel (frames + 1) hnext hserves' hrest hlast'
      (by simp only [List.length_cons] at hfuel; omega)
    refine ⟨w', sk', ?_, hreceives, hpart, hleft⟩
    rw [decode_loop, h.decode_frame_eq, hdecode]
    simp only [Except.ok_bind, Except.pure_eq_ok, if_true]
    rw [hloop, List.length_cons]
    congr 1 <;> omega

/-- The loop ends at a complete frame whose bucket is none of the table's. -/
theorem decode_loop_far {f : Pp2Item} {rest : List UInt8} {fuel frames : Nat} (h : w.Receives id sk)
    (hread : sk.recvbuf.readable = f.bytes ++ rest) (hne : f.payload ++ rest ≠ [])
    (hhash : f.hash.toNat < 9223372036854775808) (hfar : ¬ hash_min f.hash < HASH_SIZE) :
    decode_loop id (fuel + 1) frames w = .error .out_of_bounds := by
  have hdecode := pp2_decode_frame_item_far
    (m := { clients := w.clients, sk_hash := w.sk_hash, pp2sk := sk, wsd_errno := w.wsd_errno }) h.recvbuf hread hne
    hhash hfar
  rw [decode_loop, h.decode_frame_eq, hdecode]
  rfl

/-- The loop stops at a proper part of a frame, and at a frame without a payload which
    is the last of the bytes. -/
theorem decode_loop_stop {rest : List UInt8} {fuel frames : Nat} (h : w.Receives id sk)
    (hread : sk.recvbuf.readable ++ rest = Framing.stream Pp2Item.bytes left)
    (hstop : Stops left sk.recvbuf.readable) :
    ∃ wsd_errno, decode_loop id (fuel + 1) frames w = .ok (-1, frames, { w with wsd_errno }) := by
  have hend {wsd_errno : Errno} (hdecode : pp2_decode_frame
      { clients := w.clients, sk_hash := w.sk_hash, pp2sk := sk, wsd_errno := w.wsd_errno } =
      .ok (-1, { clients := w.clients, sk_hash := w.sk_hash, pp2sk := sk, wsd_errno })) :
      ∃ wsd_errno, decode_loop id (fuel + 1) frames w = .ok (-1, frames, { w with wsd_errno }) := by
    refine ⟨wsd_errno, ?_⟩
    have hworld : w.setMux { clients := w.clients, sk_hash := w.sk_hash, pp2sk := sk, wsd_errno } =
        { w with wsd_errno } := by
      simp [World.setMux, h.pp2sk]
    rw [decode_loop, h.decode_frame_eq, hdecode]
    simp only [Except.ok_bind, Except.pure_eq_ok, hworld, show ¬ (-1 : Int) = 0 by decide, if_false]
  obtain hproper | ⟨f, hf, hframe, hempty⟩ := hstop
  · cases left with
    | nil =>
      obtain ⟨hnil, -⟩ := List.append_eq_nil_iff.mp hread
      refine hend (pp2_decode_frame_short ?_)
      rw [← h.recvbuf.length_readable_eq, hnil]
      exact Nat.zero_le _
    | cons f left =>
      have hlen := hproper f rfl
      obtain ⟨more, hmore⟩ : ∃ more, sk.recvbuf.readable ++ more = f.bytes := by
        have htake := congrArg (List.take sk.recvbuf.readable.length) hread
        rw [List.take_left, Framing.stream_cons, List.take_append_of_le_length (Nat.le_of_lt hlen)] at htake
        exact ⟨f.bytes.drop sk.recvbuf.readable.length, by
          conv => lhs; arg 1; rw [htake]
          exact List.take_append_drop ..⟩
      have hne : more ≠ [] := by
        rintro rfl
        rw [List.append_nil] at hmore
        rw [hmore] at hlen
        omega
      obtain ⟨e, hdecode⟩ := @pp2_decode_frame_cut
        { clients := w.clients, sk_hash := w.sk_hash, pp2sk := sk, wsd_errno := w.wsd_errno } f more h.recvbuf hmore hne
      exact hend hdecode
  · refine hend (pp2_decode_frame_short ?_)
    change skb_rdsz sk.recvbuf ≤ _
    rw [← h.recvbuf.length_readable_eq, hframe, f.length_bytes, hempty]
    exact Nat.le_refl _

theorem pp2_recv_eq (h : w.Receives id sk) (hne : sk.recvbuf.readable ≠ []) : pp2_recv w id = do
    let (rv, frames, w) ← decode_loop id (skb_rdsz sk.recvbuf + 1) 0 w
    let sk ← w.deref id
    return (rv, w.set id (pp2_recv_leave frames sk)) := by
  have hget := World.get_backend h.pp2sk
  have hrdsz : skb_rdsz sk.recvbuf ≠ 0 := fun hzero => hne (h.recvbuf.readable_eq_nil_iff.mpr hzero)
  unfold pp2_recv pp2_recv_enter
  rw [World.deref_of_get hget]
  simp only [Except.ok_bind, ne_eq, hrdsz, not_false_eq_true, decide_true, assert_true, h.pp2sk, Option.isSome_some]
  rw [recv_fuel, hget]

/-- Complete frames are no more than the bytes which are readable. -/
theorem length_le_rdsz {done : List Pp2Item} {part : List UInt8} (hok : sk.recvbuf.Ok)
    (hread : sk.recvbuf.readable = Framing.stream Pp2Item.bytes done ++ part) : done.length ≤ skb_rdsz sk.recvbuf := by
  have hle : done.length ≤ (Framing.stream Pp2Item.bytes done).length :=
    Framing.length_le_stream (fun f => by rw [f.length_bytes]; exact Nat.le_add_right_of_le (by decide)) done
  rw [← hok.length_readable_eq, hread, List.length_append]
  omega

/-- `pp2_recv` consumes the complete frames but a last one without a payload. -/
theorem pp2_recv_items {done : List Pp2Item} {part rest : List UInt8} (h : w.Receives id sk)
    (hserves : Serves w.clients w.sk_hash (done ++ served))
    (hread : sk.recvbuf.readable = Framing.stream Pp2Item.bytes done ++ part) (hne : sk.recvbuf.readable ≠ [])
    (hlast : ∀ f ∈ done.getLast?, f.payload = [] → part ≠ [])
    (hrest : part ++ rest = Framing.stream Pp2Item.bytes left) (hstop : Stops left part) :
    ∃ w' sk', pp2_recv w id = .ok (-1, w') ∧ w'.Receives id sk' ∧ sk'.recvbuf.readable = part ∧
      Serves w'.clients w'.sk_hash served := by
  have hfuel := length_le_rdsz h.recvbuf hread
  obtain ⟨w1, sk1, hloop, h1, hpart, hleft⟩ := @decode_loop_items _ _ _ served _ _ (skb_rdsz sk.recvbuf) 0 h hserves
    hread hlast hfuel
  obtain ⟨e, hend⟩ := @decode_loop_stop _ _ _ left rest (skb_rdsz sk.recvbuf - done.length) (0 + done.length) h1
    (by rw [hpart]; exact hrest) (by rw [hpart]; exact hstop)
  obtain ⟨events, hleave⟩ := pp2_recv_leave_eq (0 + done.length) sk1
  have hset : World.set { w1 with wsd_errno := e } id { sk1 with events } =
      { w1 with wsd_errno := e, pp2sk := some (id, { sk1 with events }) } :=
    World.set_backend (w := { w1 with wsd_errno := e }) h1.pp2sk
  refine ⟨{ w1 with wsd_errno := e, pp2sk := some (id, { sk1 with events }) }, { sk1 with events }, ?_,
    ⟨rfl, h1.decode_frame, h1.fd, h1.recvbuf⟩, hpart, hleft⟩
  rw [pp2_recv_eq h hne, hloop, hend]
  simp only [Except.ok_bind]
  rw [World.deref_of_get (World.get_backend (w := { w1 with wsd_errno := e }) h1.pp2sk)]
  simp only [Except.ok_bind, hleave, hset, Except.pure_eq_ok]

/-- `pp2_recv` reads behind the table at the first complete frame whose bucket is not in it,
    if a byte follows its header. -/
theorem pp2_recv_far {done : List Pp2Item} {f : Pp2Item} {rest : List UInt8} (h : w.Receives id sk)
    (hserves : Serves w.clients w.sk_hash (done ++ served))
    (hread : sk.recvbuf.readable = Framing.stream Pp2Item.bytes done ++ (f.bytes ++ rest))
    (hmore : f.payload ++ rest ≠ []) (hhash : f.hash.toNat < 9223372036854775808)
    (hfar : ¬ hash_min f.hash < HASH_SIZE) : pp2_recv w id = .error .out_of_bounds := by
  have hbytes : f.bytes ++ rest ≠ [] := by
    intro hnil
    have hlen := congrArg List.length (List.append_eq_nil_iff.mp hnil).1
    have hheader : PP2_HEADER_LEN = 46 := rfl
    rw [f.length_bytes, List.length_nil] at hlen
    omega
  have hne : sk.recvbuf.readable ≠ [] := by
    rw [hread]
    exact fun hnil => hbytes (List.append_eq_nil_iff.mp hnil).2
  obtain ⟨w1, sk1, hloop, h1, hpart, -⟩ := @decode_loop_items _ _ _ served _ _ (skb_rdsz sk.recvbuf) 0 h hserves
    hread (fun _ _ _ => hbytes) (length_le_rdsz h.recvbuf hread)
  rw [pp2_recv_eq h hne, hloop, decode_loop_far h1 hpart hmore hhash hfar]
  rfl

/-- A read puts the bytes into the receive buffer and runs `pp2_recv`. -/
theorem pp2_read_eq {bytes : List UInt8} (h : w.Receives id sk) (hne : bytes ≠ [])
    (hroom : bytes.length ≤ skb_wrsz sk.recvbuf) :
    pp2_read id bytes w = (do
        let (_, w) ← pp2_recv { w with pp2sk := some (id, { sk with recvbuf := skb_put sk.recvbuf bytes }) } id
        return w) ∧
      World.Receives { w with pp2sk := some (id, { sk with recvbuf := skb_put sk.recvbuf bytes }) } id
        { sk with recvbuf := skb_put sk.recvbuf bytes } := by
  refine ⟨?_, rfl, h.decode_frame, h.fd, h.recvbuf.put hroom⟩
  unfold pp2_read
  rw [World.deref_of_get (World.get_backend h.pp2sk)]
  simp only [Except.ok_bind]
  rw [sk_read_ok h.fd hne hroom]
  simp only [Except.ok_bind, World.set_backend h.pp2sk]

/-- A part of the stream is a sequence of frames and what `pp2_recv` leaves behind them. -/
theorem exists_stops {part rest : List UInt8} (hread : part ++ rest = Framing.stream Pp2Item.bytes left) :
    ∃ done left' stop, left = done ++ left' ∧ part = Framing.stream Pp2Item.bytes done ++ stop ∧
      stop ++ rest = Framing.stream Pp2Item.bytes left' ∧ Stops left' stop ∧
      ∀ f ∈ done.getLast?, f.payload = [] → stop ≠ [] := by
  obtain ⟨done, left', hitems, hpart, hrest, hshort⟩ := Framing.exists_split hread
  generalize Framing.leftover Pp2Item.bytes left part = stop at *
  by_cases hlast : ∀ f ∈ done.getLast?, f.payload = [] → stop ≠ []
  · exact ⟨done, left', stop, hitems, hpart, hrest, Or.inl hshort, hlast⟩
  · -- the last complete frame has no payload and is not followed by a byte
    push Not at hlast
    obtain ⟨f, hf, hempty, rfl⟩ := hlast
    obtain ⟨done, rfl⟩ := List.getLast?_eq_some_iff.mp hf
    refine ⟨done, f :: left', f.bytes, by rw [hitems]; simp, ?_, ?_, Or.inr ⟨f, rfl, rfl, hempty⟩, ?_⟩
    · rw [hpart, Framing.stream_append]
      simp
    · rw [Framing.stream_cons]
      rw [List.nil_append] at hrest
      rw [hrest]
    · intro _ _ _ hnil
      have hlen := f.length_bytes
      rw [hnil, List.length_nil] at hlen
      have hheader : PP2_HEADER_LEN = 46 := rfl
      omega

/-- The frames whose bucket is one of the table's. -/
def nearItems (frames : List Pp2Item) : List Pp2Item :=
  frames.filter fun f => hash_min f.hash < HASH_SIZE

theorem nearItems_append {done : List Pp2Item} (h : ∀ f ∈ done, hash_min f.hash < HASH_SIZE) (left : List Pp2Item) :
    nearItems (done ++ left) = done ++ nearItems left := by
  rw [nearItems, List.filter_append, List.filter_eq_self.mpr (by simpa using h)]
  rfl

/-- The first frame whose bucket is none of the table's. -/
theorem exists_first_far {frames : List Pp2Item} (h : ¬ ∀ f ∈ frames, hash_min f.hash < HASH_SIZE) :
    ∃ done f left, frames = done ++ f :: left ∧ (∀ g ∈ done, hash_min g.hash < HASH_SIZE) ∧
      ¬ hash_min f.hash < HASH_SIZE := by
  induction frames with
  | nil => exact absurd (by simp) h
  | cons g frames ih =>
    by_cases hg : hash_min g.hash < HASH_SIZE
    · obtain ⟨done, f, left, rfl, hdone, hfar⟩ := ih fun hall => h (List.forall_mem_cons.mpr ⟨hg, hall⟩)
      exact ⟨g :: done, f, left, rfl, List.forall_mem_cons.mpr ⟨hg, hdone⟩, hfar⟩
    · exact ⟨[], g, frames, rfl, by simp, hg⟩

/-- One read: either all complete frames are consumed and what is left is a proper part of
    a frame, or a frame without a payload, or one of them is read behind the table. -/
theorem pp2_read_items {bytes rest : List UInt8} (h : w.Receives id sk)
    (hserves : Serves w.clients w.sk_hash (nearItems left)) (hhash : ∀ f ∈ left, f.hash.toNat < 9223372036854775808)
    (hne : bytes ≠ []) (hroom : bytes.length ≤ skb_wrsz sk.recvbuf)
    (hread : (sk.recvbuf.readable ++ bytes) ++ rest = Framing.stream Pp2Item.bytes left) :
    (∃ done left' w' sk', left = done ++ left' ∧ (∀ f ∈ done, hash_min f.hash < HASH_SIZE) ∧
      pp2_read id bytes w = .ok w' ∧ w'.Receives id sk' ∧
      sk.recvbuf.readable ++ bytes = Framing.stream Pp2Item.bytes done ++ sk'.recvbuf.readable ∧
      sk'.recvbuf.readable ++ rest = Framing.stream Pp2Item.bytes left' ∧ Serves w'.clients w'.sk_hash (nearItems left') ∧
      Stops left' sk'.recvbuf.readable ∧ ∀ f ∈ done.getLast?, f.payload = [] → sk'.recvbuf.readable ≠ []) ∨
    (pp2_read id bytes w = .error .out_of_bounds ∧ ¬ CompleteNear left (sk.recvbuf.readable ++ bytes)) := by
  obtain ⟨done, left', part, hitems, hpart, hrest, hstop, hlast⟩ := exists_stops hread
  obtain ⟨hpp2_read, h1⟩ := pp2_read_eq h hne hroom
  have hreadput := h.recvbuf.readable_put hroom
  by_cases hdone : ∀ f ∈ done, hash_min f.hash < HASH_SIZE
  · rw [hitems, nearItems_append hdone] at hserves
    obtain ⟨w', sk', hrecv, hreceives, hpart', hserves'⟩ := @pp2_recv_items _ _ _ left' (nearItems left') done part rest h1
      hserves (hreadput.trans hpart) (by rw [hreadput]; simp [hne]) hlast hrest hstop
    refine Or.inl ⟨done, left', w', sk', hitems, hdone, ?_, hreceives, by rw [hpart']; exact hpart,
      by rw [hpart']; exact hrest, hserves', by rw [hpart']; exact hstop, by rw [hpart']; exact hlast⟩
    rw [hpp2_read, hrecv]
    rfl
  · obtain ⟨pre, f, post, rfl, hpre, hfar⟩ := exists_first_far hdone
    have hsplit : sk.recvbuf.readable ++ bytes =
        Framing.stream Pp2Item.bytes pre ++ (f.bytes ++ (Framing.stream Pp2Item.bytes post ++ part)) := by
      rw [hpart, Framing.stream_append, Framing.stream_cons, List.append_assoc, List.append_assoc]
    have hmore : f.payload ++ (Framing.stream Pp2Item.bytes post ++ part) ≠ [] := by
      intro hnil
      obtain ⟨hpayload, htail⟩ := List.append_eq_nil_iff.mp hnil
      obtain ⟨hpost, hpart0⟩ := List.append_eq_nil_iff.mp htail
      cases post with
      | nil => exact hlast f (by simp) hpayload hpart0
      | cons g post =>
        have hlen := congrArg List.length hpost
        have hheader : PP2_HEADER_LEN = 46 := rfl
        rw [Framing.stream_cons, List.length_append, g.length_bytes, List.length_nil] at hlen
        omega
    have hall : left = pre ++ f :: (post ++ left') := by
      rw [hitems]
      simp
    rw [hall, nearItems_append hpre] at hserves
    refine Or.inr ⟨?_, fun hcomplete => hfar (hcomplete pre f (post ++ left') hall ?_)⟩
    · rw [hpp2_read, pp2_recv_far h1 hserves (hreadput.trans hsplit) hmore (hhash f (by rw [hall]; simp)) hfar]
      rfl
    · refine ⟨Framing.stream Pp2Item.bytes post ++ part, ?_⟩
      rw [hsplit, Framing.stream_append, Framing.stream_cons, Framing.stream_nil, List.append_nil, List.append_assoc]

theorem CompleteNear.mono {part more : List UInt8} (h : CompleteNear left (part ++ more)) : CompleteNear left part :=
  fun done f left' hitems hcomplete => h done f left' hitems (hcomplete.trans (List.prefix_append part more))

theorem CompleteNear.tail {done : List Pp2Item} {part : List UInt8}
    (h : CompleteNear (done ++ left) (Framing.stream Pp2Item.bytes done ++ part)) : CompleteNear left part := by
  intro pre f left' hitems hcomplete
  refine h (done ++ pre) f left' (by rw [hitems, List.append_assoc]) ?_
  rw [List.append_assoc, Framing.stream_append]
  exact (List.prefix_append_right_inj _).mpr hcomplete

/-- Behind frames of the table's buckets a proper part of the next frame holds no complete one. -/
theorem completeNear_of_part {done : List Pp2Item} {part : List UInt8}
    (hdone : ∀ f ∈ done, hash_min f.hash < HASH_SIZE) (hpart : ∀ f ∈ left.head?, part.length < f.bytes.length) :
    CompleteNear (done ++ left) (Framing.stream Pp2Item.bytes done ++ part) := by
  intro pre f left' hitems hcomplete
  obtain ⟨mid, rfl, hleft⟩ | ⟨mid, rfl, hleft⟩ := List.append_eq_append_iff.mp hitems
  · -- the frame would lie in the part
    have hle := hcomplete.length_le
    rw [List.append_assoc, Framing.stream_append, List.length_append, List.length_append, Framing.stream_append,
      List.length_append, Framing.stream_cons, Framing.stream_nil, List.append_nil] at hle
    cases mid with
    | nil =>
      have hlt := hpart f (by rw [hleft]; rfl)
      omega
    | cons g mid =>
      have hlt := hpart g (by rw [hleft]; rfl)
      rw [Framing.stream_cons, List.length_append] at hle
      omega
  · cases mid with
    | nil =>
      have hle := hcomplete.length_le
      have hlt := hpart f (by rw [← List.nil_append left, ← hleft]; rfl)
      simp only [List.append_nil, Framing.stream_append, Framing.stream_cons, Framing.stream_nil, List.length_append] at hle
      omega
    | cons g mid =>
      cases hleft
      exact hdone f (by simp)

/-- After any reads the frames which are consumed are followed by what `pp2_recv` leaves,
    or a complete one has been read behind the table. -/
theorem pp2_reads_items {reads : List (List UInt8)} {rest : List UInt8} (h : w.Receives id sk)
    (hserves : Serves w.clients w.sk_hash (nearItems left)) (hhash : ∀ f ∈ left, f.hash.toNat < 9223372036854775808)
    (hkernel : Deliverable id reads w)
    (hread : (sk.recvbuf.readable ++ reads.flatten) ++ rest = Framing.stream Pp2Item.bytes left)
    (hstop : Stops left sk.recvbuf.readable) :
    (∃ done left' w' sk', left = done ++ left' ∧ (∀ f ∈ done, hash_min f.hash < HASH_SIZE) ∧
      pp2_reads id reads w = .ok w' ∧ w'.Receives id sk' ∧
      sk.recvbuf.readable ++ reads.flatten = Framing.stream Pp2Item.bytes done ++ sk'.recvbuf.readable ∧
      Stops left' sk'.recvbuf.readable ∧ ∀ f ∈ done.getLast?, f.payload = [] → sk'.recvbuf.readable ≠ []) ∨
    (pp2_reads id reads w = .error .out_of_bounds ∧ ¬ CompleteNear left (sk.recvbuf.readable ++ reads.flatten)) := by
  induction reads generalizing w sk left with
  | nil => exact Or.inl ⟨[], left, w, sk, rfl, by simp, rfl, h, by simp, hstop, by simp⟩
  | cons bytes reads ih =>
    obtain ⟨hne, hroom, hkernel⟩ := hkernel
    rw [List.flatten_cons, ← List.append_assoc] at hread ⊢
    obtain ⟨done, left1, w1, sk1, hitems, hdone, hpp2_read, h1, hbytes, hrest, hserves1, hstop1, hlast1⟩ | ⟨hfault, hfar⟩ :=
      pp2_read_items h hserves hhash hne (hroom _ h.pp2sk) (List.append_assoc _ _ _ ▸ hread)
    · have hhash1 : ∀ f ∈ left1, f.hash.toNat < 9223372036854775808 :=
        fun f hf => hhash f (by rw [hitems]; exact List.mem_append_right _ hf)
      have hrun : pp2_reads id (bytes :: reads) w = pp2_reads id reads w1 := by
        rw [pp2_reads, hpp2_read]
        rfl
      rw [hrun]
      obtain ⟨done', left', w', sk', hitems', hdone', hreads, h', hbytes', hstop', hlast'⟩ | ⟨hfault, hfar⟩ :=
        ih h1 hserves1 hhash1 (hkernel w1 hpp2_read) (by rw [List.append_assoc]; exact hrest) hstop1
      · refine Or.inl ⟨done ++ done', left', w', sk', by rw [hitems, hitems', List.append_assoc],
          List.forall_mem_append.mpr ⟨hdone, hdone'⟩, hreads, h', ?_, hstop', ?_⟩
        · rw [hbytes, List.append_assoc, hbytes', Framing.stream_append, List.append_assoc]
        · intro f hf hempty
          rw [List.getLast?_append] at hf
          cases done' with
          | nil =>
            rw [Framing.stream_nil, List.nil_append] at hbytes'
            rw [← hbytes']
            exact fun hnil => hlast1 f hf hempty (List.append_eq_nil_iff.mp hnil).1
          | cons g done' =>
            refine hlast' f ?_ hempty
            rw [List.getLast?_cons] at hf ⊢
            exact hf
      · refine Or.inr ⟨hfault, fun hcomplete => hfar ?_⟩
        rw [hbytes, List.append_assoc, hitems] at hcomplete
        exact hcomplete.tail
    · refine Or.inr ⟨?_, fun hcomplete => hfar hcomplete.mono⟩
      rw [pp2_reads, hfault]
      rfl

theorem leftover_items_nil (frames : List Pp2Item) : Framing.leftover Pp2Item.bytes frames [] = [] := by
  cases frames with
  | nil => rfl
  | cons f frames =>
    apply Framing.leftover_of_lt
    have hheader : PP2_HEADER_LEN = 46 := rfl
    rw [List.length_nil, f.length_bytes]
    omega

/-- Behind complete frames nothing is left over. -/
theorem leftover_items (done left : List Pp2Item) :
    Framing.leftover Pp2Item.bytes (done ++ left) (Framing.stream Pp2Item.bytes done) = [] := by
  have hskip := @Framing.leftover_append _ _ Pp2Item.bytes done left []
  rwa [List.append_nil, leftover_items_nil] at hskip

/-- The frames of a stream which ends behind one of them are the complete ones. -/
theorem stream_inj {done done' left left' : List Pp2Item} (hitems : done ++ left = done' ++ left')
    (hstream : Framing.stream Pp2Item.bytes done = Framing.stream Pp2Item.bytes done') : done = done' := by
  induction done generalizing done' with
  | nil =>
    cases done' with
    | nil => rfl
    | cons g done' =>
      have hlen := congrArg List.length hstream
      rw [Framing.stream_cons, List.length_append, g.length_bytes, Framing.stream_nil, List.length_nil] at hlen
      have hheader : PP2_HEADER_LEN = 46 := rfl
      omega
  | cons f done ih =>
    cases done' with
    | nil =>
      have hlen := congrArg List.length hstream
      rw [Framing.stream_cons, List.length_append, f.length_bytes, Framing.stream_nil, List.length_nil] at hlen
      have hheader : PP2_HEADER_LEN = 46 := rfl
      omega
    | cons g done' =>
      obtain ⟨rfl, hrest⟩ := List.cons.inj hitems
      rw [Framing.stream_cons, Framing.stream_cons] at hstream
      rw [ih hrest (List.append_cancel_left hstream)]

end Loop

/-- After the reads nothing but a proper part of a frame is left in the receive buffer. -/
def NoneWaits (id : Nat) (frames : List Pp2Item) (reads : List (List UInt8)) (w : World) : Prop :=
  ∃ w' sk', pp2_reads id reads w = .ok w' ∧ w'.pp2sk = some (id, sk') ∧
    sk'.recvbuf.readable = Framing.leftover Pp2Item.bytes frames reads.flatten

/-- Either no complete frame waits, or the last one does, which has no payload, or a lookup
    has read behind the table. -/
theorem none_waits_or {w : World} {id : Nat} {sk : Sk} {frames : List Pp2Item} {reads : List (List UInt8)}
    {rest : List UInt8} (h : w.Receives id sk) (hempty : sk.recvbuf.readable = [])
    (hhash : ∀ f ∈ frames, f.hash.toNat < 9223372036854775808)
    (hserves : Serves w.clients w.sk_hash (nearItems frames)) (hkernel : Deliverable id reads w)
    (hstream : reads.flatten ++ rest = Framing.stream Pp2Item.bytes frames) :
    NoneWaits id frames reads w ∧ ¬ EndsEmpty frames reads.flatten ∧ CompleteNear frames reads.flatten ∨
      ¬ NoneWaits id frames reads w ∧ (EndsEmpty frames reads.flatten ∨ ¬ CompleteNear frames reads.flatten) := by
  have hstart : Stops frames sk.recvbuf.readable := by
    refine Or.inl fun f _ => ?_
    have hheader : PP2_HEADER_LEN = 46 := rfl
    rw [hempty, List.length_nil, f.length_bytes]
    omega
  obtain ⟨done, left, w', sk', hitems, hdone, hreads, h', hbytes, hstop, hlast⟩ | ⟨hfault, hfar⟩ :=
    pp2_reads_items h hserves hhash hkernel (by rw [hempty]; exact hstream) hstart
  · rw [hempty, List.nil_append] at hbytes
    have hskip : Framing.leftover Pp2Item.bytes frames reads.flatten =
        Framing.leftover Pp2Item.bytes left sk'.recvbuf.readable := by
      rw [hitems, hbytes, Framing.leftover_append]
    have hiff : NoneWaits id frames reads w ↔
        sk'.recvbuf.readable = Framing.leftover Pp2Item.bytes left sk'.recvbuf.readable := by
      unfold NoneWaits
      rw [hreads, hskip]
      constructor
      · rintro ⟨w1, sk1, hw1, hpp, hread⟩
        cases hw1
        have hsk : sk1 = sk' := by
          have hsame := hpp.symm.trans h'.pp2sk
          cases hsame
          rfl
        rw [hsk] at hread
        exact hread
      · exact fun hread => ⟨w', sk', rfl, h'.pp2sk, hread⟩
    rw [hiff]
    obtain hproper | ⟨f, hf, hframe, hpayload⟩ := hstop
    · have hown : Framing.leftover Pp2Item.bytes left sk'.recvbuf.readable = sk'.recvbuf.readable := by
        cases left with
        | nil => rfl
        | cons f left => exact Framing.leftover_of_lt (hproper f rfl)
      refine Or.inl ⟨hown.symm, ?_, ?_⟩
      · rintro ⟨done', f, left', hitems', hbytes', hpayload⟩
        have hall := hbytes'
        rw [hbytes] at hall
        have hnil : sk'.recvbuf.readable = [] := by
          have hzero := leftover_items (done' ++ [f]) left'
          rwa [← hbytes', List.append_assoc, List.singleton_append, ← hitems', hskip, hown] at hzero
        rw [hnil, List.append_nil] at hall
        have hsplit : done ++ left = done' ++ [f] ++ left' := by
          rw [← hitems, hitems']
          simp
        have hdone := stream_inj hsplit hall
        exact hlast f (by rw [hdone]; simp) hpayload hnil
      · rw [hitems, hbytes]
        exact completeNear_of_part hdone hproper
    · obtain ⟨left', rfl⟩ : ∃ left', left = f :: left' := by
        cases left with
        | nil => cases hf
        | cons g left' =>
          cases hf
          exact ⟨left', rfl⟩
      have hnone := leftover_items [f] left'
      rw [Framing.stream_cons, Framing.stream_nil, List.append_nil, ← hframe, List.singleton_append] at hnone
      refine Or.inr ⟨fun hread => ?_, Or.inl ⟨done, f, left', hitems, ?_, hpayload⟩⟩
      · have hlen := congrArg List.length (hframe.symm.trans (hread.trans hnone))
        have hheader : PP2_HEADER_LEN = 46 := rfl
        rw [f.length_bytes, List.length_nil] at hlen
        omega
      · rw [hbytes, hframe]
        simp
  · rw [hempty, List.nil_append] at hfar
    refine Or.inr ⟨?_, Or.inr hfar⟩
    rintro ⟨w1, sk1, hw1, -⟩
    rw [hfault] at hw1
    cases hw1

/-- A frame without a payload which is the last of the bytes waits for one more, a complete
    frame whose bucket is none of the table's is looked up behind it, and no other complete
    frame waits. -/
theorem none_waits_iff {w : World} {id : Nat} {sk : Sk} {frames : List Pp2Item} {reads : List (List UInt8)}
    {rest : List UInt8} (h : w.Receives id sk) (hempty : sk.recvbuf.readable = [])
    (hhash : ∀ f ∈ frames, f.hash.toNat < 9223372036854775808)
    (hserves : Serves w.clients w.sk_hash (nearItems frames)) (hkernel : Deliverable id reads w)
    (hstream : reads.flatten ++ rest = Framing.stream Pp2Item.bytes frames) :
    NoneWaits id frames reads w ↔ ¬ EndsEmpty frames reads.flatten ∧ CompleteNear frames reads.flatten := by
  obtain ⟨hnone, hends⟩ | ⟨hwaits, hends⟩ := none_waits_or h hempty hhash hserves hkernel hstream
  · exact iff_of_true hnone hends
  · refine iff_of_false hwaits fun ⟨hends', hnear⟩ => ?_
    obtain hends | hfar := hends
    · exact hends' hends
    · exact hfar hnear

namespace Sample

/-- The daemon without clients, connected to the backend. -/
def backendOnly : World :=
  (sk_open (.connected 6) .init).2

theorem backendOnly_receives : ∃ sk, backendOnly.Receives 0 sk ∧ sk.recvbuf.readable = [] :=
  ⟨_, ⟨rfl, rfl, by decide, Skb.ok_zero⟩, rfl⟩

def item (payload : List UInt8) (h : payload.length < 4294967296) : Pp2Item where
  src := endpoint
  dst := endpoint
  hash := 7
  payload := payload
  fits := h

theorem backendOnly_serves (frames : List Pp2Item) (h : ∀ f ∈ frames, f.hash = 7) :
    Serves backendOnly.clients backendOnly.sk_hash frames := by
  intro f hf
  rw [h f hf]
  exact ⟨by decide, Or.inl rfl⟩

theorem backendOnly_deliverable {bytes : List UInt8} (hne : bytes ≠ []) (hsize : bytes.length ≤ SKB_SIZE) :
    Deliverable 0 [bytes] backendOnly := by
  refine ⟨hne, fun p hp => ?_, fun _ _ => trivial⟩
  cases hp
  exact Nat.le_trans hsize (Nat.le_of_eq Skb.wrsz_zero.symm)

end Sample

/-- A frame with a payload is consumed as soon as it is complete. -/
theorem none_waits_hi : NoneWaits 0 [Sample.item [104, 105] (by decide)]
    [(Sample.item [104, 105] (by decide)).bytes] Sample.backendOnly := by
  obtain ⟨sk, hreceives, hempty⟩ := Sample.backendOnly_receives
  have honly (f : Pp2Item) (hf : f ∈ [Sample.item [104, 105] (by decide)]) : f = Sample.item [104, 105] (by decide) :=
    List.mem_singleton.mp hf
  refine (@none_waits_iff _ _ sk _ _ [] hreceives hempty (fun f hf => by rw [honly f hf]; decide)
    (Sample.backendOnly_serves _ fun f hf => by rw [honly f (List.mem_of_mem_filter hf)]; rfl)
    (Sample.backendOnly_deliverable (by decide) (by decide)) (by decide)).mpr ⟨?_, ?_⟩
  · rintro ⟨done, f, left, hitems, -, hpayload⟩
    rw [honly f (by rw [hitems]; simp)] at hpayload
    cases hpayload
  · intro done f left hitems _
    rw [honly f (by rw [hitems]; simp)]
    decide

/-- A frame without a payload is not. -/
theorem empty_item_waits : ¬ ∀ (w : World) (id : Nat) (sk : Sk) (frames : List Pp2Item)
    (reads : List (List UInt8)) (rest : List UInt8), w.Receives id sk → sk.recvbuf.readable = [] →
      (∀ f ∈ frames, f.hash.toNat < 9223372036854775808) → Serves w.clients w.sk_hash (nearItems frames) →
      Deliverable id reads w → reads.flatten ++ rest = Framing.stream Pp2Item.bytes frames →
      NoneWaits id frames reads w := by
  intro h
  obtain ⟨sk, hreceives, hempty⟩ := Sample.backendOnly_receives
  have hhash : ∀ f ∈ [Sample.item [] (by decide)], f.hash.toNat < 9223372036854775808 := by
    intro f hf
    rw [List.mem_singleton.mp hf]
    decide
  have hserves := Sample.backendOnly_serves (nearItems [Sample.item [] (by decide)]) fun f hf => by
    rw [List.mem_singleton.mp (List.mem_of_mem_filter hf)]
    rfl
  have hkernel : Deliverable 0 [(Sample.item [] (by decide)).bytes] Sample.backendOnly :=
    Sample.backendOnly_deliverable (by decide) (by decide)
  have hstream : [(Sample.item [] (by decide)).bytes].flatten ++ [] =
      Framing.stream Pp2Item.bytes [Sample.item [] (by decide)] := by decide
  obtain ⟨-, hends, -⟩ | ⟨hwaits, -⟩ := none_waits_or hreceives hempty hhash hserves hkernel hstream
  · exact hends ⟨[], Sample.item [] (by decide), [], rfl, by decide, rfl⟩
  · exact hwaits (h _ 0 sk _ _ _ hreceives hempty hhash hserves hkernel hstream)

end wsd

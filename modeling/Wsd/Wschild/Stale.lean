import Wsd.Http.Accept
import Wsd.TwoRuns
import Wsd.Wschild.Complete
import Wsd.Wschild.Events
import Wsd.Wschild.Recv

namespace wsd

open TwoRuns

section Handlers

variable {sk : Sk} {do_mask : Bool}

/-- Two runs of a handler whose results are a buffer or a socket, and `wsd_errno`. -/
def Twins {α : Type} (x y : Except Fault (Int × α × Errno)) : Prop :=
  Agree Prod.fst Prod.snd x y

theorem encode_ping_pong_frame_twins (dst : Skb) (opcode : UInt8) (do_mask : Bool) (e e' : Errno) :
    Twins (encode_ping_pong_frame dst opcode do_mask e) (encode_ping_pong_frame dst opcode do_mask e') := by
  unfold encode_ping_pong_frame
  exact .ite (.refl _) (.bind_same fun _ => .success rfl)

theorem encode_close_frame_twins (dst : Skb) (status : Nat) (do_mask : Bool) (e e' : Errno) :
    Twins (encode_close_frame dst status do_mask e) (encode_close_frame dst status do_mask e') := by
  unfold encode_close_frame
  refine .ite (.refl _) (.bind_same fun _ => .ite (.ite (.success rfl) (.success rfl)) (.success rfl))

theorem put_ping_pong_twins (closing : Assertion) (opcode : UInt8) (sk : Sk) (do_mask : Bool) (e e' : Errno) :
    Twins (put_ping_pong closing opcode sk do_mask e) (put_ping_pong closing opcode sk do_mask e') := by
  unfold put_ping_pong
  refine .bind_same fun _ => .bind (encode_ping_pong_frame_twins ..) ?_
  rintro rv ⟨dst, e1⟩ ⟨dst', e1'⟩ rfl hreason
  exact .ok rfl hreason

theorem pong_twins (p : Option Pong) (sk : Sk) (do_mask : Bool) (e e' : Errno) :
    Twins (pong p sk do_mask e) (pong p sk do_mask e') := by
  cases p with
  | none => exact .refl _
  | some handler => exact put_ping_pong_twins ..

theorem start_closing_handshake_twins (p : Option StartClosingHandshake) (sk : Sk) (status : Nat) (do_mask : Bool)
    (e e' : Errno) :
    Twins (start_closing_handshake p sk status do_mask e) (start_closing_handshake p sk status do_mask e') := by
  cases p with
  | none => exact .refl _
  | some handler =>
    refine .bind_same fun _ => .bind (encode_close_frame_twins ..) ?_
    rintro rv ⟨dst, e1⟩ ⟨dst', e1'⟩ rfl hreason
    exact .ite (.ok rfl hreason) (.ok rfl hreason)

theorem ws_finish_closing_handshake_twins (sk : Sk) (do_mask : Bool) (len : Nat) (e e' : Errno) :
    Twins (ws_finish_closing_handshake sk do_mask len e) (ws_finish_closing_handshake sk do_mask len e') := by
  unfold ws_finish_closing_handshake
  refine .ite (.success rfl) (.bind (encode_close_frame_twins ..) ?_)
  rintro rv ⟨dst, e1⟩ ⟨dst', e1'⟩ rfl hreason
  exact .ok rfl hreason

end Handlers

section Decode

/-- The connection without the reason of a failed call. -/
def Conn.erase (c : Conn) : Sk × Sk :=
  (c.sk, c.pp2sk)

def Mux.erase (m : Mux) : (Nat → Option Sk) × (Nat → List Nat) × Sk :=
  (m.clients, m.sk_hash, m.pp2sk)

variable (sk pp2sk : Sk) (wsf : WsFrame) (e e' : Errno)

theorem ws_encode_frame_agree :
    Agree Conn.erase Conn.wsd_errno (ws_encode_frame { sk, pp2sk, wsd_errno := e } wsf)
      (ws_encode_frame { sk, pp2sk, wsd_errno := e' } wsf) := by
  have hlen : (ws_calculate_frame_length wsf.payload_len e).1 = (ws_calculate_frame_length wsf.payload_len e').1 := by
    unfold ws_calculate_frame_length
    split
    · rfl
    split
    · rfl
    split <;> rfl
  unfold ws_encode_frame
  generalize ws_calculate_frame_length wsf.payload_len e = frame at hlen
  generalize ws_calculate_frame_length wsf.payload_len e' = frame' at hlen
  obtain ⟨frame_len, e1⟩ := frame
  obtain ⟨frame_len', e1'⟩ := frame'
  simp only at hlen
  subst hlen
  exact .bind_same fun _ => .ite (.ok rfl fun _ => rfl) (.bind_same fun _ => .success rfl)

theorem pp2_encode_frame_agree :
    Agree Conn.erase Conn.wsd_errno (pp2_encode_frame { sk, pp2sk, wsd_errno := e } wsf)
      (pp2_encode_frame { sk, pp2sk, wsd_errno := e' } wsf) :=
  .ite (.ok rfl fun _ => rfl) (.success rfl)

theorem encode_frame_agree (handler : Option EncodeFrame) :
    Agree Conn.erase Conn.wsd_errno (encode_frame handler { sk, pp2sk, wsd_errno := e } wsf)
      (encode_frame handler { sk, pp2sk, wsd_errno := e' } wsf) := by
  cases handler with
  | none => exact .refl _
  | some handler =>
    cases handler with
    | ws_encode_frame => exact ws_encode_frame_agree ..
    | pp2_encode_frame => exact pp2_encode_frame_agree ..

theorem dispatch_payload_agree :
    Agree Conn.erase Conn.wsd_errno (dispatch_payload { sk, pp2sk, wsd_errno := e } wsf)
      (dispatch_payload { sk, pp2sk, wsd_errno := e' } wsf) := by
  unfold dispatch_payload
  refine .ite (encode_frame_agree ..) (.ite (.bind (ws_finish_closing_handshake_twins ..) ?_)
    (.ite (.bind (pong_twins ..) ?_) (.ite (.success rfl) (.bind (start_closing_handshake_twins ..) ?_))))
  all_goals
    rintro rv ⟨sk1, e1⟩ ⟨sk1', e1'⟩ rfl hreason
    exact .ok rfl hreason

theorem ws_decode_payload_len_twins (buf : Skb) (byte2 : UInt8) :
    ∃ len b e1 e1', ws_decode_payload_len buf byte2 e = (len, b, e1) ∧ ws_decode_payload_len buf byte2 e' = (len, b, e1') := by
  unfold ws_decode_payload_len
  split
  · exact ⟨_, _, _, _, rfl, rfl⟩
  split
  · split <;> exact ⟨_, _, _, _, rfl, rfl⟩
  split
  · split <;> exact ⟨_, _, _, _, rfl, rfl⟩
  · exact ⟨_, _, _, _, rfl, rfl⟩

theorem ws_decode_frame_agree :
    Agree Conn.erase Conn.wsd_errno (ws_decode_frame { sk, pp2sk, wsd_errno := e })
      (ws_decode_frame { sk, pp2sk, wsd_errno := e' }) := by
  unfold ws_decode_frame
  refine .ite (.ok rfl fun _ => rfl) ?_
  generalize skb_get_char sk.recvbuf = first
  obtain ⟨byte1, b1⟩ := first
  simp only
  generalize skb_get_char b1 = second
  obtain ⟨byte2, b2⟩ := second
  simp only
  refine .ite (.ok rfl fun _ => rfl) ?_
  obtain ⟨len, b3, e1, e1', hlen, hlen'⟩ := ws_decode_payload_len_twins e e' b2 byte2
  rw [hlen, hlen']
  simp only
  rw [if_neg (Nat.not_lt_zero len), if_neg (Nat.not_lt_zero len)]
  exact .ite (.ok rfl fun _ => rfl) (.ite (.ok rfl fun _ => rfl) (dispatch_payload_agree ..))

theorem pp2_decode_frame_agree (clients : Nat → Option Sk) (sk_hash : Nat → List Nat) :
    Agree Mux.erase Mux.wsd_errno (pp2_decode_frame { clients, sk_hash, pp2sk, wsd_errno := e })
      (pp2_decode_frame { clients, sk_hash, pp2sk, wsd_errno := e' }) := by
  unfold pp2_decode_frame
  refine .ite (.ok rfl fun _ => rfl) (.ite (.ok rfl fun _ => rfl) (.ite (.ok rfl fun _ => rfl)
    (.ite (.ok rfl fun _ => rfl) (.ite (.ok rfl fun _ => rfl) (.ite (.ok rfl fun _ => rfl) ?_)))))
  refine .bind_same fun found => ?_
  cases found with
  | none => exact .success rfl
  | some client =>
    refine .bind (encode_frame_agree ..) ?_
    rintro rv ⟨sk1, pp2sk1, e1⟩ ⟨sk1', pp2sk1', e1'⟩ hsame hreason
    obtain ⟨rfl, rfl⟩ := Prod.mk.inj hsame
    exact .ok rfl hreason

end Decode

/-- The world without the reason of a failed call. -/
def World.erase (w : World) : World :=
  { w with wsd_errno := .WSD_CHECKERRNO }

theorem World.eq_of_erase {w w' : World} (h : w.erase = w'.erase) : ∃ e, w' = { w with wsd_errno := e } := by
  refine ⟨w'.wsd_errno, ?_⟩
  cases w
  cases w'
  simp only [World.erase, World.mk.injEq] at h ⊢
  obtain ⟨h1, h2, h3, h4, h5, -, h6, h7, h8⟩ := h
  exact ⟨h1.symm, h2.symm, h3.symm, h4.symm, h5.symm, trivial, h6.symm, h7.symm, h8.symm⟩

theorem World.deref_errno (w : World) (id : Nat) (e : Errno) : World.deref { w with wsd_errno := e } id = w.deref id := rfl

theorem World.set_errno (w : World) (id : Nat) (sk : Sk) (e : Errno) :
    World.set { w with wsd_errno := e } id sk = { w.set id sk with wsd_errno := e } := by
  unfold World.set
  cases w.pp2sk with
  | none => rfl
  | some p =>
    simp only
    split
    · rfl
    · rfl

theorem World.wsd_errno_set (w : World) (id : Nat) (sk : Sk) : (w.set id sk).wsd_errno = w.wsd_errno := by
  unfold World.set
  cases w.pp2sk with
  | none => rfl
  | some p =>
    simp only
    split
    · rfl
    · rfl

theorem World.conn_errno (w : World) (id : Nat) (e : Errno) :
    (∃ fault, w.conn id = .error fault ∧ World.conn { w with wsd_errno := e } id = .error fault) ∨
      ∃ sk pp2sk, w.conn id = .ok { sk, pp2sk, wsd_errno := w.wsd_errno } ∧
        World.conn { w with wsd_errno := e } id = .ok { sk, pp2sk, wsd_errno := e } := by
  unfold World.conn
  cases w.clients id with
  | none => exact .inl ⟨_, rfl, rfl⟩
  | some sk =>
    cases w.pp2sk with
    | none => exact .inl ⟨_, rfl, rfl⟩
    | some p => exact .inr ⟨sk, p.2, rfl, rfl⟩

theorem World.mux_errno (w : World) (e : Errno) :
    (∃ fault, w.mux = .error fault ∧ World.mux { w with wsd_errno := e } = .error fault) ∨
      ∃ pp2sk, w.mux = .ok { clients := w.clients, sk_hash := w.sk_hash, pp2sk, wsd_errno := w.wsd_errno } ∧
        World.mux { w with wsd_errno := e } =
          .ok { clients := w.clients, sk_hash := w.sk_hash, pp2sk, wsd_errno := e } := by
  unfold World.mux
  cases w.pp2sk with
  | none => exact .inl ⟨_, rfl, rfl⟩
  | some p => exact .inr ⟨p.2, rfl, rfl⟩

section Recv

variable (cfg : Config) (ssl : Openssl) (opens : List OpenResult) (w : World) (id : Nat) (e : Errno)

theorem decode_frame_agree :
    Agree World.erase World.wsd_errno (decode_frame w id) (decode_frame { w with wsd_errno := e } id) := by
  unfold decode_frame
  rw [World.deref_errno w id e]
  refine .bind_same fun sk => ?_
  cases sk.proto.decode_frame with
  | none => exact .refl _
  | some handler =>
    cases handler with
    | ws_decode_frame =>
      simp only
      obtain ⟨fault, hconn, hconn'⟩ | ⟨sk, pp2sk, hconn, hconn'⟩ := w.conn_errno id e
      · rw [hconn, hconn']
        exact .error fault
      rw [hconn, hconn', Except.ok_bind, Except.ok_bind]
      refine .bind (ws_decode_frame_agree sk pp2sk w.wsd_errno e) ?_
      rintro rv ⟨sk1, pp2sk1, e1⟩ ⟨sk1', pp2sk1', e1'⟩ hsame hreason
      obtain ⟨rfl, rfl⟩ := Prod.mk.inj hsame
      exact .ok rfl hreason
    | pp2_decode_frame =>
      simp only
      obtain ⟨fault, hmux, hmux'⟩ | ⟨pp2sk, hmux, hmux'⟩ := w.mux_errno e
      · rw [hmux, hmux']
        exact .error fault
      rw [hmux, hmux', Except.ok_bind, Except.ok_bind]
      refine .bind (pp2_decode_frame_agree pp2sk w.wsd_errno e w.clients w.sk_hash) ?_
      rintro rv ⟨clients1, sk_hash1, pp2sk1, e1⟩ ⟨clients1', sk_hash1', pp2sk1', e1'⟩ hsame hreason
      obtain ⟨rfl, hsame⟩ := Prod.mk.inj hsame
      obtain ⟨rfl, rfl⟩ := Prod.mk.inj hsame
      exact .ok rfl hreason

/-- Two runs of a receive loop, which counts its frames. -/
theorem decode_loop_agree (fuel n : Nat) :
    Agree (fun s : Nat × World => (s.1, s.2.erase)) (fun s => s.2.wsd_errno) (decode_loop id fuel n w)
      (decode_loop id fuel n { w with wsd_errno := e }) := by
  induction fuel generalizing n w e with
  | zero => exact .refl _
  | succ fuel ih =>
    refine .bind (decode_frame_agree w id e) fun rv w1 w1' hsame hreason => ?_
    obtain ⟨e1, rfl⟩ := World.eq_of_erase hsame
    exact .ite (ih ..) (.ok rfl hreason)

/-- An attempt to open the backend's socket says why it fails. -/
theorem open_loop_agree (retries : Nat) :
    @Agree Fault _ _ _ World.erase World.wsd_errno (.ok (open_loop cfg opens (retries + 1) w))
      (.ok (open_loop cfg opens (retries + 1) { w with wsd_errno := e })) := by
  unfold open_loop
  cases opens.headD .no_socket with
  | connected fd => exact .success rfl
  | no_memory => exact .refl _
  | no_socket => exact .refl _
  | no_address => exact .refl _
  | no_inet_address => exact .refl _
  | not_connected => exact .refl _

theorem ws_recv_agree (hhost : 0 < cfg.fhostname_num) :
    Agree World.erase World.wsd_errno (ws_recv cfg opens w id) (ws_recv cfg opens { w with wsd_errno := e } id) := by
  obtain ⟨retries, hretries⟩ : ∃ n, cfg.fhostname_num.toNat = n + 1 :=
    Nat.exists_eq_succ_of_ne_zero (Nat.ne_of_gt (UInt8.lt_iff_toNat_lt.mp hhost))
  have henter : Agree World.erase World.wsd_errno (ws_recv_enter cfg opens w id)
      (ws_recv_enter cfg opens { w with wsd_errno := e } id) := by
    unfold ws_recv_enter
    rw [World.deref_errno w id e]
    refine .bind_same fun sk => .bind_same fun _ => .ite ?_ (.success rfl)
    rw [hretries]
    exact open_loop_agree ..
  refine .bind henter fun rv w1 w1' hsame hreason => ?_
  obtain ⟨e1, rfl⟩ := World.eq_of_erase hsame
  by_cases hneg : rv < 0
  · simp only [if_pos hneg]
    exact .ok rfl fun _ => hreason hneg
  simp only [if_neg hneg]
  have hfuel : recv_fuel { w1 with wsd_errno := e1 } id = recv_fuel w1 id := rfl
  rw [hfuel]
  refine .bind (decode_loop_agree w1 id e1 (recv_fuel w1 id) 0) ?_
  rintro rv ⟨frames, w2⟩ ⟨frames', w2'⟩ hsame hreason
  obtain ⟨rfl, hsame⟩ := Prod.mk.inj hsame
  obtain ⟨e2, rfl⟩ := World.eq_of_erase hsame
  simp only
  obtain ⟨fault, hconn, hconn'⟩ | ⟨sk, pp2sk, hconn, hconn'⟩ := w2.conn_errno id e2
  · rw [hconn, hconn']
    exact .error fault
  · rw [hconn, hconn', Except.ok_bind, Except.ok_bind]
    exact .ok rfl hreason

theorem pp2_recv_agree :
    Agree World.erase World.wsd_errno (pp2_recv w id) (pp2_recv { w with wsd_errno := e } id) := by
  have henter : pp2_recv_enter { w with wsd_errno := e } id = pp2_recv_enter w id := rfl
  have hfuel : recv_fuel { w with wsd_errno := e } id = recv_fuel w id := rfl
  unfold pp2_recv
  rw [henter, hfuel]
  refine .bind_same fun _ => .bind (decode_loop_agree w id e (recv_fuel w id) 0) ?_
  rintro rv ⟨frames, w2⟩ ⟨frames', w2'⟩ hsame hreason
  obtain ⟨rfl, hsame⟩ := Prod.mk.inj hsame
  obtain ⟨e2, rfl⟩ := World.eq_of_erase hsame
  simp only
  rw [World.deref_errno w2 id e2]
  refine .bind_same fun sk => .ok ?_ ?_
  · rw [World.set_errno w2 id _ e2]
    rfl
  · rw [World.set_errno w2 id _ e2, World.wsd_errno_set]
    exact hreason

end Recv

/-- The indirect call through `ops->recv`. -/
def recv (cfg : Config) (ssl : Openssl) (opens : List OpenResult) (w : World) (id : Nat) :
    Except Fault (Int × World) := do
  let sk ← w.deref id
  match sk.ops.recv with
  | none => throw .null_function
  | some .http_recv =>
    let (rv, sk, statics, wsd_errno) ← http_recv cfg ssl sk w.statics
    return (rv, { w.set id sk with statics, wsd_errno })
  | some .ws_recv => ws_recv cfg opens w id
  | some .pp2_recv => pp2_recv w id

/-- The body of the loop of `try_recv`. -/
def try_recv (cfg : Config) (ssl : Openssl) (opens : List OpenResult) (w : World) (id : Nat) : Except Fault World := do
  let (rv, w) ← recv cfg ssl opens w id
  try_recv_result w id rv

section Step

variable (cfg : Config) (ssl : Openssl) (opens : List OpenResult) (w : World) (id : Nat) (e : Errno)

theorem recv_agree (hhost : 0 < cfg.fhostname_num) :
    Agree World.erase World.wsd_errno (recv cfg ssl opens w id) (recv cfg ssl opens { w with wsd_errno := e } id) := by
  unfold recv
  rw [World.deref_errno w id e]
  refine .bind_same fun sk => ?_
  cases sk.ops.recv with
  | none => exact .refl _
  | some handler =>
    cases handler with
    | http_recv =>
      -- The tokeniser assigns the cell before anything reads it.
      refine .bind_same fun r => ?_
      obtain ⟨rv, sk1, statics, e1⟩ := r
      simp only [World.set_errno w id _ e]
      exact .refl _
    | ws_recv => exact ws_recv_agree cfg opens w id e hhost
    | pp2_recv => exact pp2_recv_agree w id e

/-- Both runs end with the same fault, or in worlds which are the same but for the cell. -/
def SameWorld (x y : Except Fault World) : Prop :=
  x.map World.erase = y.map World.erase

theorem try_recv_result_same {rv : Int} (h : rv < 0 → w.wsd_errno = e) :
    SameWorld (try_recv_result w id rv) (try_recv_result { w with wsd_errno := e } id rv) := by
  by_cases hneg : rv < 0
  · rw [← h hneg]
    rfl
  · unfold try_recv_result
    simp only [hneg, false_and, if_false]
    split
    · rfl
    · rfl

theorem SameWorld.bind {x y : Except Fault (Int × World)} {f : Int × World → Except Fault World}
    (h : Agree World.erase World.wsd_errno x y)
    (hf : ∀ rv w e, (rv < 0 → w.wsd_errno = e) → SameWorld (f (rv, w)) (f (rv, { w with wsd_errno := e }))) :
    SameWorld (x >>= f) (y >>= f) := by
  cases h with
  | error fault => rfl
  | @ok rv w w' hsame hreason =>
    obtain ⟨e, rfl⟩ := World.eq_of_erase hsame
    exact hf rv w e hreason

theorem SameWorld.bind_same {α : Type} {z : Except Fault α} {f f' : α → Except Fault World}
    (h : ∀ a, SameWorld (f a) (f' a)) : SameWorld (z >>= f) (z >>= f') := by
  cases z with
  | error fault => rfl
  | ok a => exact h a

theorem SameWorld.twins {x y : Except Fault (Int × Sk × Errno)} {f f' : Int × Sk × Errno → Except Fault World}
    (h : Twins x y) (hf : ∀ rv sk e e', (rv < 0 → e = e') → SameWorld (f (rv, sk, e)) (f' (rv, sk, e'))) :
    SameWorld (x >>= f) (y >>= f') := by
  cases h with
  | error fault => rfl
  | @ok rv s s' hsame hreason =>
    obtain ⟨sk, e⟩ := s
    obtain ⟨sk', e'⟩ := s'
    simp only at hsame hreason
    subst hsame
    exact hf rv sk e e' hreason

theorem try_recv_same (hhost : 0 < cfg.fhostname_num) :
    SameWorld (try_recv cfg ssl opens w id) (try_recv cfg ssl opens { w with wsd_errno := e } id) :=
  .bind (recv_agree cfg ssl opens w id e hhost) fun _ w e hreason => try_recv_result_same w id e hreason

theorem unlink_fd_errno (fd : Int) (list : List Nat) : unlink_fd { w with wsd_errno := e } fd list = unlink_fd w fd list := by
  induction list with
  | nil => rfl
  | cons pos rest ih => simp only [unlink_fd, World.deref_errno w _ e, ih]

theorem has_fd_errno (fd : Int) (list : List Nat) : has_fd { w with wsd_errno := e } fd list = has_fd w fd list := by
  induction list with
  | nil => rfl
  | cons pos rest ih => simp only [has_fd, World.deref_errno w _ e, ih]

theorem close_same : SameWorld (close w id) (close { w with wsd_errno := e } id) := by
  unfold close
  rw [World.deref_errno w id e]
  cases w.deref id with
  | error fault => rfl
  | ok sk =>
    simp only [Except.ok_bind]
    cases sk.ops.close with
    | none => rfl
    | some handler =>
      cases handler with
      | sk_close =>
        simp only [sk_close, unlink_fd_errno w e]
        cases w.clients id with
        | none => rfl
        | some sk =>
          simp only
          cases unlink_fd w sk.fd w.work_list with
          | error fault => rfl
          | ok work_list => rfl
      | pp2_close =>
        simp only [pp2_close]
        cases w.pp2sk with
        | none => rfl
        | some p =>
          simp only
          split
          · rfl
          · rfl

theorem post_read_same : post_read { w with wsd_errno := e } id =
    (post_read w id).map fun w1 => { w1 with wsd_errno := e } := by
  unfold post_read
  rw [World.deref_errno w id e]
  cases w.deref id with
  | error fault => rfl
  | ok sk =>
    simp only [Except.ok_bind, has_fd_errno w e]
    cases has_fd w sk.fd w.work_list with
    | error fault => rfl
    | ok found =>
      cases found with
      | false => rfl
      | true => rfl

theorem sk_write_twins (write : WriteResult) (sk : Sk) (e e' : Errno) :
    @Twins Sk (.ok (sk_write write sk e)) (.ok (sk_write write sk e')) := by
  unfold sk_write
  split
  · exact .refl _
  · cases write with
    | error => exact .refl _
    | ok len => exact .success rfl

theorem sk_read_twins (read : ReadResult) (sk : Sk) (e e' : Errno) : Twins (sk_read read sk e) (sk_read read sk e') := by
  unfold sk_read
  refine .bind_same fun _ => .ite (.refl _) ?_
  cases read with
  | error => exact .refl _
  | ok bytes =>
    cases bytes with
    | nil => exact .refl _
    | cons byte bytes => exact .success rfl

theorem close_twice_same (e' : Errno) :
    SameWorld (close { w with wsd_errno := e } id) (close { w with wsd_errno := e' } id) :=
  (close_same w id e).symm.trans (close_same w id e')

theorem on_write_same (write : WriteResult) (now : Timespec) :
    SameWorld (on_write write now w id) (on_write write now { w with wsd_errno := e } id) := by
  unfold on_write
  rw [World.deref_errno w id e]
  refine .bind_same fun sk => ?_
  have htwins := sk_write_twins write sk w.wsd_errno (World.wsd_errno { w with wsd_errno := e })
  generalize sk_write write sk w.wsd_errno = r at htwins ⊢
  generalize sk_write write sk (World.wsd_errno { w with wsd_errno := e }) = r' at htwins ⊢
  obtain ⟨rv, sk1, e1⟩ := r
  obtain ⟨rv', sk1', e1'⟩ := r'
  cases htwins with
  | ok hsame hreason =>
    simp only at hsame hreason
    subst hsame
    simp only [World.set_errno w id _ e]
    generalize w.set id { sk1 with ts_last_io := now } = w1
    by_cases hneg : rv < 0
    · obtain rfl := hreason hneg
      exact rfl
    · simp only [hneg, false_and, if_false]
      split
      · exact close_twice_same w1 id e1 e1'
      · split
        · exact close_twice_same w1 id e1 e1'
        · rfl

theorem on_read_same (read : ReadResult) (retry : Bool) (now : Timespec) :
    SameWorld (on_read cfg read retry now w id) (on_read cfg read retry now { w with wsd_errno := e } id) := by
  unfold on_read
  rw [World.deref_errno w id e]
  refine .bind_same fun sk => .bind_same fun _ => .bind_same fun _ => ?_
  refine .twins (sk_read_twins read sk w.wsd_errno (World.wsd_errno { w with wsd_errno := e })) ?_
  intro rv sk1 e1 e1' hreason
  simp only [World.set_errno w id _ e]
  generalize w.set id { sk1 with ts_last_io := now } = w1
  by_cases hneg : rv < 0
  · obtain rfl := hreason hneg
    exact rfl
  · simp only [hneg, false_and, if_false]
    rw [post_read_same w1 id e1, post_read_same w1 id e1']
    cases post_read w1 id with
    | error fault => rfl
    | ok w2 =>
      simp only [Except.map, Except.ok_bind]
      split
      · exact close_twice_same w2 id e1 e1'
      · rfl

end Step

/-- No branch is taken on a reason which an earlier call has left: two runs of a step which start with
    different reasons end in the same world but for the reason, and every handler which fails assigns it. -/
theorem wsd_errno_not_stale (cfg : Config) (hhost : 0 < cfg.fhostname_num) (w : World) (e : Errno) (id : Nat) :
    (∀ ssl opens, SameWorld (try_recv cfg ssl opens w id) (try_recv cfg ssl opens { w with wsd_errno := e } id)) ∧
    (∀ read retry now, SameWorld (on_read cfg read retry now w id)
      (on_read cfg read retry now { w with wsd_errno := e } id)) ∧
    (∀ write now, SameWorld (on_write write now w id) (on_write write now { w with wsd_errno := e } id)) ∧
    (∀ ssl opens, Agree World.erase World.wsd_errno (recv cfg ssl opens w id)
      (recv cfg ssl opens { w with wsd_errno := e } id)) ∧
    Agree World.erase World.wsd_errno (decode_frame w id) (decode_frame { w with wsd_errno := e } id) ∧
    (∀ handler sk pp2sk wsf, Agree Conn.erase Conn.wsd_errno
      (encode_frame handler { sk, pp2sk, wsd_errno := w.wsd_errno } wsf)
      (encode_frame handler { sk, pp2sk, wsd_errno := e } wsf)) ∧
    (∀ read sk, Twins (sk_read read sk w.wsd_errno) (sk_read read sk e)) ∧
    ∀ write sk, @Twins Sk (.ok (sk_write write sk w.wsd_errno)) (.ok (sk_write write sk e)) :=
  ⟨fun ssl opens => try_recv_same cfg ssl opens w id e hhost, on_read_same cfg w id e, on_write_same w id e,
    fun ssl opens => recv_agree cfg ssl opens w id e hhost, decode_frame_agree w id e,
    fun handler sk pp2sk wsf => encode_frame_agree sk pp2sk wsf _ e handler, fun read sk => sk_read_twins read sk _ e,
    fun write sk => sk_write_twins write sk _ e⟩

namespace Sample

/-- The backend has sent the first five bytes of a frame. -/
def backendPart : World :=
  { backendOnly with
    pp2sk := backendOnly.pp2sk.map fun p =>
      (p.1, { p.2 with recvbuf := Skb.ofBytes (pp2_sig.take 5) }) }

end Sample

/-- A backend which waits for the rest of a frame, after a request of a client which has been refused. -/
theorem wsd_errno_not_stale_backend : 0 < Sample.cfg.fhostname_num ∧
    (∃ w, recv Sample.cfg Sample.digest [] Sample.backendPart 0 = .ok (-1, w)) ∧
    SameWorld (try_recv Sample.cfg Sample.digest [] Sample.backendPart 0)
      (try_recv Sample.cfg Sample.digest [] { Sample.backendPart with wsd_errno := .WSD_EBADREQ } 0) :=
  ⟨by decide, Except.exists_ok_fst (by decide +kernel),
    (wsd_errno_not_stale Sample.cfg (by decide) Sample.backendPart .WSD_EBADREQ 0).1 Sample.digest []⟩

end wsd

import Wsd.Http.Fault
import Wsd.Wschild.Invariant

namespace wsd

section Encoders

variable {dst : Skb} {opcode : UInt8} {status : Nat} {do_mask : Bool} {wsd_errno : Errno}

theorem encode_ping_pong_frame_unguarded : Unguarded (encode_ping_pong_frame dst opcode do_mask wsd_errno) := by
  obtain h | ⟨dst', h⟩ | h := encode_ping_pong_frame_outcome dst opcode do_mask wsd_errno
  · rw [h]
    exact .ok _
  · rw [h]
    exact .ok _
  · rw [h]
    exact .error (by decide)

theorem encode_close_frame_unguarded : Unguarded (encode_close_frame dst status do_mask wsd_errno) := by
  obtain h | ⟨dst', h⟩ | h := encode_close_frame_outcome dst status do_mask wsd_errno
  · rw [h]
    exact .ok _
  · rw [h]
    exact .ok _
  · rw [h]
    exact .error (by decide)

theorem ws_encode_frame_unguarded (c : Conn) (wsf : WsFrame) : Unguarded (ws_encode_frame c wsf) := by
  unfold ws_encode_frame
  refine .bind (.assert _ (by decide)) fun _ _ => .ite (fun _ => .ok _) fun _ => ?_
  exact .bind (.assert _ (by decide)) fun _ _ => .ok _

theorem ws_finish_closing_handshake_unguarded (sk : Sk) (len : Nat) :
    Unguarded (ws_finish_closing_handshake sk do_mask len wsd_errno) := by
  unfold ws_finish_closing_handshake
  refine .ite (fun _ => .ok _) fun _ => ?_
  exact .bind encode_close_frame_unguarded fun _ _ => .ok _

/-- A ping or pong frame for a socket whose closing has begun fails its assertion. -/
theorem put_ping_pong_guarded {closing : Assertion} {sk : Sk} {fault : Fault}
    (h : put_ping_pong closing opcode sk do_mask wsd_errno = .error fault) (hguarded : fault.Guarded) :
    sk.closing = true ∧ fault = .assertion closing := by
  unfold put_ping_pong at h
  obtain h | ⟨_, -, h⟩ := Except.bind_eq_error_iff.mp h
  · obtain ⟨hclosing, rfl⟩ := assert_eq_error_iff.mp h
    exact ⟨by simpa using hclosing, rfl⟩
  · exact absurd hguarded (Avoids.bind encode_ping_pong_frame_unguarded (fun _ _ => .ok _) fault h)

theorem ws_start_closing_handshake_guarded {sk : Sk} {fault : Fault}
    (h : ws_start_closing_handshake sk status do_mask wsd_errno = .error fault) (hguarded : fault.Guarded) :
    sk.closing = true ∧ fault = .assertion .ws_start_closing_handshake_closing := by
  unfold ws_start_closing_handshake at h
  obtain h | ⟨_, -, h⟩ := Except.bind_eq_error_iff.mp h
  · obtain ⟨hclosing, rfl⟩ := assert_eq_error_iff.mp h
    exact ⟨by simpa using hclosing, rfl⟩
  · refine absurd hguarded (Avoids.bind encode_close_frame_unguarded (fun _ _ => ?_) fault h)
    exact .ite (fun _ => .ok _) (fun _ => .ok _)

end Encoders

/-- The frames which a client must not send while its closing handshake is going on,
    and what they make fail. -/
inductive Forbidden (sk : Sk) : Fault → Prop
  | ping (f : Frame) (key : UInt32) (rest : List UInt8) (hread : sk.recvbuf.readable = f.masked key ++ rest)
      (hping : f.opcode = WS_PING_FRAME) (hclosing : sk.closing = true) : Forbidden sk (.assertion .ws_pong_closing)
  | unknown (f : Frame) (key : UInt32) (rest : List UInt8) (hread : sk.recvbuf.readable = f.masked key ++ rest)
      (hunknown : IsUnknown f.opcode) (hclosing : sk.closing = true) :
      Forbidden sk (.assertion .ws_start_closing_handshake_closing)

theorem ws_decode_frame_guarded {c : Conn} {fault : Fault} (hok : c.sk.recvbuf.Ok) (hsend : c.pp2sk.sendbuf.Ok)
    (hencode : c.pp2sk.proto.encode_frame = some .pp2_encode_frame) (hup : Upgraded c.sk)
    (h : ws_decode_frame c = .error fault) (hguarded : fault.Guarded) : Forbidden c.sk fault := by
  obtain ⟨f, key, rest, hread⟩ | hbad | ⟨consumed, hcut⟩ | ⟨-, hinput⟩ := ws_decode_frame_cases hok
  · by_cases hdata : IsData f.opcode
    · by_cases hfull : skb_wrsz c.pp2sk.sendbuf < f.payload.length + PP2_HEADER_LEN
      · obtain ⟨recvbuf, hdone, -⟩ := ws_decode_frame_data_full hok hsend hencode hdata hread hfull
        rw [hdone] at h
        cases h
      · obtain ⟨recvbuf, hdone, -⟩ := ws_decode_frame_data hok hsend hencode hdata hread (by omega)
        rw [hdone] at h
        cases h
    · obtain ⟨recvbuf, wsf, hdispatch, -, -, -, -, hbyte1, -⟩ := ws_decode_frame_masked hok f key hread
      have hopcode : OPCODE wsf.byte1 = f.opcode := hbyte1 ▸ rfl
      rw [hdispatch] at h
      unfold dispatch_payload at h
      simp only [hopcode, if_neg hdata] at h
      by_cases hclose : f.opcode = WS_CLOSE_FRAME
      · rw [if_pos hclose] at h
        exact absurd hguarded (Avoids.bind (ws_finish_closing_handshake_unguarded _ _) (fun _ _ => .ok _) fault h)
      rw [if_neg hclose] at h
      by_cases hping : f.opcode = WS_PING_FRAME
      · rw [if_pos hping] at h
        have hproto : ((c.setRecvbuf recvbuf).setRecvbuf (skb_compact (c.setRecvbuf recvbuf).sk.recvbuf)).sk.proto.pong =
          some .ws_pong := hup.pong
        obtain h | ⟨_, -, h⟩ := Except.bind_eq_error_iff.mp h
        · rw [hproto] at h
          obtain ⟨hclosing, rfl⟩ := put_ping_pong_guarded h hguarded
          exact .ping f key rest hread hping hclosing
        · cases h
      rw [if_neg hping] at h
      by_cases hpong : f.opcode = WS_PONG_FRAME
      · rw [if_pos hpong] at h
        cases h
      rw [if_neg hpong] at h
      have hproto : (c.setRecvbuf recvbuf).sk.proto.start_closing_handshake = some .ws_start_closing_handshake :=
        hup.start_closing_handshake
      obtain h | ⟨_, -, h⟩ := Except.bind_eq_error_iff.mp h
      · rw [hproto] at h
        obtain ⟨hclosing, rfl⟩ := ws_start_closing_handshake_guarded h hguarded
        exact .unknown f key rest hread ⟨hdata, hclose, hping, hpong⟩ hclosing
      · cases h
  · rw [ws_decode_frame_malformed hok hbad] at h
    cases h
  · rw [ws_decode_frame_keyCut hok hcut] at h
    cases h
  · rw [hinput] at h
    cases h

/-- The backend's payload at the read position is for a client which cannot be sent
    frames yet. -/
def ForUnready (m : Mux) : Prop :=
  ∃ hash len rest id cln_sk, Pp2Accepted m.pp2sk.recvbuf.readable hash len rest ∧ len ≤ rest.length ∧
    hash_lookup m.clients m.sk_hash hash = .ok (some (id, cln_sk)) ∧
    cln_sk.proto.encode_frame = none

/-- A walk which raises a guarded fault meets a closed socket. -/
theorem hash_for_each_possible_guarded {clients : Nat → Option Sk} {hash : UInt64} {chain : List Nat} {fault : Fault}
    (h : hash_for_each_possible clients hash chain = .error fault) :
    fault = .use_after_free ∧ ∃ id ∈ chain, clients id = none := by
  induction chain with
  | nil => cases h
  | cons id chain ih =>
    unfold hash_for_each_possible at h
    cases hid : clients id with
    | none =>
      rw [hid] at h
      cases h
      exact ⟨rfl, id, List.mem_cons_self, hid⟩
    | some sk =>
      rw [hid] at h
      by_cases hhash : sk.hash = hash
      · simp only [if_pos hhash] at h
        cases h
      · simp only [if_neg hhash] at h
        obtain ⟨hfault, id', hmem, hnone⟩ := ih h
        exact ⟨hfault, id', List.mem_cons_of_mem _ hmem, hnone⟩

theorem hash_lookup_guarded {clients : Nat → Option Sk} {sk_hash : Nat → List Nat} {hash : UInt64} {fault : Fault}
    (h : hash_lookup clients sk_hash hash = .error fault) (hguarded : fault.Guarded) :
    fault = .use_after_free ∧ ∃ bucket, ∃ id ∈ sk_hash bucket, clients id = none := by
  by_cases hnear : hash_min hash < HASH_SIZE
  · rw [hash_lookup_of_near hnear] at h
    exact (hash_for_each_possible_guarded h).imp_right fun h => ⟨_, h⟩
  · rw [hash_lookup_of_far hnear] at h
    cases h
    exact absurd hguarded (by decide)

/-- The backend's decoder calls the missing handler of a client, or follows a chain to a closed
    socket. -/
theorem pp2_decode_frame_guarded {m : Mux} {fault : Fault} (hrecv : m.pp2sk.recvbuf.Ok)
    (hclients : ∀ id sk, m.clients id = some sk → sk.proto.encode_frame ≠ some .pp2_encode_frame)
    (h : pp2_decode_frame m = .error fault) (hguarded : fault.Guarded) :
    ForUnready m ∧ fault = .null_function ∨
      fault = .use_after_free ∧ ∃ bucket, ∃ id ∈ m.sk_hash bucket, m.clients id = none := by
  by_cases hshort : skb_rdsz m.pp2sk.recvbuf ≤ PP2_HEADER_LEN
  · rw [pp2_decode_frame_short hshort] at h
    cases h
  by_cases haccepted : ∃ hash len rest, Pp2Accepted m.pp2sk.recvbuf.readable hash len rest
  · obtain ⟨hash, len, rest, haccepted⟩ := haccepted
    have hlength := haccepted.length
    rw [hrecv.length_readable_eq] at hlength
    have hne : rest ≠ [] := by
      rw [← List.length_pos_iff]
      omega
    rw [pp2_decode_frame_accepted hrecv haccepted hne] at h
    by_cases hlen : rest.length < len
    · rw [if_pos hlen] at h
      cases h
    rw [if_neg hlen] at h
    unfold pp2_decode_payload at h
    obtain h | ⟨found, hlookup, h⟩ := Except.bind_eq_error_iff.mp h
    · exact .inr (hash_lookup_guarded h hguarded)
    cases found with
    | none => cases h
    | some found =>
      obtain ⟨id, cln_sk⟩ := found
      obtain ⟨-, hclient, -⟩ := hash_lookup_found hlookup
      obtain h | ⟨_, -, h⟩ := Except.bind_eq_error_iff.mp h
      · cases hproto : cln_sk.proto.encode_frame with
        | none =>
          rw [hproto] at h
          cases h
          exact .inl ⟨⟨hash, len, rest, id, cln_sk, haccepted, by omega, hlookup, hproto⟩, rfl⟩
        | some handler =>
          rw [hproto] at h
          cases handler with
          | ws_encode_frame => exact absurd hguarded (ws_encode_frame_unguarded _ _ fault h)
          | pp2_encode_frame => exact absurd hproto (hclients id cln_sk hclient)
      · cases h
  · rw [pp2_decode_frame_rejected hrecv (by omega) haccepted] at h
    cases h

section World

variable {cfg : Config} {w : World} {id : Nat} {sk : Sk}

theorem deref_unwatched (w : World) (id : Nat) : Unwatched (w.deref id) := by
  unfold World.deref
  split
  · exact .error (by decide)
  · exact .ok _

theorem unlink_fd_unwatched (w : World) (fd : Int) (nodes : List Nat) : Unwatched (unlink_fd w fd nodes) := by
  induction nodes with
  | nil => exact .ok _
  | cons pos rest ih =>
    unfold unlink_fd
    exact .bind (deref_unwatched _ _) fun _ _ => .bind ih fun _ _ => .ok _

theorem has_fd_unwatched (w : World) (fd : Int) (nodes : List Nat) : Unwatched (has_fd w fd nodes) := by
  induction nodes with
  | nil => exact .ok _
  | cons pos rest ih =>
    unfold has_fd
    exact .bind (deref_unwatched _ _) fun _ _ => .ite (fun _ => .ok _) (fun _ => ih)

theorem post_read_unwatched (w : World) (id : Nat) : Unwatched (post_read w id) := by
  unfold post_read
  refine .bind (deref_unwatched _ _) fun _ _ => .bind (has_fd_unwatched _ _ _) fun _ _ => ?_
  exact .ite (fun _ => .ok _) (fun _ => .ok _)

/-- A socket with a handler which closes it. -/
theorem close_unwatched (hclose : ∀ sk, w.get id = some sk → sk.ops.close ≠ none) : Unwatched (close w id) := by
  unfold close
  refine .bind (deref_unwatched _ _) fun sk hderef => ?_
  cases hhandler : sk.ops.close with
  | none => exact absurd hhandler (hclose sk (World.deref_eq_ok hderef))
  | some handler =>
    cases handler with
    | sk_close =>
      simp only [sk_close]
      split
      · exact .error (by decide)
      · exact .bind (unlink_fd_unwatched _ _ _) fun _ _ => .ok _
    | pp2_close =>
      simp only [pp2_close]
      split
      · exact .error (by decide)
      · exact .ite (fun _ => .ok _) (fun _ => .error (by decide))

theorem World.Wf.close_ne (hwf : w.Wf) (hget : w.get id = some sk) : sk.ops.close ≠ none := by
  obtain ⟨-, hkind⟩ | ⟨-, hkind, -⟩ := hwf.get_cases hget
  · rw [hkind.ops]
    simp
  · rw [hkind.close_eq]
    simp

theorem try_recv_result_unwatched {rv : Int} (hclose : ∀ sk, w.get id = some sk → sk.ops.close ≠ none) :
    Unwatched (try_recv_result w id rv) := by
  unfold try_recv_result
  refine .ite (fun _ => .ok _) fun _ => .ite (fun _ => .ok _) fun _ => .ite (fun _ => .ok _) fun _ => ?_
  refine .ite (fun _ => .bind (deref_unwatched _ _) fun _ _ => ?_) (fun _ => .ok _)
  exact .ite (fun _ => close_unwatched hclose) (fun _ => .ok _)

theorem set_close_ne {sk' : Sk} (hne : sk'.ops.close ≠ none) (sk'' : Sk) (hget : (w.set id sk').get id = some sk'') :
    sk''.ops.close ≠ none := by
  rw [World.get_set_self] at hget
  cases hget
  exact hne

theorem on_write_unwatched {write : WriteResult} {now : Timespec} (hwf : w.Wf) : Unwatched (on_write write now w id) := by
  unfold on_write
  refine .bind (deref_unwatched _ _) fun sk hderef => ?_
  have hne := hwf.close_ne (World.deref_eq_ok hderef)
  have hwritten := sk_write_written write now sk w.wsd_errno
  generalize sk_write write sk w.wsd_errno = result at hwritten
  obtain ⟨rv, sk1, e⟩ := result
  rw [← hwritten.kind.1] at hne
  have hclose : Unwatched (close { w.set id { sk1 with ts_last_io := now } with wsd_errno := e } id) :=
    close_unwatched fun sk'' hget => set_close_ne (w := w) hne sk'' hget
  exact .ite (fun _ => hclose) fun _ => .ite (fun _ => hclose) fun _ => .ite (fun _ => hclose) (fun _ => .ok _)

theorem sk_read_unwatched (read : ReadResult) (sk : Sk) (wsd_errno : Errno) : Unwatched (sk_read read sk wsd_errno) := by
  unfold sk_read
  refine .bind (.assert _ (by decide)) fun _ _ => .ite (fun _ => .ok _) fun _ => ?_
  split <;> exact .ok _

theorem sk_read_kind {read : ReadResult} {sk sk' : Sk} {rv : Int} {wsd_errno errno' : Errno}
    (h : sk_read read sk wsd_errno = .ok (rv, sk', errno')) : sk'.ops = sk.ops ∧ sk'.proto = sk.proto := by
  obtain ⟨_, -, -, -, -, rfl⟩ | ⟨-, -, rfl⟩ | ⟨-, -, rfl, -⟩ := sk_read_cases h <;> exact ⟨rfl, rfl⟩

/-- A socket whose closing has been decided must not be read. -/
theorem on_read_watched {read : ReadResult} {retry : Bool} {now : Timespec} {fault : Fault} (hwf : w.Wf)
    (hget : w.get id = some sk) (h : on_read cfg read retry now w id = .error fault) (hwatched : fault.Watched) :
    sk.close_on_write = true ∧ fault = .assertion .on_read_close_on_write ∨
      sk.close = true ∧ fault = .assertion .on_read_close := by
  unfold on_read at h
  rw [World.deref_of_get hget, Except.ok_bind] at h
  obtain h | ⟨_, -, h⟩ := Except.bind_eq_error_iff.mp h
  · obtain ⟨hflag, rfl⟩ := assert_eq_error_iff.mp h
    exact Or.inl ⟨by simpa using hflag, rfl⟩
  obtain h | ⟨_, -, h⟩ := Except.bind_eq_error_iff.mp h
  · obtain ⟨hflag, rfl⟩ := assert_eq_error_iff.mp h
    exact Or.inr ⟨by simpa using hflag, rfl⟩
  refine absurd hwatched (Avoids.bind (sk_read_unwatched _ _ _) ?_ fault h)
  rintro ⟨rv, sk1, e⟩ hread
  have hne := hwf.close_ne hget
  rw [← (sk_read_kind hread).1] at hne
  have hclose (w' : World) (sk' : Sk) (hops : sk'.ops = sk1.ops) (hget' : w'.get id = some sk') :
      Unwatched (close w' id) := by
    refine close_unwatched fun sk'' hget'' => ?_
    rw [hget'] at hget''
    cases hget''
    rwa [hops]
  refine .ite (fun _ => ?_) fun _ => ?_
  · have hsame (w1 : World) : (if e = .WSD_CHECKERRNO then check_errno cfg retry w1 else (-1, w1)).2.get = w1.get := by
      split
      · cases retry <;> rfl
      · rfl
    specialize hsame { w.set id { sk1 with ts_last_io := now } with wsd_errno := e }
    generalize (if e = .WSD_CHECKERRNO then check_errno cfg retry
      { w.set id { sk1 with ts_last_io := now } with wsd_errno := e } else
      (-1, { w.set id { sk1 with ts_last_io := now } with wsd_errno := e })) = result at hsame
    refine .ite (fun _ => .ite (fun _ => .ok _) fun _ => ?_) fun _ => ?_
    · apply hclose _ { sk1 with ts_last_io := now, retries := sk1.retries + 1 } rfl
      rw [World.get_set_self]
    · apply hclose _ { sk1 with ts_last_io := now } rfl
      rw [hsame]
      exact World.get_set_self w id _
  · refine .bind (post_read_unwatched _ _) fun w' hpost => .ite (fun _ => ?_) (fun _ => .ok _)
    have hget' : World.get { w.set id { sk1 with ts_last_io := now } with wsd_errno := e } id =
        some { sk1 with ts_last_io := now } := World.get_set_self w id _
    obtain ⟨linked, -, rfl⟩ := post_read_inv hget' hpost
    exact hclose _ { sk1 with ts_last_io := now } rfl hget'

/-- The only missing handler which a timeout may call is the one for pings. -/
theorem check_timeouts_watched {now : Timespec} {fault : Fault} (hwf : w.Wf) (hget : w.get id = some sk)
    (h : check_timeouts cfg now w id = .error fault) (hwatched : fault.Watched) :
    sk.proto.ping = none ∧ check_timeout sk now cfg.ping_interval = true ∧
      ¬ (cfg.idle_timeout ≠ -1 ∧ check_timeout sk now cfg.idle_timeout = true) ∧ fault = .null_function := by
  unfold check_timeouts at h
  rw [World.deref_of_get hget, Except.ok_bind] at h
  have hclose (e : Errno) : Unwatched (close { w.set id sk with wsd_errno := e } id) :=
    close_unwatched fun sk'' hget'' => set_close_ne (w := w) (hwf.close_ne hget) sk'' hget''
  have htimeout (sk' : Sk) (timeout : Int) : Unwatched (check_closing_handshake_timeout sk' now timeout) := by
    unfold check_closing_handshake_timeout
    exact .bind (.assert _ (by decide)) fun _ _ => .ite (fun _ => .ok _) (fun _ => .ok _)
  obtain h | ⟨⟨idle, sk1, e⟩, hidle, h⟩ := Except.bind_eq_error_iff.mp h
  · unfold check_idle at h
    by_cases hidle : cfg.idle_timeout ≠ -1 ∧ check_timeout sk now cfg.idle_timeout
    · rw [if_pos hidle] at h
      cases hproto : sk.proto.start_closing_handshake with
      | none =>
        simp only [hproto] at h
        cases h
      | some handler =>
        cases handler
        simp only [hproto] at h
        obtain h | ⟨_, -, h⟩ := Except.bind_eq_error_iff.mp h
        · obtain ⟨hclosing, -⟩ := ws_start_closing_handshake_guarded h (.inr hwatched)
          rw [(check_timeout_flags hidle.2).1] at hclosing
          cases hclosing
        · exact absurd hwatched (Avoids.ite (fun _ => .ok _) (fun _ => .ok _) fault h)
    · rw [if_neg hidle] at h
      cases h
  · simp only at h
    obtain ⟨hno, hsk⟩ | ⟨hyes, hsk, -⟩ | ⟨hno, -, -, sendbuf, -, hsk⟩ := check_idle_inv hidle
    · rw [hno, hsk, if_neg (by decide)] at h
      obtain h | ⟨timedOut, -, h⟩ := Except.bind_eq_error_iff.mp h
      · exact absurd hwatched (htimeout _ _ fault h)
      cases timedOut with
      | true =>
        rw [if_pos rfl] at h
        exact absurd hwatched (hclose e fault h)
      | false =>
        rw [if_neg (by decide)] at h
        cases hping : check_timeout sk now cfg.ping_interval with
        | false =>
          rw [hping, if_neg (by decide)] at h
          cases h
        | true =>
          rw [hping, if_pos rfl] at h
          obtain h | ⟨_, -, h⟩ := Except.bind_eq_error_iff.mp h
          · cases hproto : sk.proto.ping with
            | none =>
              rw [hproto] at h
              cases h
              refine ⟨rfl, rfl, ?_, rfl⟩
              intro hboth
              -- a socket without pings has no closing handshake either
              have hstart : sk.proto.start_closing_handshake = none := by
                obtain ⟨-, hkind⟩ | ⟨-, ⟨-, proto⟩ | ⟨-, proto⟩, -⟩ := hwf.get_cases hget
                · rw [hkind.proto]
                · rw [proto]
                · rw [proto] at hproto
                  cases hproto
              unfold check_idle at hidle
              rw [if_pos hboth, hstart] at hidle
              cases hidle
              cases hno
            | some handler =>
              rw [hproto] at h
              cases handler with
              | ws_ping =>
                obtain ⟨hclosing, -⟩ := put_ping_pong_guarded h (.inr hwatched)
                rw [(check_timeout_flags hping).1] at hclosing
                cases hclosing
              | pp2_nop => cases h
          · cases h
    · rw [hyes, hsk, if_pos rfl] at h
      exact absurd hwatched (hclose e fault h)
    · have hping : check_timeout sk1 now cfg.ping_interval = false := by
        rw [hsk]
        simp [check_timeout]
      rw [hno, if_neg (by decide)] at h
      obtain h | ⟨timedOut, -, h⟩ := Except.bind_eq_error_iff.mp h
      · exact absurd hwatched (htimeout _ _ fault h)
      rw [hping, if_neg (by decide : ¬ (false = true))] at h
      refine absurd hwatched (Avoids.ite (fun _ => close_unwatched fun sk'' hget'' => ?_) (fun _ => .ok _) fault h)
      have hne := hwf.close_ne hget
      exact @set_close_ne w _ sk1 (by rwa [hsk]) sk'' hget''

end World

/-- The ways in which a step of a run can raise a watched fault. -/
inductive Faulted (cfg : Config) (s : State) : Fault → Prop
  | http_recv (id : Nat) (todo : List Nat) (sk : Sk) (hpc : s.pc = .try_recv (id :: todo))
      (hget : s.world.get id = some sk) (hrecv : sk.ops.recv = some .http_recv) (hrdsz : skb_rdsz sk.recvbuf = 0) :
      Faulted cfg s (.assertion .http_recv_rdsz)
  | ws_recv (id : Nat) (todo : List Nat) (sk : Sk) (hpc : s.pc = .try_recv (id :: todo))
      (hget : s.world.get id = some sk) (hrecv : sk.ops.recv = some .ws_recv) (hrdsz : skb_rdsz sk.recvbuf = 0) :
      Faulted cfg s (.assertion .ws_recv_rdsz)
  | pp2_recv (id : Nat) (todo : List Nat) (sk : Sk) (hpc : s.pc = .try_recv (id :: todo))
      (hget : s.world.get id = some sk) (hrecv : sk.ops.recv = some .pp2_recv) (hrdsz : skb_rdsz sk.recvbuf = 0) :
      Faulted cfg s (.assertion .pp2_recv_rdsz)
  | forbidden (id frames : Nat) (todo : List Nat) (sk : Sk) (fault : Fault) (hpc : s.pc = .ws_recv id frames todo)
      (hclient : s.world.clients id = some sk) (hforbidden : Forbidden sk fault) : Faulted cfg s fault
  | unready (p frames : Nat) (todo : List Nat) (pp2sk : Sk) (hpc : s.pc = .pp2_recv p frames todo)
      (hpp : s.world.pp2sk = some (p, pp2sk))
      (hunready : ForUnready
        { clients := s.world.clients, sk_hash := s.world.sk_hash, pp2sk, wsd_errno := s.world.wsd_errno }) :
      Faulted cfg s .null_function
  | ping (id : Nat) (todo : List Nat) (sk : Sk) (hpc : s.pc = .check_timeouts (id :: todo))
      (hget : s.world.get id = some sk) (hproto : sk.proto.ping = none)
      (hping : check_timeout sk s.now cfg.ping_interval = true)
      (hidle : ¬ (cfg.idle_timeout ≠ -1 ∧ check_timeout sk s.now cfg.idle_timeout = true)) :
      Faulted cfg s .null_function
  | close_on_write (id : Nat) (events : EpollEvents) (todo : List (Option Nat × EpollEvents)) (sk : Sk)
      (hpc : s.pc = .on_event ((some id, events) :: todo)) (hget : s.world.get id = some sk)
      (hevents : events.EPOLLIN = true ∨ events.EPOLLPRI = true) (hflag : sk.close_on_write = true) :
      Faulted cfg s (.assertion .on_read_close_on_write)
  | close (id : Nat) (events : EpollEvents) (todo : List (Option Nat × EpollEvents)) (sk : Sk)
      (hpc : s.pc = .on_event ((some id, events) :: todo)) (hget : s.world.get id = some sk)
      (hevents : events.EPOLLIN = true ∨ events.EPOLLPRI = true) (hflag : sk.close = true) :
      Faulted cfg s (.assertion .on_read_close)

section Steps

variable {cfg : Config} {ssl : Openssl} {env : Env} {s : State} {fault : Fault} {id frames : Nat} {todo : List Nat}

theorem recv_step_watched (hwf : s.Wf) (hpc : s.pc = .try_recv (id :: todo))
    (h : recv_step cfg ssl env s.world id todo = .error fault) (hwatched : fault.Watched) : Faulted cfg s fault := by
  unfold recv_step at h
  obtain h | ⟨sk, hderef, h⟩ := Except.bind_eq_error_iff.mp h
  · exact absurd hwatched (deref_unwatched _ _ fault h)
  have hget := World.deref_eq_ok hderef
  have hne := hwf.world.close_ne hget
  obtain ⟨-, hkind⟩ | ⟨-, ⟨ops, proto⟩ | ⟨ops, -⟩, -⟩ := hwf.world.get_cases hget
  · simp only [hkind.ops] at h
    obtain h | ⟨_, -, h⟩ := Except.bind_eq_error_iff.mp h
    · unfold pp2_recv_enter at h
      rw [hderef, Except.ok_bind] at h
      obtain h | ⟨_, -, h⟩ := Except.bind_eq_error_iff.mp h
      · obtain ⟨hrdsz, rfl⟩ := assert_eq_error_iff.mp h
        exact .pp2_recv id todo sk hpc hget (by rw [hkind.ops]) (by simpa using hrdsz)
      · exact absurd hwatched (Avoids.assert _ (by decide) fault h)
    · cases h
  · by_cases hrdsz : skb_rdsz sk.recvbuf = 0
    · have hassert : http_recv cfg ssl sk s.world.statics = .error (.assertion .http_recv_rdsz) := by
        unfold http_recv
        rw [decide_eq_false (not_not.mpr hrdsz)]
        rfl
      simp only [ops, hassert] at h
      cases h
      exact .http_recv id todo sk hpc hget (by rw [ops]) hrdsz
    · simp only [ops] at h
      obtain h | ⟨⟨rv, sk', statics, e⟩, hhttp, h⟩ := Except.bind_eq_error_iff.mp h
      · exact absurd hwatched ((http_recv_unguarded hrdsz (by rw [proto])).unwatched fault h)
      · refine absurd hwatched (Avoids.bind (try_recv_result_unwatched ?_) (fun _ _ => .ok _) fault h)
        have hkind := http_recv_kind hhttp (.http ops proto)
        intro sk'' hget''
        exact set_close_ne (w := s.world) (by rw [hkind.close_eq]; simp) sk'' hget''
  · simp only [ops] at h
    obtain h | ⟨⟨rv, w1⟩, henter, h⟩ := Except.bind_eq_error_iff.mp h
    · unfold ws_recv_enter at h
      rw [hderef, Except.ok_bind] at h
      obtain h | ⟨_, -, h⟩ := Except.bind_eq_error_iff.mp h
      · obtain ⟨hrdsz, rfl⟩ := assert_eq_error_iff.mp h
        exact .ws_recv id todo sk hpc hget (by rw [ops]) (by simpa using hrdsz)
      · exact absurd hwatched (Avoids.ite (fun _ => .ok _) (fun _ => .ok _) fault h)
    · refine absurd hwatched (Avoids.ite (fun hneg => ?_) (fun _ => .ok _) fault h)
      refine .bind (try_recv_result_unwatched fun sk'' hget'' => ?_) fun _ _ => .ok _
      obtain ⟨-, hopen⟩ := ws_recv_enter_inv hget henter
      have hsame : w1.get = s.world.get := by
        split at hopen
        · obtain ⟨-, _, _, rfl⟩ | ⟨hrv, -⟩ := open_loop_inv hopen
          · rfl
          · omega
        · cases hopen
          rfl
      rw [hsame, hget] at hget''
      cases hget''
      exact hne

theorem sk_accept_unwatched (accepted : Option Accepted) (w : World) : Unwatched (sk_accept accepted w) := by
  cases accepted with
  | none => exact .ok _
  | some a =>
    unfold sk_accept
    exact .bind (.ite (fun _ => .ok _) (fun _ => .error (by decide))) fun _ _ => .ok _

theorem accept_step_unwatched {env : Env} (w : World) (todo : List (Option Nat × EpollEvents)) :
    Unwatched (accept_step env w todo) := by
  unfold accept_step
  refine .bind (sk_accept_unwatched env.accepted w) fun _ _ => ?_
  exact .bind (.assert _ (by decide)) fun _ _ => .ok _

theorem conn_unwatched (w : World) (id : Nat) : Unwatched (w.conn id) := by
  unfold World.conn
  split
  · exact .error (by decide)
  · exact .error (by decide)
  · exact .ok _

theorem ws_recv_step_watched (hwf : s.Wf) (hpc : s.pc = .ws_recv id frames todo)
    (h : ws_recv_step s.world id frames todo = .error fault) (hwatched : fault.Watched) : Faulted cfg s fault := by
  obtain ⟨sk, hclient, hup⟩ := hwf.ws_recv id frames todo hpc
  have hget := hwf.world.get_of_client hclient
  unfold ws_recv_step at h
  obtain h | ⟨⟨rv, w1⟩, hframe, h⟩ := Except.bind_eq_error_iff.mp h
  · unfold decode_frame at h
    rw [World.deref_of_get hget, Except.ok_bind, hup.decode_frame] at h
    obtain h | ⟨c, hconn, h⟩ := Except.bind_eq_error_iff.mp h
    · exact absurd hwatched (conn_unwatched _ _ fault h)
    obtain h | ⟨_, -, h⟩ := Except.bind_eq_error_iff.mp h
    · obtain ⟨p, hsk, hpp, -⟩ := World.conn_eq_ok hconn
      have hsame : sk = c.sk := Option.some.inj (hclient.symm.trans hsk)
      subst hsame
      refine .forbidden id frames todo c.sk fault hpc hclient (ws_decode_frame_guarded ?_ ?_ ?_ hup h (.inr hwatched))
      · exact hwf.bounded.recvbuf id c.sk hget
      · exact hwf.bounded.backend p c.pp2sk hpp
      · rw [(hwf.world.backend p c.pp2sk hpp).1.proto]
    · cases h
  · obtain ⟨p, pp2sk, c', hpp, hdecode, rfl⟩ := World.decode_frame_ws hwf.world hclient hup hframe
    have hbackend := hwf.world.backend p pp2sk hpp
    have hdecoded := ws_decode_frame_inv (c := { sk, pp2sk, wsd_errno := s.world.wsd_errno })
      (hwf.bounded.recvbuf id sk hget) (hwf.bounded.backend p pp2sk hpp) (by rw [hbackend.1.proto]) hup hdecode
    have hne : id ≠ p := by
      rintro rfl
      rw [hclient] at hbackend
      cases hbackend.2.2
    refine absurd hwatched (Avoids.ite (fun _ => .ok _) (fun _ => ?_) fault h)
    refine .bind (conn_unwatched _ _) fun c1 hconn => .bind (try_recv_result_unwatched ?_) fun _ _ => .ok _
    rw [World.conn_setConn hpp] at hconn
    cases hconn
    intro sk'' hget''
    rw [World.setConn_setConn, World.get_setConn hpp, Function.update_of_ne hne, Function.update_self] at hget''
    cases hget''
    have hcore := (ws_recv_leave_core frames c').1.trans hdecoded.core.1
    rw [((hwf.world.client id sk hclient).1.of_core hcore).close_eq]
    simp

theorem pp2_recv_step_watched (hwf : s.Wf) (hpc : s.pc = .pp2_recv id frames todo)
    (h : pp2_recv_step s.world id frames todo = .error fault) (hwatched : fault.Watched) : Faulted cfg s fault := by
  obtain ⟨sk, hpp⟩ := hwf.pp2_recv id frames todo hpc
  have hget := World.get_backend hpp
  have hkind := (hwf.world.backend id sk hpp).1
  have hrecv := hwf.bounded.recvbuf id sk hget
  have hclients (j : Nat) (cl : Sk) (hcl : s.world.clients j = some cl) :
      cl.proto.encode_frame ≠ some .pp2_encode_frame := (hwf.world.client j cl hcl).1.encode_ne
  unfold pp2_recv_step at h
  obtain h | ⟨⟨rv, w1⟩, hframe, h⟩ := Except.bind_eq_error_iff.mp h
  · unfold decode_frame at h
    have hmux : s.world.mux = .ok
        { clients := s.world.clients, sk_hash := s.world.sk_hash, pp2sk := sk, wsd_errno := s.world.wsd_errno } := by
      unfold World.mux
      rw [hpp]
    rw [World.deref_of_get hget, Except.ok_bind, hkind.proto] at h
    obtain h | ⟨m, hm, h⟩ := Except.bind_eq_error_iff.mp h
    · rw [hmux] at h
      cases h
    rw [hmux] at hm
    cases hm
    obtain h | ⟨_, -, h⟩ := Except.bind_eq_error_iff.mp h
    · obtain ⟨hunready, rfl⟩ | ⟨rfl, -⟩ := pp2_decode_frame_guarded hrecv hclients h (.inr hwatched)
      · exact .unready id frames todo sk hpc hpp hunready
      · exact absurd hwatched (by decide)
    · cases h
  · obtain ⟨m', hdecode, rfl⟩ := World.decode_frame_pp2 hpp hkind hframe
    have hdemuxed := pp2_decode_frame_inv
      (m := { clients := s.world.clients, sk_hash := s.world.sk_hash, pp2sk := sk, wsd_errno := s.world.wsd_errno })
      hrecv hclients hdecode
    refine absurd hwatched (Avoids.ite (fun _ => .ok _) (fun _ => ?_) fault h)
    refine .bind (deref_unwatched _ _) fun sk1 hderef => .bind (try_recv_result_unwatched ?_) fun _ _ => .ok _
    have hsk1 : m'.pp2sk = sk1 := by
      have hget' := World.deref_eq_ok hderef
      rw [@World.get_backend _ _ m'.pp2sk (by simp [World.setMux, hpp])] at hget'
      exact Option.some.inj hget'
    subst hsk1
    intro sk'' hget''
    refine @set_close_ne _ _ (pp2_recv_leave frames m'.pp2sk) ?_ sk'' hget''
    rw [(hkind.of_core ((pp2_recv_leave_core frames m'.pp2sk).trans hdemuxed.core)).ops]
    simp

/-- Whenever a step raises a watched fault, it does so in one of the known ways. -/
theorem step_watched (hwf : s.Wf) (h : step cfg ssl env s = .error fault) (hwatched : fault.Watched) :
    Faulted cfg s fault := by
  unfold step at h
  cases hpc : s.pc with
  | iteration =>
    simp only [hpc] at h
    exact absurd hwatched (Avoids.ite (fun _ => .ok _) (fun _ => .ok _) fault h)
  | try_recv todo =>
    cases todo with
    | nil =>
      simp only [hpc] at h
      cases h
    | cons id todo =>
      simp only [hpc] at h
      obtain h | ⟨_, -, h⟩ := Except.bind_eq_error_iff.mp h
      · exact recv_step_watched hwf hpc h hwatched
      · cases h
  | ws_recv id frames todo =>
    simp only [hpc] at h
    obtain h | ⟨_, -, h⟩ := Except.bind_eq_error_iff.mp h
    · exact ws_recv_step_watched hwf hpc h hwatched
    · cases h
  | pp2_recv id frames todo =>
    simp only [hpc] at h
    obtain h | ⟨_, -, h⟩ := Except.bind_eq_error_iff.mp h
    · exact pp2_recv_step_watched hwf hpc h hwatched
    · cases h
  | check_timeouts todo =>
    cases todo with
    | nil =>
      simp only [hpc] at h
      cases h
    | cons id todo =>
      simp only [hpc] at h
      obtain h | ⟨_, -, h⟩ := Except.bind_eq_error_iff.mp h
      · cases hget : s.world.get id with
        | none =>
          simp only [check_timeouts, World.deref, hget] at h
          cases h
          exact absurd hwatched (by decide)
        | some sk =>
          obtain ⟨hproto, hping, hidle, rfl⟩ := check_timeouts_watched hwf.world hget h hwatched
          exact .ping id todo sk hpc hget hproto hping hidle
      · cases h
  | epoll_wait =>
    simp only [hpc] at h
    cases hevents : env.events with
    | none =>
      simp only [hevents] at h
      cases h
    | some events =>
      simp only [hevents] at h
      cases h
  | on_event todo =>
    cases todo with
    | nil =>
      simp only [hpc] at h
      cases h
    | cons event todo =>
      obtain ⟨source, events⟩ := event
      cases source with
      | none =>
        simp only [hpc] at h
        obtain h | ⟨_, -, h⟩ := Except.bind_eq_error_iff.mp h
        · exact absurd hwatched (accept_step_unwatched s.world todo fault h)
        · cases h
      | some id =>
        simp only [hpc] at h
        obtain h | ⟨_, -, h⟩ := Except.bind_eq_error_iff.mp h
        · unfold on_epoll_event at h
          obtain h | ⟨sk, hderef, h⟩ := Except.bind_eq_error_iff.mp h
          · exact absurd hwatched (deref_unwatched _ _ fault h)
          have hget := World.deref_eq_ok hderef
          obtain h | ⟨_, -, h⟩ := Except.bind_eq_error_iff.mp h
          · exact absurd hwatched (Avoids.assert _ (by decide) fault h)
          by_cases hevents : events.EPOLLIN = true ∨ events.EPOLLPRI = true
          · rw [if_pos hevents] at h
            obtain ⟨hflag, rfl⟩ | ⟨hflag, rfl⟩ := on_read_watched hwf.world hget h hwatched
            · exact .close_on_write id events todo sk hpc hget hevents hflag
            · exact .close id events todo sk hpc hget hevents hflag
          · rw [if_neg hevents] at h
            have hne := hwf.world.close_ne hget
            refine absurd hwatched (Avoids.ite (fun _ => on_write_unwatched hwf.world) (fun _ => ?_) fault h)
            refine .ite (fun _ => close_unwatched fun sk'' hget'' => ?_) (fun _ => .ok _)
            rw [hget] at hget''
            cases hget''
            exact hne
        · cases h
  | shutdown todo =>
    cases todo with
    | nil =>
      simp only [hpc] at h
      cases h
    | cons id todo =>
      simp only [hpc] at h
      obtain h | ⟨_, -, h⟩ := Except.bind_eq_error_iff.mp h
      · exact absurd hwatched (close_unwatched (fun sk'' hget'' => hwf.world.close_ne hget'') fault h)
      · cases h

end Steps

end wsd

import Wsd.Pp2.Effect
import Wsd.Wschild.Loop
import Wsd.Wschild.Wf

namespace wsd

/-- What `try_recv` does to the work list and the socket after a receive handler. -/
inductive TryRecv (w : World) (id : Nat) (rv : Int) : World → Prop
  | done (hrv : rv = 0 ∨ rv < 0 ∧ w.wsd_errno = .WSD_EINPUT) :
      TryRecv w id rv { w with work_list := w.work_list.erase id }
  | again (hrv : 0 < rv ∨ rv < 0 ∧ w.wsd_errno = .WSD_EAGAIN) : TryRecv w id rv w
  | flushing (sk : Sk) (hrv : rv < 0) (hinput : w.wsd_errno ≠ .WSD_EINPUT) (hagain : w.wsd_errno ≠ .WSD_EAGAIN)
      (hget : w.get id = some sk) (hclose : sk.close_on_write = true) :
      TryRecv w id rv { w with work_list := w.work_list.erase id }
  | closed (sk : Sk) (w' : World) (hrv : rv < 0) (hinput : w.wsd_errno ≠ .WSD_EINPUT)
      (hagain : w.wsd_errno ≠ .WSD_EAGAIN) (hget : w.get id = some sk) (hclose : sk.close_on_write = false)
      (hclosed : Closed { w with work_list := w.work_list.erase id } id sk w') : TryRecv w id rv w'

theorem try_recv_result_inv {w w' : World} {id : Nat} {rv : Int} (hwf : w.Wf)
    (h : try_recv_result w id rv = .ok w') : TryRecv w id rv w' := by
  unfold try_recv_result at h
  by_cases hzero : rv = 0
  · rw [if_pos hzero] at h
    cases h
    exact .done (Or.inl hzero)
  rw [if_neg hzero] at h
  by_cases hinput : rv < 0 ∧ w.wsd_errno = .WSD_EINPUT
  · rw [if_pos hinput] at h
    cases h
    exact .done (Or.inr hinput)
  rw [if_neg hinput] at h
  by_cases hagain : rv < 0 ∧ w.wsd_errno = .WSD_EAGAIN
  · rw [if_pos hagain] at h
    cases h
    exact .again (Or.inr hagain)
  rw [if_neg hagain] at h
  by_cases hneg : rv < 0
  · have hinput' : w.wsd_errno ≠ .WSD_EINPUT := fun he => hinput ⟨hneg, he⟩
    have hagain' : w.wsd_errno ≠ .WSD_EAGAIN := fun he => hagain ⟨hneg, he⟩
    rw [if_pos hneg] at h
    obtain ⟨sk, hderef, h⟩ := Except.bind_eq_ok_iff.mp h
    have hget := World.deref_eq_ok hderef
    cases hclose : sk.close_on_write with
    | true =>
      simp only [hclose, Bool.not_true, Bool.false_eq_true, if_false, Except.pure_eq_ok, Except.ok.injEq] at h
      subst h
      exact .flushing sk hneg hinput' hagain' hget hclose
    | false =>
      simp only [hclose, Bool.not_false, if_true] at h
      exact .closed sk w' hneg hinput' hagain' hget hclose (close_get ⟨hwf.client, hwf.backend⟩ hget h)
  · rw [if_neg hneg] at h
    cases h
    exact .again (Or.inl (by omega))

/-- A socket after `sk_write`: bytes left the send buffer, or none were there. -/
inductive Written (write : WriteResult) (now : Timespec) (sk : Sk) : Sk → Prop
  | none (hzero : skb_rdsz sk.sendbuf = 0) :
      Written write now sk { turn_off_events sk EPOLLOUT with ts_last_io := now }
  | failed (hne : skb_rdsz sk.sendbuf ≠ 0) : Written write now sk { sk with ts_last_io := now }
  | some (len : Nat) (hwrite : write = .ok len) (hne : skb_rdsz sk.sendbuf ≠ 0) :
      Written write now sk
        { sk with sendbuf := skb_compact (skb_rd_forward sk.sendbuf len), ts_last_io := now }

theorem Written.kind {write : WriteResult} {now : Timespec} {sk sk' : Sk} (h : Written write now sk sk') :
    sk'.ops = sk.ops ∧ sk'.proto = sk.proto := by
  cases h <;> exact ⟨rfl, rfl⟩

theorem sk_write_written (write : WriteResult) (now : Timespec) (sk : Sk) (wsd_errno : Errno) :
    Written write now sk { (sk_write write sk wsd_errno).2.1 with ts_last_io := now } := by
  unfold sk_write
  by_cases hzero : skb_rdsz sk.sendbuf = 0
  · rw [if_pos hzero]
    exact .none hzero
  · rw [if_neg hzero]
    cases write with
    | error => exact .failed hzero
    | ok len => exact .some len rfl hzero

/-- A write reports an error, or the socket is closed after its last one. -/
def WriteEnds (write : WriteResult) (sk : Sk) : Prop :=
  skb_rdsz sk.sendbuf ≠ 0 ∧ write = .error ∨ sk.close = true ∨ sk.close_on_write = true

instance (write : WriteResult) (sk : Sk) : Decidable (WriteEnds write sk) :=
  inferInstanceAs (Decidable (_ ∨ _ ∨ _))

theorem sk_write_failed {write : WriteResult} {sk : Sk} {wsd_errno : Errno}
    (h : (sk_write write sk wsd_errno).1 < 0 ∧ (sk_write write sk wsd_errno).2.2 ≠ .WSD_EAGAIN) :
    skb_rdsz sk.sendbuf ≠ 0 ∧ write = .error := by
  unfold sk_write at h
  by_cases hzero : skb_rdsz sk.sendbuf = 0
  · rw [if_pos hzero] at h
    exact absurd rfl h.2
  · rw [if_neg hzero] at h
    cases write with
    | error => exact ⟨hzero, rfl⟩
    | ok len => exact absurd h.1 (by simp)

theorem Written.flags {write : WriteResult} {now : Timespec} {sk sk' : Sk} (h : Written write now sk sk') :
    sk'.close = sk.close ∧ sk'.close_on_write = sk.close_on_write ∧ sk'.closing = sk.closing := by
  cases h <;> exact ⟨rfl, rfl, rfl⟩

theorem Written.recvbuf_eq {write : WriteResult} {now : Timespec} {sk sk' : Sk} (h : Written write now sk sk') :
    sk'.recvbuf = sk.recvbuf := by
  cases h <;> rfl

theorem on_write_inv {write : WriteResult} {now : Timespec} {w w' : World} {id : Nat} (hwf : w.Wf)
    (h : on_write write now w id = .ok w') :
    ∃ sk sk' wsd_errno, w.get id = some sk ∧ Written write now sk sk' ∧
      (w' = { w.set id sk' with wsd_errno } ∧ sk'.close = false ∧
        (sk'.close_on_write = true → skb_rdsz sk'.sendbuf ≠ 0) ∨
        WriteEnds write sk ∧ Closed { w.set id sk' with wsd_errno } id sk' w') := by
  unfold on_write at h
  obtain ⟨sk, hderef, h⟩ := Except.bind_eq_ok_iff.mp h
  have hget := World.deref_eq_ok hderef
  have hwritten := sk_write_written write now sk w.wsd_errno
  have hfailed := @sk_write_failed write sk w.wsd_errno
  generalize sk_write write sk w.wsd_errno = result at h hwritten hfailed
  obtain ⟨rv, sk1, e⟩ := result
  have hset := hwf.set hget (fun hc => hc.of_eq hwritten.kind.1 hwritten.kind.2)
    (fun hb => hb.of_eq hwritten.kind.1 hwritten.kind.2)
  refine ⟨sk, { sk1 with ts_last_io := now }, e, hget, hwritten, ?_⟩
  have hclosed := fun w'' => @close_get { w.set id { sk1 with ts_last_io := now } with wsd_errno := e } w'' id _
      ⟨hset.client, hset.backend⟩ (World.get_set_self w id { sk1 with ts_last_io := now })
  simp only at h
  split at h
  · rename_i hfail
    exact Or.inr ⟨Or.inl (hfailed hfail), hclosed _ h⟩
  · split at h
    · rename_i hflag
      exact Or.inr ⟨Or.inr (Or.inr (hwritten.flags.2.1.symm.trans hflag.1)), hclosed _ h⟩
    · rename_i hdrained
      split at h
      · rename_i hclose
        exact Or.inr ⟨Or.inr (Or.inl (hwritten.flags.1.symm.trans hclose)), hclosed _ h⟩
      · rename_i hclose
        cases h
        exact Or.inl ⟨rfl, by simpa using hclose, fun hflag hzero => hdrained ⟨hflag, hzero⟩⟩

/-- `post_read` links a socket unless one with its descriptor is linked. -/
def Posted (w : World) (id : Nat) (sk : Sk) (w' : World) : Prop :=
  ∃ linked, has_fd w sk.fd w.work_list = .ok linked ∧
    w' = { w with work_list := if linked then w.work_list else w.work_list ++ [id] }

theorem post_read_inv {w w' : World} {id : Nat} {sk : Sk} (hget : w.get id = some sk)
    (h : post_read w id = .ok w') : Posted w id sk w' := by
  unfold post_read at h
  simp only [World.deref_of_get hget, Except.ok_bind] at h
  obtain ⟨linked, hlinked, h⟩ := Except.bind_eq_ok_iff.mp h
  refine ⟨linked, hlinked, ?_⟩
  cases linked with
  | true =>
    cases h
    rfl
  | false =>
    cases h
    rfl

/-- A read reports an error or the end of the stream, and there is no further attempt. -/
def ReadFails (cfg : Config) (read : ReadResult) (retry : Bool) (sk : Sk) : Prop :=
  skb_wrsz sk.recvbuf ≠ 0 ∧ (read = .error ∨ read = .ok []) ∧
    ¬ (retry = true ∧ sk.retries + 1 < cfg.fhostname_num)

instance (cfg : Config) (read : ReadResult) (retry : Bool) (sk : Sk) : Decidable (ReadFails cfg read retry sk) :=
  inferInstanceAs (Decidable (_ ∧ _ ∧ _))

/-- What `on_read` does with a socket. -/
inductive OnRead (cfg : Config) (read : ReadResult) (retry : Bool) (now : Timespec) (w : World) (id : Nat) (sk : Sk) :
    World → Prop
  | bytes (bytes : List UInt8) (wsd_errno : Errno) (w' : World) (hread : read = .ok bytes) (hne : bytes ≠ [])
      (hroom : skb_wrsz sk.recvbuf ≠ 0)
      (hposted : Posted
        { w.set id { sk with recvbuf := skb_put sk.recvbuf bytes, ts_last_io := now } with wsd_errno } id
        { sk with recvbuf := skb_put sk.recvbuf bytes, ts_last_io := now } w') : OnRead cfg read retry now w id sk w'
  | full (wsd_errno : Errno) (w' : World) (hroom : skb_wrsz sk.recvbuf = 0)
      (hposted : Posted { w.set id { turn_off_events sk EPOLLIN with ts_last_io := now } with wsd_errno } id
        { turn_off_events sk EPOLLIN with ts_last_io := now } w') : OnRead cfg read retry now w id sk w'
  | retry (retries : UInt8) (wsd_errno : Errno) (num : Nat) :
      OnRead cfg read retry now w id sk { w.set id { sk with ts_last_io := now, retries } with wsd_errno, num }
  | closed (retries : UInt8) (wsd_errno : Errno) (num : Nat) (w' : World) (hfails : ReadFails cfg read retry sk)
      (hclosed : Closed { w.set id { sk with ts_last_io := now, retries } with wsd_errno, num } id
        { sk with ts_last_io := now, retries } w') : OnRead cfg read retry now w id sk w'

/-- `sk_read` appends bytes, finds no room for any, or fails. -/
theorem sk_read_cases {read : ReadResult} {sk sk' : Sk} {rv : Int} {wsd_errno errno' : Errno}
    (h : sk_read read sk wsd_errno = .ok (rv, sk', errno')) :
    (∃ bytes, read = .ok bytes ∧ bytes ≠ [] ∧ skb_wrsz sk.recvbuf ≠ 0 ∧ rv = 0 ∧
      sk' = { sk with recvbuf := skb_put sk.recvbuf bytes }) ∨
    (skb_wrsz sk.recvbuf = 0 ∧ errno' = .WSD_EAGAIN ∧ sk' = turn_off_events sk EPOLLIN) ∨
      rv = -1 ∧ errno' = .WSD_CHECKERRNO ∧ sk' = sk ∧ skb_wrsz sk.recvbuf ≠ 0 ∧ (read = .error ∨ read = .ok []) := by
  unfold sk_read at h
  obtain ⟨-, -, h⟩ := Except.bind_eq_ok_iff.mp h
  by_cases hroom : skb_wrsz sk.recvbuf = 0
  · rw [if_pos hroom] at h
    cases h
    exact Or.inr (Or.inl ⟨hroom, rfl, rfl⟩)
  rw [if_neg hroom] at h
  cases read with
  | error =>
    cases h
    exact Or.inr (Or.inr ⟨rfl, rfl, rfl, hroom, Or.inl rfl⟩)
  | ok bytes =>
    cases bytes with
    | nil =>
      cases h
      exact Or.inr (Or.inr ⟨rfl, rfl, rfl, hroom, Or.inr rfl⟩)
    | cons byte bytes =>
      cases h
      exact Or.inl ⟨byte :: bytes, rfl, List.cons_ne_nil _ _, hroom, rfl, rfl⟩

theorem on_read_inv {cfg : Config} {read : ReadResult} {retry : Bool} {now : Timespec} {w w' : World} {id : Nat}
    (hwf : w.Wf) (h : on_read cfg read retry now w id = .ok w') :
    ∃ sk, w.get id = some sk ∧ sk.close_on_write = false ∧ sk.close = false ∧ OnRead cfg read retry now w id sk w' := by
  unfold on_read at h
  obtain ⟨sk, hderef, h⟩ := Except.bind_eq_ok_iff.mp h
  have hget := World.deref_eq_ok hderef
  obtain ⟨_, hclose_on_write, h⟩ := Except.bind_eq_ok_iff.mp h
  obtain ⟨_, hclose, h⟩ := Except.bind_eq_ok_iff.mp h
  have hclose_on_write' : sk.close_on_write = false := by simpa using assert_eq_ok_iff.mp hclose_on_write
  have hclose' : sk.close = false := by simpa using assert_eq_ok_iff.mp hclose
  refine ⟨sk, hget, hclose_on_write', hclose', ?_⟩
  obtain ⟨⟨rv, sk1, e⟩, hread, hrest⟩ := Except.bind_eq_ok_iff.mp h
  simp only at hrest
  obtain ⟨bytes, hbytes, hne, hroom, hrv, hsk⟩ | ⟨hroom, he, hsk⟩ |
    ⟨hrv, he, hsk, hroom, hend⟩ := sk_read_cases hread
  · rw [hrv, hsk, if_neg (by simp)] at hrest
    obtain ⟨w1, hpost, hret⟩ := Except.bind_eq_ok_iff.mp hrest
    have hposted := post_read_inv (w := { w.set id
      { sk with recvbuf := skb_put sk.recvbuf bytes, ts_last_io := now } with wsd_errno := e })
      (World.get_set_self w id _) hpost
    simp only [hclose', Bool.false_eq_true, if_false] at hret
    cases hret
    exact .bytes bytes e w' hbytes hne hroom hposted
  · rw [he, hsk, if_neg (by simp)] at hrest
    obtain ⟨w1, hpost, hret⟩ := Except.bind_eq_ok_iff.mp hrest
    have hposted := post_read_inv (w := { w.set id { turn_off_events sk EPOLLIN with ts_last_io := now } with
      wsd_errno := .WSD_EAGAIN }) (World.get_set_self w id _) hpost
    simp only [turn_off_events, hclose', Bool.false_eq_true, if_false] at hret
    cases hret
    exact .full .WSD_EAGAIN w' hroom hposted
  · rw [hrv, he, hsk, if_pos ⟨by decide, by decide⟩, if_pos rfl] at hrest
    have hfail (retries : UInt8) (num : Nat) (w'' : World)
        (hlast : ¬ (retry = true ∧ sk.retries + 1 < cfg.fhostname_num))
        (hclose : close { w.set id { sk with ts_last_io := now, retries } with wsd_errno := .WSD_CHECKERRNO, num } id =
          .ok w'') : OnRead cfg read retry now w id sk w'' := by
      have hset := @World.Wf.set _ _ _ { sk with ts_last_io := now, retries } hwf hget (fun hc => hc.of_eq rfl rfl)
        (fun hb => hb.of_eq rfl rfl)
      exact .closed retries .WSD_CHECKERRNO num w'' ⟨hroom, hend, hlast⟩ (close_get ⟨hset.client, hset.backend⟩
        (World.get_set_self w id { sk with ts_last_io := now, retries }) hclose)
    cases retry with
    | false =>
      simp only [check_errno, Bool.false_eq_true, if_false, show ¬ (-1 : Int) = 0 by decide] at hrest
      exact hfail sk.retries _ w' (by simp) hrest
    | true =>
      simp only [check_errno, if_true, next_host, World.set_set_num] at hrest
      split at hrest
      · cases hrest
        exact .retry (sk.retries + 1) .WSD_CHECKERRNO _
      · rename_i hlast
        exact hfail (sk.retries + 1) _ w' (fun h => hlast h.2) hrest

/-- The three flags of a socket whose closing has not begun. -/
def Sk.Quiet (sk : Sk) : Prop :=
  sk.closing = false ∧ sk.close = false ∧ sk.close_on_write = false

/-- What `check_timeouts` does with a socket. -/
inductive CheckTimeouts (cfg : Config) (now : Timespec) (w : World) (id : Nat) (sk : Sk) : World → Prop
  | unchanged (wsd_errno : Errno) : CheckTimeouts cfg now w id sk { w.set id sk with wsd_errno }
  /-- An idle socket without a closing handshake, or without room for it, is closed. -/
  | idle (wsd_errno : Errno) (w' : World) (hquiet : sk.Quiet)
      (hidle : cfg.idle_timeout ≠ -1 ∧ check_timeout sk now cfg.idle_timeout = true)
      (hclosed : Closed { w.set id sk with wsd_errno } id sk w') : CheckTimeouts cfg now w id sk w'
  | started (sendbuf : Skb) (wsd_errno : Errno) (hquiet : sk.Quiet)
      (hproto : sk.proto.start_closing_handshake = some .ws_start_closing_handshake)
      (hsend : sk.sendbuf.Ok → sk.sendbuf.Appended (closeFrame WS_1000 false) sendbuf) :
      CheckTimeouts cfg now w id sk { w.set id { sk with
        sendbuf
        events := sk.events.union EPOLLOUT
        closing := true
        ts_closing_handshake_start := now } with wsd_errno }
  | timedOut (wsd_errno : Errno) (w' : World) (hclosing : sk.closing = true)
      (htimedOut : has_timed_out sk.ts_closing_handshake_start now cfg.closing_handshake_timeout = true)
      (hclosed : Closed { w.set id sk with wsd_errno } id sk w') : CheckTimeouts cfg now w id sk w'
  | pinged (sendbuf : Skb) (wsd_errno : Errno) (hquiet : sk.Quiet) (hproto : sk.proto.ping = some .ws_ping)
      (hsend : sk.sendbuf.Ok → sk.sendbuf.Appended (pingPongFrame WS_PING_FRAME false) sendbuf) :
      CheckTimeouts cfg now w id sk
        { w.set id { sk with sendbuf, events := sk.events.union EPOLLOUT } with wsd_errno }

/-- The idle check leaves a socket alone, finds it to be closed at once, or has
    started its closing handshake. -/
theorem check_idle_inv {cfg : Config} {now : Timespec} {sk sk' : Sk} {idle : Bool} {wsd_errno errno' : Errno}
    (h : check_idle cfg now sk wsd_errno = .ok (idle, sk', errno')) :
    (idle = false ∧ sk' = sk) ∨
      (idle = true ∧ sk' = sk ∧ sk.Quiet ∧ cfg.idle_timeout ≠ -1 ∧ check_timeout sk now cfg.idle_timeout = true) ∨
      idle = false ∧ sk.Quiet ∧ sk.proto.start_closing_handshake = some .ws_start_closing_handshake ∧ ∃ sendbuf,
        (sk.sendbuf.Ok → sk.sendbuf.Appended (closeFrame WS_1000 false) sendbuf) ∧
        sk' = { sk with
          sendbuf
          events := sk.events.union EPOLLOUT
          closing := true
          ts_closing_handshake_start := now } := by
  unfold check_idle at h
  by_cases hidle : cfg.idle_timeout ≠ -1 ∧ check_timeout sk now cfg.idle_timeout
  · rw [if_pos hidle] at h
    have hquiet : sk.Quiet := check_timeout_flags hidle.2
    cases hproto : sk.proto.start_closing_handshake with
    | none =>
      simp only [hproto] at h
      cases h
      exact Or.inr (Or.inl ⟨rfl, rfl, hquiet, hidle⟩)
    | some handler =>
      cases handler
      simp only [hproto] at h
      obtain ⟨⟨rv, sk1, e⟩, hstart, hrest⟩ := Except.bind_eq_ok_iff.mp h
      obtain ⟨-, ⟨hrv, -, sendbuf, hsk, hsend⟩ | ⟨hrv, -, hsk⟩⟩ := ws_start_closing_handshake_inv hstart
      · simp only [hrv, hsk, show ¬ (0 : Int) < 0 by decide, if_false] at hrest
        cases hrest
        exact Or.inr (Or.inr ⟨rfl, hquiet, rfl, sendbuf, hsend, rfl⟩)
      · simp only [hrv, hsk, show (-1 : Int) < 0 by decide, if_true] at hrest
        cases hrest
        exact Or.inr (Or.inl ⟨rfl, rfl, hquiet, hidle⟩)
  · rw [if_neg hidle] at h
    cases h
    exact Or.inl ⟨rfl, rfl⟩

/-- No time has passed at the instant itself. -/
theorem has_timed_out_self (now : Timespec) (timeout : Int) : has_timed_out now now timeout = false := by
  have hdiff : ((now.tv_sec - now.tv_sec) * 1000 % 2 ^ 64 + (now.tv_nsec - now.tv_nsec).tdiv 1000000) % 2 ^ 64 = 0 := by
    simp
  have hle : 0 ≤ timeout % 2 ^ 64 := Int.emod_nonneg _ (by decide)
  simp only [has_timed_out, hdiff]
  exact decide_eq_false (by omega)

theorem check_closing_handshake_timeout_inv {sk : Sk} {now : Timespec} {timeout : Int} {timedOut : Bool}
    (h : check_closing_handshake_timeout sk now timeout = .ok timedOut) :
    0 < timeout ∧ timedOut = (sk.closing && has_timed_out sk.ts_closing_handshake_start now timeout) := by
  unfold check_closing_handshake_timeout at h
  obtain ⟨_, hpos, h⟩ := Except.bind_eq_ok_iff.mp h
  refine ⟨of_decide_eq_true (assert_eq_ok_iff.mp hpos), ?_⟩
  cases hclosing : sk.closing with
  | true =>
    simp only [hclosing, if_true] at h
    cases h
    rfl
  | false =>
    simp only [hclosing, Bool.false_eq_true, if_false] at h
    cases h
    rfl

theorem check_timeouts_inv {cfg : Config} {now : Timespec} {w w' : World} {id : Nat} (hwf : w.Wf)
    (h : check_timeouts cfg now w id = .ok w') :
    ∃ sk, w.get id = some sk ∧ CheckTimeouts cfg now w id sk w' := by
  unfold check_timeouts at h
  obtain ⟨sk, hderef, h⟩ := Except.bind_eq_ok_iff.mp h
  have hget := World.deref_eq_ok hderef
  refine ⟨sk, hget, ?_⟩
  obtain ⟨⟨idle, sk1, e⟩, hidle, hrest⟩ := Except.bind_eq_ok_iff.mp h
  simp only at hrest
  have hset := @World.Wf.set _ _ _ sk hwf hget (fun hc => hc) (fun hb => hb)
  have hclosed (w'' : World) (hclose : close { w.set id sk with wsd_errno := e } id = .ok w'') :
      Closed { w.set id sk with wsd_errno := e } id sk w'' :=
    close_get ⟨hset.client, hset.backend⟩ (World.get_set_self w id sk) hclose
  obtain ⟨hno, hsk⟩ | ⟨hyes, hsk, hquiet, hidle'⟩ |
    ⟨hno, hquiet, hproto, sendbuf, hsend, hsk⟩ := check_idle_inv hidle
  · rw [hno, hsk, if_neg (by decide)] at hrest
    obtain ⟨timedOut, htimeout, hrest⟩ := Except.bind_eq_ok_iff.mp hrest
    obtain ⟨-, htimedOut⟩ := check_closing_handshake_timeout_inv htimeout
    cases timedOut with
    | true =>
      rw [if_pos rfl] at hrest
      have hboth := Bool.and_eq_true_iff.mp htimedOut.symm
      exact .timedOut e w' hboth.1 hboth.2 (hclosed w' hrest)
    | false =>
      rw [if_neg (by decide)] at hrest
      cases hping : check_timeout sk now cfg.ping_interval with
      | false =>
        simp only [hping, Bool.false_eq_true, if_false] at hrest
        cases hrest
        exact .unchanged e
      | true =>
        simp only [hping, if_true] at hrest
        obtain ⟨⟨rv, sk2, e2⟩, hsent, hret⟩ := Except.bind_eq_ok_iff.mp hrest
        have hquiet : sk.Quiet := check_timeout_flags hping
        cases hproto : sk.proto.ping with
        | none =>
          rw [hproto] at hsent
          cases hsent
        | some handler =>
          rw [hproto] at hsent
          simp only [World.set_set, Except.pure_eq_ok, Except.ok.injEq] at hret
          cases handler with
          | ws_ping =>
            subst hret
            obtain ⟨-, ⟨-, -, sendbuf, rfl, hsend⟩ | ⟨-, -, rfl⟩⟩ := put_ping_pong_inv hsent
            · exact .pinged sendbuf e2 hquiet hproto hsend
            · exact .unchanged e2
          | pp2_nop =>
            cases hsent
            subst hret
            exact .unchanged e
  · rw [hyes, hsk, if_pos rfl] at hrest
    exact .idle e w' hquiet hidle' (hclosed w' hrest)
  · rw [hno, hsk, if_neg (by decide)] at hrest
    obtain ⟨timedOut, htimeout, hrest⟩ := Except.bind_eq_ok_iff.mp hrest
    obtain ⟨-, htimedOut⟩ := check_closing_handshake_timeout_inv htimeout
    simp only [has_timed_out_self now, Bool.and_false] at htimedOut
    have hping (sk' : Sk) (hclosing : sk'.closing = true) : check_timeout sk' now cfg.ping_interval = false := by
      simp [check_timeout, hclosing]
    rw [htimedOut, if_neg (by decide), hping _ rfl, if_neg (by decide)] at hrest
    cases hrest
    exact .started sendbuf e hquiet hproto hsend

/-- The branches of `on_epoll_event` by event mask. -/
inductive OnEvent (cfg : Config) (env : Env) (now : Timespec) (w : World) (id : Nat) (events : EpollEvents) (sk : Sk) :
    World → Prop
  | read (w' : World) (hevents : events.EPOLLIN = true ∨ events.EPOLLPRI = true)
      (hclose_on_write : sk.close_on_write = false) (hclose : sk.close = false)
      (hread : OnRead cfg env.read env.retry now w id sk w') : OnEvent cfg env now w id events sk w'
  | write (sk' : Sk) (wsd_errno : Errno) (hwritten : Written env.write now sk sk') (hclose : sk'.close = false)
      (hdrained : sk'.close_on_write = true → skb_rdsz sk'.sendbuf ≠ 0) :
      OnEvent cfg env now w id events sk { w.set id sk' with wsd_errno }
  | writeClosed (sk' : Sk) (wsd_errno : Errno) (w' : World)
      (hevents : ¬ (events.EPOLLIN = true ∨ events.EPOLLPRI = true) ∧ events.EPOLLOUT = true)
      (hends : WriteEnds env.write sk) (hwritten : Written env.write now sk sk')
      (hclosed : Closed { w.set id sk' with wsd_errno } id sk' w') : OnEvent cfg env now w id events sk w'
  | closed (w' : World)
      (hevents : ¬ (events.EPOLLIN = true ∨ events.EPOLLPRI = true) ∧ ¬ events.EPOLLOUT = true ∧
        (events.EPOLLERR = true ∨ events.EPOLLHUP = true ∨ events.EPOLLRDHUP = true))
      (hclosed : Closed w id sk w') : OnEvent cfg env now w id events sk w'
  | unchanged : OnEvent cfg env now w id events sk w

theorem on_epoll_event_inv {cfg : Config} {env : Env} {now : Timespec} {w w' : World} {id : Nat}
    {events : EpollEvents} (hwf : w.Wf)
    (h : on_epoll_event cfg env.read env.write env.retry now w id events = .ok w') :
    ∃ sk, w.get id = some sk ∧ OnEvent cfg env now w id events sk w' := by
  unfold on_epoll_event at h
  obtain ⟨sk, hderef, h⟩ := Except.bind_eq_ok_iff.mp h
  have hget := World.deref_eq_ok hderef
  obtain ⟨-, -, h⟩ := Except.bind_eq_ok_iff.mp h
  refine ⟨sk, hget, ?_⟩
  split at h
  · rename_i hevents
    obtain ⟨sk1, hget1, hclose_on_write, hclose, hread⟩ := on_read_inv hwf h
    have hsame : sk1 = sk := Option.some.inj (hget1.symm.trans hget)
    subst hsame
    exact .read w' hevents hclose_on_write hclose hread
  · rename_i hin
    split at h
    · rename_i hout
      obtain ⟨sk1, sk', e, hget1, hwritten, hw'⟩ := on_write_inv hwf h
      have hsame : sk1 = sk := Option.some.inj (hget1.symm.trans hget)
      subst hsame
      obtain ⟨rfl, hclose, hdrained⟩ | ⟨hends, hclosed⟩ := hw'
      · exact .write sk' e hwritten hclose hdrained
      · exact .writeClosed sk' e w' ⟨hin, hout⟩ hends hwritten hclosed
    · rename_i hout
      split at h
      · rename_i hend
        exact .closed w' ⟨hin, hout, hend⟩ (close_get hwf hget h)
      · cases h
        exact .unchanged

/-- The attempts to open the backend's socket all fail, or the last one succeeds. -/
theorem open_loop_inv {cfg : Config} {opens : List OpenResult} {retries : Nat} {w w' : World} {rv : Int}
    (h : open_loop cfg opens retries w = (rv, w')) :
    (rv = -1 ∧ ∃ wsd_errno num, w' = { w with wsd_errno, num }) ∨
      rv = 0 ∧ ∃ fd num, OpenResult.connected fd ∈ opens ∧
        w' = (sk_open (.connected fd) { w with num, wsd_errno := w'.wsd_errno }).2 := by
  induction retries generalizing opens w with
  | zero =>
    cases h
    exact Or.inl ⟨rfl, w'.wsd_errno, w'.num, rfl⟩
  | succ retries ih =>
    unfold open_loop at h
    cases hopen : opens.headD .no_socket with
    | connected fd =>
      rw [hopen] at h
      have hmem : OpenResult.connected fd ∈ opens := by
        cases opens with
        | nil => cases hopen
        | cons first opens =>
          rw [List.headD_cons] at hopen
          rw [hopen]
          exact List.mem_cons_self
      simp only [sk_open, show ¬ (0 : Int) < 0 by decide, false_and, if_false] at h
      cases h
      exact Or.inr ⟨rfl, fd, w.num, hmem, rfl⟩
    | no_address =>
      simp only [hopen, sk_open, show (-1 : Int) < 0 by decide, and_self, if_true] at h
      obtain ⟨hrv, wsd_errno, num, hw'⟩ | ⟨hrv, fd, num, hmem, hw'⟩ := ih h
      · exact Or.inl ⟨hrv, wsd_errno, num, hw'⟩
      · refine Or.inr ⟨hrv, fd, num, ?_, hw'⟩
        exact List.mem_of_mem_tail hmem
    | _ =>
      simp only [hopen, sk_open, reduceCtorEq, and_false, if_false] at h
      cases h
      exact Or.inl ⟨rfl, _, _, rfl⟩

/-- What the start of a receive handler does. -/
inductive RecvStep (cfg : Config) (ssl : Openssl) (env : Env) (w : World) (id : Nat) (sk : Sk) (todo : List Nat) :
    World → Pc → Prop
  | http (sk' : Sk) (statics : Statics) (wsd_errno : Errno) (rv : Int) (w' : World)
      (hrecv : sk.ops.recv = some .http_recv)
      (hhttp : http_recv cfg ssl sk w.statics = .ok (rv, sk', statics, wsd_errno))
      (htry : TryRecv { w.set id sk' with statics, wsd_errno } id rv w') :
      RecvStep cfg ssl env w id sk todo w' (.try_recv todo)
  | ws (hrecv : sk.ops.recv = some .ws_recv) (hrdsz : skb_rdsz sk.recvbuf ≠ 0) (hpp : w.pp2sk.isSome) :
      RecvStep cfg ssl env w id sk todo w (.ws_recv id 0 todo)
  | opened (fd : Int) (wsd_errno : Errno) (num : Nat) (hrecv : sk.ops.recv = some .ws_recv)
      (hrdsz : skb_rdsz sk.recvbuf ≠ 0) (hpp : w.pp2sk = none) (hfd : OpenResult.connected fd ∈ env.opens) :
      RecvStep cfg ssl env w id sk todo (sk_open (.connected fd) { w with num, wsd_errno }).2 (.ws_recv id 0 todo)
  | notOpened (wsd_errno : Errno) (num : Nat) (w' : World) (hrecv : sk.ops.recv = some .ws_recv)
      (hrdsz : skb_rdsz sk.recvbuf ≠ 0) (hpp : w.pp2sk = none)
      (htry : TryRecv { w with wsd_errno, num } id (-1) w') :
      RecvStep cfg ssl env w id sk todo w' (.try_recv todo)
  | pp2 (hrecv : sk.ops.recv = some .pp2_recv) (hrdsz : skb_rdsz sk.recvbuf ≠ 0) (hpp : w.pp2sk.isSome) :
      RecvStep cfg ssl env w id sk todo w (.pp2_recv id 0 todo)

/-- The HTTP handler keeps the kind of a client or upgrades it. -/
theorem http_recv_kind {cfg : Config} {ssl : Openssl} {sk sk' : Sk} {st st' : Statics} {rv : Int} {wsd_errno : Errno}
    (h : http_recv cfg ssl sk st = .ok (rv, sk', st', wsd_errno)) (hclient : IsClient sk) : IsClient sk' := by
  obtain ⟨-, -, hsk⟩ | hfailed | hdone := http_recv_cases h
  · rwa [hsk]
  · rw [hfailed.sk_eq]
    exact hclient.of_eq rfl rfl
  · rw [hdone.sk_eq]
    exact hclient.upgrade.of_eq rfl rfl

theorem ws_recv_enter_inv {cfg : Config} {opens : List OpenResult} {w w' : World} {id : Nat} {sk : Sk} {rv : Int}
    (hget : w.get id = some sk) (h : ws_recv_enter cfg opens w id = .ok (rv, w')) :
    skb_rdsz sk.recvbuf ≠ 0 ∧
      (if w.pp2sk.isNone then open_loop cfg opens cfg.fhostname_num.toNat w else (0, w)) = (rv, w') := by
  unfold ws_recv_enter at h
  obtain ⟨sk', hderef, h⟩ := Except.bind_eq_ok_iff.mp h
  have hsk : sk' = sk := Option.some.inj ((World.deref_eq_ok hderef).symm.trans hget)
  subst hsk
  obtain ⟨_, hassert, h⟩ := Except.bind_eq_ok_iff.mp h
  refine ⟨by simpa using assert_eq_ok_iff.mp hassert, ?_⟩
  by_cases hnone : w.pp2sk.isNone = true
  · rw [if_pos hnone] at h ⊢
    exact Except.ok.inj h
  · rw [if_neg hnone] at h ⊢
    exact Except.ok.inj h

theorem pp2_recv_enter_inv {w : World} {id : Nat} {sk : Sk} {u : Unit} (hget : w.get id = some sk)
    (h : pp2_recv_enter w id = .ok u) : skb_rdsz sk.recvbuf ≠ 0 ∧ w.pp2sk.isSome := by
  unfold pp2_recv_enter at h
  obtain ⟨sk', hderef, h⟩ := Except.bind_eq_ok_iff.mp h
  have hsk : sk' = sk := Option.some.inj ((World.deref_eq_ok hderef).symm.trans hget)
  subst hsk
  obtain ⟨_, hassert, h⟩ := Except.bind_eq_ok_iff.mp h
  exact ⟨by simpa using assert_eq_ok_iff.mp hassert, assert_eq_ok_iff.mp h⟩

theorem recv_step_inv {cfg : Config} {ssl : Openssl} {env : Env} {w w' : World} {id : Nat} {todo : List Nat}
    {pc : Pc} (hwf : w.Wf) (h : recv_step cfg ssl env w id todo = .ok (w', pc)) :
    ∃ sk, w.get id = some sk ∧ RecvStep cfg ssl env w id sk todo w' pc := by
  unfold recv_step at h
  obtain ⟨sk, hderef, h⟩ := Except.bind_eq_ok_iff.mp h
  have hget := World.deref_eq_ok hderef
  refine ⟨sk, hget, ?_⟩
  generalize hhttp : http_recv cfg ssl sk w.statics = result at h
  cases hrecv : sk.ops.recv with
  | none =>
    rw [hrecv] at h
    cases h
  | some handler =>
    rw [hrecv] at h
    cases handler with
    | http_recv =>
      obtain ⟨⟨rv, sk', statics, e⟩, rfl, hrest⟩ := Except.bind_eq_ok_iff.mp h
      obtain ⟨w1, htry, hret⟩ := Except.bind_eq_ok_iff.mp hrest
      cases hret
      have hset : (w.set id sk').Wf := by
        apply hwf.set hget (http_recv_kind hhttp)
        intro hbackend
        rw [hbackend.ops] at hrecv
        cases hrecv
      exact .http sk' statics e rv w' hrecv hhttp (try_recv_result_inv ⟨hset.client, hset.backend⟩ htry)
    | ws_recv =>
      obtain ⟨⟨rv, w1⟩, henter, hrest⟩ := Except.bind_eq_ok_iff.mp h
      obtain ⟨hrdsz, hopen⟩ := ws_recv_enter_inv hget henter
      cases hpp : w.pp2sk with
      | some pp =>
        rw [hpp, Option.isNone_some, if_neg (by decide)] at hopen
        cases hopen
        simp only [show ¬ (0 : Int) < 0 by decide, if_false] at hrest
        cases hrest
        exact .ws hrecv hrdsz (by rw [hpp]; rfl)
      | none =>
        rw [hpp, Option.isNone_none, if_pos rfl] at hopen
        obtain ⟨hrv, e, num, hw1⟩ | ⟨hrv, fd, num, hfd, hw1⟩ := open_loop_inv hopen
        · simp only [hrv, show (-1 : Int) < 0 by decide, if_true] at hrest
          obtain ⟨w2, htry, hret⟩ := Except.bind_eq_ok_iff.mp hrest
          cases hret
          rw [hw1] at htry
          exact .notOpened e num w' hrecv hrdsz hpp (try_recv_result_inv ⟨hwf.client, hwf.backend⟩ htry)
        · simp only [hrv, show ¬ (0 : Int) < 0 by decide, if_false] at hrest
          cases hrest
          rw [hw1]
          exact .opened fd _ num hrecv hrdsz hpp hfd
    | pp2_recv =>
      obtain ⟨_, henter, hret⟩ := Except.bind_eq_ok_iff.mp h
      cases hret
      obtain ⟨hrdsz, hpp⟩ := pp2_recv_enter_inv hget henter
      exact .pp2 hrecv hrdsz hpp

/-- The buffers which the daemon itself bounds: every receive buffer, and the
    backend's send buffer. -/
structure World.Bounded (w : World) : Prop where
  recvbuf : ∀ id sk, w.get id = some sk → sk.recvbuf.Ok
  backend : ∀ p sk, w.pp2sk = some (p, sk) → sk.sendbuf.Ok

theorem ite_turn_on (b : Prop) [Decidable b] (sk : Sk) (events : EpollEvents) :
    (if b then turn_on_events sk events else sk) =
      { sk with events := if b then sk.events.union events else sk.events } := by
  split <;> rfl

theorem ite_turn_off (b : Prop) [Decidable b] (sk : Sk) (events : EpollEvents) :
    (if b then turn_off_events sk events else sk) =
      { sk with events := if b then sk.events.diff events else sk.events } := by
  split <;> rfl

/-- The end of `ws_recv` changes the interest sets only. -/
theorem ws_recv_leave_eq (frames : Nat) (c : Conn) : ∃ events pp2events, ws_recv_leave frames c =
    { c with sk := { c.sk with events }, pp2sk := { c.pp2sk with events := pp2events } } := by
  unfold ws_recv_leave
  simp only [ite_turn_on, ite_turn_off]
  exact ⟨_, _, rfl⟩

theorem ws_recv_leave_core (frames : Nat) (c : Conn) :
    (ws_recv_leave frames c).sk.core = c.sk.core ∧ (ws_recv_leave frames c).pp2sk.core = c.pp2sk.core := by
  obtain ⟨events, pp2events, h⟩ := ws_recv_leave_eq frames c
  rw [h]
  exact ⟨rfl, rfl⟩

theorem pp2_recv_leave_eq (frames : Nat) (sk : Sk) :
    ∃ events, pp2_recv_leave frames sk = { sk with events } := by
  unfold pp2_recv_leave
  rw [ite_turn_on]
  exact ⟨_, rfl⟩

theorem pp2_recv_leave_core (frames : Nat) (sk : Sk) : (pp2_recv_leave frames sk).core = sk.core := by
  obtain ⟨events, h⟩ := pp2_recv_leave_eq frames sk
  rw [h]
  rfl

namespace World

variable {w : World} {id p : Nat} {sk sk' : Sk}

theorem conn_setConn (hpp : w.pp2sk = some (p, sk)) (c : Conn) : (w.setConn id c).conn id = .ok c := by
  simp [conn, setConn, hpp]

theorem setConn_setConn (w : World) (id : Nat) (c c' : Conn) : (w.setConn id c).setConn id c' = w.setConn id c' := by
  cases hpp : w.pp2sk <;> simp [setConn, hpp]

theorem setMux_set (hpp : w.pp2sk = some (id, sk)) (m : Mux) (sk' : Sk) :
    (w.setMux m).set id sk' = w.setMux { m with pp2sk := sk' } := by
  simp [setMux, set, hpp]

/-- A frame handler's call, seen from the world. -/
theorem decode_frame_ws {w' : World} {rv : Int} (hwf : w.Wf) (hclient : w.clients id = some sk) (hup : Upgraded sk)
    (h : decode_frame w id = .ok (rv, w')) :
    ∃ p pp2sk c', w.pp2sk = some (p, pp2sk) ∧
      ws_decode_frame { sk, pp2sk, wsd_errno := w.wsd_errno } = .ok (rv, c') ∧ w' = w.setConn id c' := by
  unfold decode_frame at h
  obtain ⟨sk1, hderef, h⟩ := Except.bind_eq_ok_iff.mp h
  have hsk : sk1 = sk := Option.some.inj ((deref_eq_ok hderef).symm.trans (hwf.get_of_client hclient))
  subst hsk
  rw [hup.decode_frame] at h
  obtain ⟨c, hconn, h⟩ := Except.bind_eq_ok_iff.mp h
  obtain ⟨⟨rv', c'⟩, hdecode, hret⟩ := Except.bind_eq_ok_iff.mp h
  cases hret
  obtain ⟨p, hsk, hpp, herrno⟩ := conn_eq_ok hconn
  refine ⟨p, c.pp2sk, c', hpp, ?_, rfl⟩
  have hc : c = { sk := sk1, pp2sk := c.pp2sk, wsd_errno := w.wsd_errno } := by
    rw [hclient] at hsk
    cases hsk
    rw [← herrno]
  rwa [← hc]

theorem decode_frame_of_ws {pp2sk : Sk} {c' : Conn} {rv : Int} (hwf : w.Wf) (hclient : w.clients id = some sk)
    (hpp : w.pp2sk = some (p, pp2sk)) (hup : Upgraded sk)
    (h : ws_decode_frame { sk, pp2sk, wsd_errno := w.wsd_errno } = .ok (rv, c')) :
    decode_frame w id = .ok (rv, w.setConn id c') := by
  unfold decode_frame
  rw [deref_of_get (hwf.get_of_client hclient), Except.ok_bind, hup.decode_frame]
  simp only [conn_of_get hclient hpp, Except.ok_bind, h, Except.pure_eq_ok]

theorem decode_frame_pp2 {w' : World} {rv : Int} (hpp : w.pp2sk = some (id, sk)) (hkind : IsBackend sk)
    (h : decode_frame w id = .ok (rv, w')) :
    ∃ m', pp2_decode_frame { clients := w.clients, sk_hash := w.sk_hash, pp2sk := sk, wsd_errno := w.wsd_errno } =
      .ok (rv, m') ∧ w' = w.setMux m' := by
  unfold decode_frame at h
  obtain ⟨sk1, hderef, h⟩ := Except.bind_eq_ok_iff.mp h
  have hsk : sk1 = sk := Option.some.inj ((deref_eq_ok hderef).symm.trans (get_backend hpp))
  subst hsk
  rw [hkind.proto] at h
  obtain ⟨m, hmux, h⟩ := Except.bind_eq_ok_iff.mp h
  obtain ⟨⟨rv', m'⟩, hdecode, hret⟩ := Except.bind_eq_ok_iff.mp h
  cases hret
  refine ⟨m', ?_, rfl⟩
  unfold mux at hmux
  rw [hpp] at hmux
  cases hmux
  exact hdecode

end World

/-- The steps of the loop in `ws_recv`. -/
inductive WsRecvStep (w : World) (id frames : Nat) (todo : List Nat) (c : Conn) : World → Pc → Prop
  | frame (c' : Conn) (hdecoded : Decoded c 0 c') :
      WsRecvStep w id frames todo c (w.setConn id c') (.ws_recv id (frames + 1) todo)
  | done (rv : Int) (c' : Conn) (w' : World) (hrv : rv ≠ 0) (hdecoded : Decoded c rv c')
      (htry : TryRecv (w.setConn id (ws_recv_leave frames c')) id rv w') :
      WsRecvStep w id frames todo c w' (.try_recv todo)

theorem ws_recv_step_inv {w w' : World} {id frames : Nat} {todo : List Nat} {pc : Pc} {sk : Sk} (hwf : w.Wf)
    (hbounded : w.Bounded) (hclient : w.clients id = some sk) (hup : Upgraded sk)
    (h : ws_recv_step w id frames todo = .ok (w', pc)) :
    ∃ p pp2sk, w.pp2sk = some (p, pp2sk) ∧
      WsRecvStep w id frames todo { sk, pp2sk, wsd_errno := w.wsd_errno } w' pc := by
  unfold ws_recv_step at h
  obtain ⟨⟨rv, w1⟩, hframe, hrest⟩ := Except.bind_eq_ok_iff.mp h
  obtain ⟨p, pp2sk, c', hpp, hdecode, rfl⟩ := World.decode_frame_ws hwf hclient hup hframe
  refine ⟨p, pp2sk, hpp, ?_⟩
  have hbackend := hwf.backend p pp2sk hpp
  have hdecoded := ws_decode_frame_inv (c := { sk, pp2sk, wsd_errno := w.wsd_errno })
    (hbounded.recvbuf id sk (hwf.get_of_client hclient)) (hbounded.backend p pp2sk hpp)
    (by rw [hbackend.1.proto]) hup hdecode
  by_cases hrv : rv = 0
  · subst hrv
    simp only [if_true] at hrest
    cases hrest
    exact .frame c' hdecoded
  · simp only [if_neg hrv] at hrest
    obtain ⟨c1, hconn, hrest⟩ := Except.bind_eq_ok_iff.mp hrest
    obtain ⟨w2, htry, hret⟩ := Except.bind_eq_ok_iff.mp hrest
    cases hret
    rw [World.conn_setConn hpp] at hconn
    cases hconn
    rw [World.setConn_setConn] at htry
    have hcore := hdecoded.core
    have hleave := ws_recv_leave_core frames c'
    refine .done rv c' w' hrv hdecoded (try_recv_result_inv ?_ htry)
    exact hwf.setConn hclient hpp ((hwf.client id sk hclient).1.of_core (hleave.1.trans hcore.1))
      (hbackend.1.of_core (hleave.2.trans hcore.2))

/-- The steps of the loop in `pp2_recv`. -/
inductive Pp2RecvStep (w : World) (id frames : Nat) (todo : List Nat) (m : Mux) : World → Pc → Prop
  | frame (m' : Mux) (hdemuxed : Demuxed m 0 m') :
      Pp2RecvStep w id frames todo m (w.setMux m') (.pp2_recv id (frames + 1) todo)
  | done (rv : Int) (m' : Mux) (w' : World) (hrv : rv ≠ 0) (hdemuxed : Demuxed m rv m')
      (htry : TryRecv (w.setMux { m' with pp2sk := pp2_recv_leave frames m'.pp2sk }) id rv w') :
      Pp2RecvStep w id frames todo m w' (.try_recv todo)

theorem pp2_recv_step_inv {w w' : World} {id frames : Nat} {todo : List Nat} {pc : Pc} {sk : Sk} (hwf : w.Wf)
    (hbounded : w.Bounded) (hpp : w.pp2sk = some (id, sk)) (h : pp2_recv_step w id frames todo = .ok (w', pc)) :
    Pp2RecvStep w id frames todo
      { clients := w.clients, sk_hash := w.sk_hash, pp2sk := sk, wsd_errno := w.wsd_errno } w' pc := by
  unfold pp2_recv_step at h
  obtain ⟨⟨rv, w1⟩, hframe, hrest⟩ := Except.bind_eq_ok_iff.mp h
  have hbackend := hwf.backend id sk hpp
  obtain ⟨m', hdecode, rfl⟩ := World.decode_frame_pp2 hpp hbackend.1 hframe
  have hclients (j : Nat) (cl : Sk) (hcl : w.clients j = some cl) :
      cl.proto.encode_frame ≠ some .pp2_encode_frame := (hwf.client j cl hcl).1.encode_ne
  have hdemuxed := pp2_decode_frame_inv
    (m := { clients := w.clients, sk_hash := w.sk_hash, pp2sk := sk, wsd_errno := w.wsd_errno })
    (hbounded.recvbuf id sk (World.get_backend hpp)) hclients hdecode
  by_cases hrv : rv = 0
  · subst hrv
    simp only [if_true] at hrest
    cases hrest
    exact .frame m' hdemuxed
  · simp only [if_neg hrv] at hrest
    obtain ⟨sk1, hderef, hrest⟩ := Except.bind_eq_ok_iff.mp hrest
    obtain ⟨w2, htry, hret⟩ := Except.bind_eq_ok_iff.mp hrest
    cases hret
    have hsk1 : sk1 = m'.pp2sk := by
      have hget := World.deref_eq_ok hderef
      rw [@World.get_backend _ _ m'.pp2sk (by simp [World.setMux, hpp])] at hget
      exact (Option.some.inj hget).symm
    subst hsk1
    rw [World.setMux_set hpp] at htry
    refine .done rv m' w' hrv hdemuxed (try_recv_result_inv ?_ htry)
    refine hwf.setMux hpp ?_ (hbackend.1.of_core ((pp2_recv_leave_core frames m'.pp2sk).trans hdemuxed.core))
    intro j cl' hcl'
    obtain ⟨cl, hcl, hcore⟩ := hdemuxed.clients_core hcl'
    exact ⟨(hwf.client j cl hcl).1.of_core hcore, cl, hcl⟩

end wsd

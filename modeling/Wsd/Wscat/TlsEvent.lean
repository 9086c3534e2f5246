import Wsd.Wscat.Beside
import Wsd.Wscat.Outgoing
import Wsd.Wscat.TlsRequest

namespace wsd

namespace wscat.tls

variable {opt : Options} {cfg : RequestConfig} {env : Env} {now : Timespec} {c c' : Wscat} {sk sk1 : Sk}
  {ops ops1 ops' : TlsOps} {events : EpollEvents} {rv : Int} {e e1 : Errno}

section Calls

/-- The text of the request which a call of the handlers puts, if it completes a handshake. -/
def renewed (cfg : RequestConfig) (ops ops' : TlsOps) (sendbuf : Skb) : List UInt8 :=
  if ops = .handshake ∧ ops' = .transfer then requestKept cfg (skb_wrsz sendbuf) else []

theorem renewed_handshake (cfg : RequestConfig) (ops : TlsOps) (sendbuf : Skb) :
    renewed cfg ops .handshake sendbuf = [] :=
  if_neg fun h => nomatch h.2

theorem renewed_transfer (cfg : RequestConfig) (ops' : TlsOps) (sendbuf : Skb) :
    renewed cfg .transfer ops' sendbuf = [] :=
  if_neg fun h => nomatch h.1

/-- What a call of the handlers takes from the send buffer and puts into it. It leaves the closing to others. -/
structure Passes (cfg : RequestConfig) (sk : Sk) (ops : TlsOps) (taken : List UInt8) (sk1 : Sk) (ops1 : TlsOps) :
    Prop where
  ok : sk1.sendbuf.Ok
  bytes : taken ++ sk1.sendbuf.readable = sk.sendbuf.readable ++ renewed cfg ops ops1 sk.sendbuf
  closing : sk1.closing = sk.closing
  close : sk1.close = sk.close
  close_on_write : sk1.close_on_write = sk.close_on_write

/-- A call which leaves the send buffer alone and completes no handshake. -/
theorem Passes.quiet {recvbuf : Skb} {events : EpollEvents} (hok : sk.sendbuf.Ok)
    (hops : ops = .transfer ∨ ops1 = .handshake) : Passes cfg sk ops [] { sk with recvbuf, events } ops1 := by
  refine ⟨hok, ?_, rfl, rfl, rfl⟩
  have hnone : renewed cfg ops ops1 sk.sendbuf = [] := by
    obtain rfl | rfl := hops
    · exact renewed_transfer ..
    · exact renewed_handshake ..
  rw [hnone, List.nil_append, List.append_nil]

/-- A handshake is completed, or waits for what the library asks for, or fails. -/
theorem wssk_tls_handshake_cases {ssl : Except SslError Unit} (h : wssk_tls_handshake cfg ssl sk = .ok (rv, sk1, ops1)) :
    ops1 = .transfer ∨ ops1 = .handshake ∧ ∃ err events, ssl = .error err ∧ sk1 = { sk with events } ∧
      (err = .SSL_ERROR_WANT_READ ∧ events.EPOLLIN = true ∨ err = .SSL_ERROR_WANT_WRITE ∧ events.EPOLLOUT = true ∨
        err ≠ .SSL_ERROR_WANT_READ ∧ err ≠ .SSL_ERROR_WANT_WRITE ∧ rv = -1 ∧ events = sk.events) := by
  cases ssl with
  | ok u =>
    obtain ⟨⟨rv1, sk2⟩, -, h⟩ := Except.bind_eq_ok_iff.mp h
    dsimp only at h
    split at h
    · cases h
      exact .inl rfl
    · cases h
      exact .inl rfl
  | error err =>
    refine .inr ?_
    cases err with
    | SSL_ERROR_WANT_READ =>
      cases h
      exact ⟨rfl, _, _, rfl, rfl, .inl ⟨rfl, by simp [EpollEvents.union, EPOLLIN]⟩⟩
    | SSL_ERROR_WANT_WRITE =>
      cases h
      exact ⟨rfl, _, _, rfl, rfl, .inr (.inl ⟨rfl, by simp [EpollEvents.union, EPOLLOUT]⟩)⟩
    | SSL_ERROR_ZERO_RETURN =>
      cases h
      exact ⟨rfl, _, sk.events, rfl, rfl, .inr (.inr ⟨by decide, by decide, rfl, rfl⟩)⟩
    | other =>
      cases h
      exact ⟨rfl, _, sk.events, rfl, rfl, .inr (.inr ⟨by decide, by decide, rfl, rfl⟩)⟩

theorem wssk_tls_handshake_passes {ssl : Except SslError Unit} (hok : sk.sendbuf.Ok)
    (h : wssk_tls_handshake cfg ssl sk = .ok (rv, sk1, ops1)) : Passes cfg sk .handshake [] sk1 ops1 := by
  cases ssl with
  | error err =>
    cases err <;>
    · cases h
      exact .quiet hok (.inr rfl)
  | ok u =>
    obtain ⟨⟨rv1, sk2⟩, hcreate, h⟩ := Except.bind_eq_ok_iff.mp h
    obtain ⟨rfl, sendbuf, rfl, hext⟩ := create_http_req_kept hok hcreate
    cases h
    exact ⟨hext.ok hok, (List.nil_append _).trans (hext.readable hok), rfl, rfl, rfl⟩

theorem ops_read_handshake (h : ops_read cfg env .handshake sk e = .ok (rv, sk1, ops1, e1)) :
    e1 = e ∧ wssk_tls_handshake cfg env.SSL_do_handshake (turn_off_events sk EPOLLIN) = .ok (rv, sk1, ops1) := by
  unfold ops_read at h
  obtain ⟨⟨rv1, sk2, ops2⟩, hcall, hret⟩ := Except.bind_eq_ok_iff.mp h
  cases hret
  exact ⟨rfl, hcall⟩

theorem ops_write_handshake (h : ops_write cfg env .handshake sk e = .ok (rv, sk1, ops1, e1)) :
    e1 = e ∧ wssk_tls_handshake cfg env.SSL_do_handshake (turn_off_events sk EPOLLOUT) = .ok (rv, sk1, ops1) := by
  unfold ops_write at h
  obtain ⟨⟨rv1, sk2, ops2⟩, hcall, hret⟩ := Except.bind_eq_ok_iff.mp h
  cases hret
  exact ⟨rfl, hcall⟩

theorem ops_read_passes (hok : sk.sendbuf.Ok) (h : ops_read cfg env ops sk e = .ok (rv, sk1, ops1, e1)) :
    Passes cfg sk ops [] sk1 ops1 := by
  cases ops with
  | handshake =>
    obtain ⟨-, hcall⟩ := ops_read_handshake h
    have hpasses := @wssk_tls_handshake_passes cfg (turn_off_events sk EPOLLIN) sk1 ops1 rv env.SSL_do_handshake hok hcall
    exact ⟨hpasses.1, hpasses.2, hpasses.3, hpasses.4, hpasses.5⟩
  | transfer =>
    have hquiet {recvbuf : Skb} {events : EpollEvents} : Passes cfg sk .transfer [] { sk with recvbuf, events } ops1 :=
      .quiet hok (.inl rfl)
    have hread : wssk_tls_read env.SSL_read sk e = (rv, sk1, ops1, e1) := Except.ok.inj h
    unfold wssk_tls_read at hread
    split at hread
    · cases hread
      exact hquiet
    · split at hread <;>
      · cases hread
        exact hquiet

/-- What a write hands to the library. -/
theorem ops_write_passes (hok : sk.sendbuf.Ok) (hlen : env.sent ≤ skb_rdsz sk.sendbuf)
    (h : ops_write cfg env ops sk e = .ok (rv, sk1, ops1, e1)) :
    Passes cfg sk ops (if ops = .transfer then sk.sendbuf.readable.take env.sent else []) sk1 ops1 := by
  cases ops with
  | handshake =>
    obtain ⟨-, hcall⟩ := ops_write_handshake h
    have hpasses := @wssk_tls_handshake_passes cfg (turn_off_events sk EPOLLOUT) sk1 ops1 rv env.SSL_do_handshake hok hcall
    exact ⟨hpasses.1, hpasses.2, hpasses.3, hpasses.4, hpasses.5⟩
  | transfer =>
    rw [if_pos rfl]
    have hquiet {events : EpollEvents} (hnone : sk.sendbuf.readable.take env.sent = []) :
        Passes cfg sk .transfer (sk.sendbuf.readable.take env.sent) { sk with events } ops1 := by
      rw [hnone]
      exact .quiet hok (.inl rfl)
    have hfailed {err : SslError} (herr : env.SSL_write = .error err) : sk.sendbuf.readable.take env.sent = [] := by
      rw [Env.sent, herr, List.take_zero]
    have hwrite : wssk_tls_write env.SSL_write sk e = (rv, sk1, ops1, e1) := Except.ok.inj h
    unfold wssk_tls_write at hwrite
    split at hwrite
    · rename_i hempty
      cases hwrite
      apply hquiet
      rw [hok.readable_eq_nil_iff.mpr hempty, List.take_nil]
    · split at hwrite
      · rename_i len hssl
        cases hwrite
        have hsent : env.sent = len := by rw [Env.sent, hssl]
        rw [hsent] at hlen ⊢
        have hforward := hok.rd_forward hlen
        refine ⟨hforward.compact, ?_, rfl, rfl, rfl⟩
        rw [renewed_transfer, List.append_nil, hforward.readable_compact, hok.readable_rd_forward hlen]
        exact List.take_append_drop ..
      · rename_i hssl
        cases hwrite
        exact hquiet (hfailed hssl)
      · rename_i hssl
        cases hwrite
        exact hquiet (hfailed hssl)
      · rename_i err _ _ hssl
        cases hwrite
        exact hquiet (hfailed hssl)

end Calls

section Events

/-- What an event on the TLS connection's socket comes to. -/
inductive OnEvent (opt : Options) (cfg : RequestConfig) (env : Env) (now : Timespec) (c : Wscat) (ops : TlsOps)
    (events : EpollEvents) : Wscat → TlsOps → Prop
  | failed (sk : Sk) (rv : Int) (sk1 : Sk) (ops1 : TlsOps) (e : Errno) (hevents : Readable events)
      (hget : c.wssk = some sk) (hcall : ops_read cfg env ops sk c.wsd_errno = .ok (rv, sk1, ops1, e)) :
      OnEvent opt cfg env now c ops events (wssk_close (c.noted .wssk sk1 now e)) ops1
  | received (sk : Sk) (rv rv1 : Int) (sk1 : Sk) (ops1 : TlsOps) (e : Errno) (c1 c' : Wscat)
      (hevents : Readable events) (hget : c.wssk = some sk) (hwrite : sk.close_on_write = false)
      (hclose : sk.close = false) (hcall : ops_read cfg env ops sk c.wsd_errno = .ok (rv, sk1, ops1, e))
      (hrv : ¬ (rv < 0 ∧ e ≠ .WSD_EAGAIN))
      (hrecv : wscat.post_read opt (c.noted .wssk sk1 now e) { sk1 with ts_last_io := now } = .ok (rv1, c1))
      (hleft : c' = wssk_close c1 ∨ c' = c1 ∧ ∃ sk2, c1.wssk = some sk2 ∧ sk2.close = false) :
      OnEvent opt cfg env now c ops events c' ops1
  | write (sk : Sk) (rv : Int) (sk1 : Sk) (ops1 : TlsOps) (e : Errno) (c' : Wscat) (hevents : ¬ Readable events)
      (hout : events.EPOLLOUT = true) (hget : c.wssk = some sk)
      (hcall : ops_write cfg env ops sk c.wsd_errno = .ok (rv, sk1, ops1, e))
      (hleft : c' = wssk_close (c.noted .wssk sk1 now e) ∨
        c' = c.noted .wssk sk1 now e ∧ ¬ (rv < 0 ∧ e ≠ .WSD_EAGAIN)) :
      OnEvent opt cfg env now c ops events c' ops1
  | other (sk : Sk) (c' : Wscat) (hevents : ¬ Readable events) (hout : events.EPOLLOUT = false)
      (hget : c.wssk = some sk) (hleft : c' = wssk_close c ∨ c' = c) : OnEvent opt cfg env now c ops events c' ops

theorem OnEvent.exists (h : OnEvent opt cfg env now c ops events c' ops') : ∃ sk, c.wssk = some sk := by
  cases h with
  | failed sk rv sk1 _ e hevents hget hcall => exact ⟨sk, hget⟩
  | received sk rv rv1 sk1 _ e c1 c' hevents hget hwrite hclose hcall hrv hrecv hleft => exact ⟨sk, hget⟩
  | write sk rv sk1 _ e c' hevents hout hget hcall hleft => exact ⟨sk, hget⟩
  | other sk c' hevents hout hget hleft => exact ⟨sk, hget⟩

theorem on_read_inv (hevents : Readable events) (h : on_read opt cfg env now c ops = .ok (c', ops')) :
    OnEvent opt cfg env now c ops events c' ops' := by
  obtain ⟨sk, hget, h⟩ := Except.bind_eq_ok_iff.mp h
  obtain ⟨_, hwrite, h⟩ := Except.bind_eq_ok_iff.mp h
  obtain ⟨_, hclose, h⟩ := Except.bind_eq_ok_iff.mp h
  obtain ⟨⟨rv, sk1, ops1, e⟩, hcall, h⟩ := Except.bind_eq_ok_iff.mp h
  have hwssk : c.wssk = some sk := Wscat.deref_eq_ok_iff.mp hget
  have hopen : sk.close_on_write = false := by simpa using assert_eq_ok_iff.mp hwrite
  have hopen' : sk.close = false := by simpa using assert_eq_ok_iff.mp hclose
  dsimp only at h
  by_cases hrv : rv < 0 ∧ e ≠ .WSD_EAGAIN
  · rw [if_pos hrv] at h
    cases h
    exact .failed sk rv sk1 _ e hevents hwssk hcall
  · rw [if_neg hrv] at h
    obtain ⟨⟨rv1, c1⟩, hrecv, h⟩ := Except.bind_eq_ok_iff.mp h
    dsimp only at h
    split at h
    · cases h
      exact .received sk rv rv1 sk1 _ e c1 _ hevents hwssk hopen hopen' hcall hrv hrecv (.inl rfl)
    · obtain ⟨sk2, hget2, h⟩ := Except.bind_eq_ok_iff.mp h
      cases h
      refine .received sk rv rv1 sk1 _ e c1 _ hevents hwssk hopen hopen' hcall hrv hrecv ?_
      cases hclose2 : sk2.close with
      | true =>
        rw [if_pos rfl]
        exact .inl rfl
      | false =>
        rw [if_neg (by decide)]
        exact .inr ⟨rfl, sk2, Wscat.deref_eq_ok_iff.mp hget2, hclose2⟩

theorem on_write_inv (hevents : ¬ Readable events) (hout : events.EPOLLOUT = true)
    (h : on_write cfg env now c ops = .ok (c', ops')) : OnEvent opt cfg env now c ops events c' ops' := by
  obtain ⟨sk, hget, h⟩ := Except.bind_eq_ok_iff.mp h
  obtain ⟨⟨rv, sk1, ops1, e⟩, hcall, h⟩ := Except.bind_eq_ok_iff.mp h
  have hwssk : c.wssk = some sk := Wscat.deref_eq_ok_iff.mp hget
  dsimp only at h
  by_cases hrv : rv < 0 ∧ e ≠ .WSD_EAGAIN
  · rw [if_pos hrv] at h
    cases h
    exact .write sk rv sk1 _ e _ hevents hout hwssk hcall (.inl rfl)
  rw [if_neg hrv] at h
  split at h
  · cases h
    exact .write sk rv sk1 _ e _ hevents hout hwssk hcall (.inl rfl)
  split at h
  · cases h
    exact .write sk rv sk1 _ e _ hevents hout hwssk hcall (.inl rfl)
  · cases h
    exact .write sk rv sk1 _ e _ hevents hout hwssk hcall (.inr ⟨rfl, hrv⟩)

theorem on_epoll_event_inv (h : on_epoll_event opt cfg env now c ops events = .ok (c', ops')) :
    OnEvent opt cfg env now c ops events c' ops' := by
  obtain ⟨sk, hget, h⟩ := Except.bind_eq_ok_iff.mp h
  obtain ⟨_, -, h⟩ := Except.bind_eq_ok_iff.mp h
  have hwssk : c.wssk = some sk := Wscat.deref_eq_ok_iff.mp hget
  by_cases hevents : events.EPOLLIN = true ∨ events.EPOLLPRI = true
  · rw [if_pos hevents] at h
    exact on_read_inv hevents h
  rw [if_neg hevents] at h
  cases hout : events.EPOLLOUT with
  | true =>
    rw [hout, if_pos rfl] at h
    exact on_write_inv hevents hout h
  | false =>
    rw [hout, if_neg (by decide)] at h
    split at h
    · cases h
      exact .other sk _ hevents hout hwssk (.inl rfl)
    · cases h
      exact .other sk _ hevents hout hwssk (.inr rfl)

/-- What a step of the program can do. -/
inductive Stepped (opt : Options) (cfg : RequestConfig) (env : Env) (t : State) : State → Prop
  | start (sk sk1 : Sk) (rv : Int) (ops1 : TlsOps) (hstarted : t.started = false) (hget : t.base.c.wssk = some sk)
      (hcall : wssk_tls_handshake cfg env.SSL_do_handshake sk = .ok (rv, sk1, ops1)) :
      Stepped opt cfg env t
        { base := { t.base with c := { t.base.c with wssk := some sk1 } }, ops := ops1, started := true }
  | on_event (events : EpollEvents) (todo : List (Source × EpollEvents)) (c' : Wscat) (ops' : TlsOps)
      (hstarted : t.started = true) (hpc : t.base.pc = .on_event ((.wssk, events) :: todo))
      (hevent : OnEvent opt cfg env t.base.now t.base.c t.ops events c' ops') :
      Stepped opt cfg env t { t with base := { t.base with c := c', pc := .on_event todo }, ops := ops' }
  | base (s' : wscat.State) (hstarted : t.started = true) (hsource : t.base.pc.source ≠ some .wssk)
      (hstep : wscat.step opt env.base t.base = .ok s') : Stepped opt cfg env t { t with base := s' }

theorem step_inv {t t' : State} (h : step opt cfg env t = .ok t') : Stepped opt cfg env t t' := by
  unfold step at h
  cases hstarted : t.started with
  | false =>
    rw [if_pos (by rw [hstarted]; rfl)] at h
    obtain ⟨⟨c', ops'⟩, hmain, hret⟩ := Except.bind_eq_ok_iff.mp h
    obtain ⟨sk, hget, hmain⟩ := Except.bind_eq_ok_iff.mp hmain
    obtain ⟨⟨rv, sk1, ops1⟩, hcall, hmain⟩ := Except.bind_eq_ok_iff.mp hmain
    cases hmain
    cases hret
    exact .start sk sk1 rv _ hstarted (Wscat.deref_eq_ok_iff.mp hget) hcall
  | true =>
    rw [if_neg (by rw [hstarted]; decide)] at h
    split at h
    · rename_i events todo hpc
      obtain ⟨⟨c', ops'⟩, hevent, hret⟩ := Except.bind_eq_ok_iff.mp h
      cases hret
      exact .on_event events todo c' ops' hstarted hpc (on_epoll_event_inv hevent)
    · rename_i hpc
      obtain ⟨s', hstep, hret⟩ := Except.bind_eq_ok_iff.mp h
      cases hret
      refine .base s' hstarted (fun hsource => ?_) hstep
      cases hbase : t.base.pc with
      | iteration =>
        rw [hbase] at hsource
        cases hsource
      | epoll_wait =>
        rw [hbase] at hsource
        cases hsource
      | on_event todo =>
        cases todo with
        | nil =>
          rw [hbase] at hsource
          cases hsource
        | cons event todo =>
          obtain ⟨source, events⟩ := event
          cases source with
          | wssk => exact hpc events todo hbase
          | fdin =>
            rw [hbase] at hsource
            cases hsource

end Events

section Answers

variable {opt : Options} {cfg : RequestConfig} {env : Env} {now : Timespec} {c c' : Wscat} {ops ops' : TlsOps}
  {events : EpollEvents}

/-- What an event hands to the library. -/
def taken (env : Env) (ops : TlsOps) (events : EpollEvents) (sendbuf : Skb) : List UInt8 :=
  if ops = .transfer ∧ ¬ Readable events ∧ events.EPOLLOUT = true then sendbuf.readable.take env.sent else []

/-- What an event on the TLS connection makes the websocket say, behind the request of a handshake which it
    completes. -/
structure Answers (cfg : RequestConfig) (env : Env) (c : Wscat) (ops : TlsOps) (events : EpollEvents) (c' : Wscat)
    (ops' : TlsOps) : Prop where
  sound : Sound c'
  session : c'.recv = .wssk_http_recv → c.recv = .wssk_http_recv
  said : ∀ wssk, c.wssk = some wssk → ∃ said rest,
    taken env ops events wssk.sendbuf ++ rest =
      wssk.sendbuf.readable ++ (renewed cfg ops ops' wssk.sendbuf ++ maskedStream said) ∧
    (c.recv = .wssk_http_recv → said = []) ∧ (c'.wssk = none → said = []) ∧
    ∀ wssk', c'.wssk = some wssk' → wssk'.sendbuf.readable = rest ∧ Ordered wssk said wssk'

theorem taken_of_readable (hevents : Readable events) (sendbuf : Skb) : taken env ops events sendbuf = [] :=
  if_neg fun h => h.2.1 hevents

theorem taken_of_not_out (hout : events.EPOLLOUT = false) (sendbuf : Skb) : taken env ops events sendbuf = [] :=
  if_neg fun h => by rw [hout] at h; exact absurd h.2.2 (by decide)

theorem Readable.answers {sk sk1 : Sk} {rv rv1 : Int} {e : Errno} {c1 : Wscat} (hsound : Sound c) (hevents : Readable events)
    (hget : c.wssk = some sk) (hwrite : sk.close_on_write = false) (hclose : sk.close = false)
    (hcall : ops_read cfg env ops sk c.wsd_errno = .ok (rv, sk1, ops', e))
    (hrecv : wscat.post_read opt (c.noted .wssk sk1 now e) { sk1 with ts_last_io := now } = .ok (rv1, c1))
    (hopen : ∀ sk2, c'.wssk = some sk2 → sk2.close = false) (hleft : c' = wssk_close c1 ∨ c' = c1) :
    Answers cfg env c ops events c' ops' := by
  obtain ⟨hok, hsteady⟩ := hsound.wssk sk hget
  have hpasses := ops_read_passes hok hcall
  obtain ⟨hsession, hlast, hnum⟩ := post_read_session hrecv
  have hframe : SameSession c c' ∧ c'.last_input = c.last_input ∧ c'.repeat_last_num = c.repeat_last_num := by
    obtain rfl | rfl := hleft
    · exact ⟨hsession, hlast, hnum⟩
    · exact ⟨hsession, hlast, hnum⟩
  have hreplies {wssk' : Sk} (hwssk' : c'.wssk = some wssk') :
      Replies (c.noted .wssk sk1 now e) { sk1 with ts_last_io := now } c' wssk' := by
    obtain rfl | rfl := hleft
    · cases hwssk'
    · exact (@recv_wssk_replies opt _ { sk1 with ts_last_io := now } _ _ _ (hpasses.close.trans hclose)
        (hpasses.close_on_write.trans hwrite) rfl hrecv hwssk' (hopen wssk' hwssk')).2
  refine ⟨hsound.session hframe.1 hframe.2.1 hframe.2.2 fun wssk' hwssk' => ?_, hframe.1.http, fun wssk hwssk => ?_⟩
  · obtain ⟨⟨frames, hspeaks, -⟩, hset⟩ := hreplies hwssk'
    refine ⟨(hspeaks.puts hpasses.ok).1, hset ?_⟩
    exact hsteady.of_flags hpasses.closing hpasses.close hpasses.close_on_write
  · cases hget.symm.trans hwssk
    rw [taken_of_readable hevents]
    have hbytes := hpasses.bytes
    rw [List.nil_append] at hbytes
    cases hwssk' : c'.wssk with
    | none =>
      refine ⟨[], sk1.sendbuf.readable, ?_, fun _ => rfl, fun _ => rfl, fun _ h => nomatch h⟩
      rw [hbytes, maskedStream_nil, List.append_nil, List.nil_append]
    | some wssk' =>
      obtain ⟨⟨frames, hspeaks, hhttp⟩, -⟩ := hreplies hwssk'
      refine ⟨frames, wssk'.sendbuf.readable, ?_, hhttp, (fun h => nomatch h), fun wssk1 hwssk1 => ?_⟩
      · rw [(hspeaks.puts hpasses.ok).2, List.nil_append, ← List.append_assoc, ← hbytes]
      · cases hwssk1
        have hquiet : Ordered sk [] { sk1 with ts_last_io := now } :=
          .of_flags hpasses.closing hpasses.close hpasses.close_on_write
        exact ⟨rfl, hquiet.trans hspeaks.order⟩

/-- An event on which nothing is received. -/
theorem Passes.answers {sk sk1 : Sk} {c1 : Wscat} {ts_last_io : Timespec} (hsound : Sound c) (hget : c.wssk = some sk)
    (hpasses : Passes cfg sk ops (taken env ops events sk.sendbuf) sk1 ops')
    (hwssk1 : c1.wssk = some { sk1 with ts_last_io })
    (hframe : c1.recv = c.recv ∧ c1.fdin = c.fdin ∧ c1.last_input = c.last_input ∧ c1.repeat_last_num = c.repeat_last_num)
    (hleft : c' = wssk_close c1 ∨ c' = c1) : Answers cfg env c ops events c' ops' := by
  obtain ⟨-, hsteady⟩ := hsound.wssk sk hget
  have hsame : c'.recv = c.recv ∧ c'.fdin = c.fdin ∧ c'.last_input = c.last_input ∧ c'.repeat_last_num = c.repeat_last_num := by
    obtain rfl | rfl := hleft
    · exact hframe
    · exact hframe
  have hwssk {wssk' : Sk} (hwssk' : c'.wssk = some wssk') : wssk' = { sk1 with ts_last_io } := by
    obtain rfl | rfl := hleft
    · cases hwssk'
    · exact Option.some.inj (hwssk'.symm.trans hwssk1)
  obtain ⟨hrecv, hfdin, hlast, hnum⟩ := hsame
  refine ⟨hsound.session (.inl ⟨hrecv, hfdin⟩) hlast hnum fun wssk' hwssk' => ?_, fun hhttp => hrecv.symm.trans hhttp,
    fun wssk hsk => ?_⟩
  · rw [hwssk hwssk']
    exact ⟨hpasses.ok, hsteady.of_flags hpasses.closing hpasses.close hpasses.close_on_write⟩
  · cases hget.symm.trans hsk
    refine ⟨[], sk1.sendbuf.readable, ?_, fun _ => rfl, fun _ => rfl, fun wssk' hwssk' => ?_⟩
    · rw [hpasses.bytes, maskedStream_nil, List.append_nil]
    · rw [hwssk hwssk']
      exact ⟨rfl, .of_flags hpasses.closing hpasses.close hpasses.close_on_write⟩

theorem OnEvent.answers (hsound : Sound c) (hlen : ∀ sk, c.wssk = some sk → env.sent ≤ skb_rdsz sk.sendbuf)
    (h : OnEvent opt cfg env now c ops events c' ops') : Answers cfg env c ops events c' ops' := by
  cases h with
  | failed sk rv sk1 _ e hevents hget hcall =>
    have hnoted : (c.noted .wssk sk1 now e).wssk = some { sk1 with ts_last_io := now } := rfl
    apply Passes.answers hsound hget ?_ hnoted ⟨rfl, rfl, rfl, rfl⟩ (.inl rfl)
    rw [taken_of_readable hevents]
    exact ops_read_passes (hsound.wssk sk hget).1 hcall
  | received sk rv rv1 sk1 _ e c1 c' hevents hget hwrite hclose hcall hrv hrecv hleft =>
    apply Readable.answers hsound hevents hget hwrite hclose hcall hrecv (fun sk2 hsk2 => ?_) (hleft.imp id And.left)
    obtain rfl | ⟨rfl, sk2', hsk2', hopen⟩ := hleft
    · cases hsk2
    · cases hsk2.symm.trans hsk2'
      exact hopen
  | write sk rv sk1 _ e c' hevents hout hget hcall hleft =>
    have hnoted : (c.noted .wssk sk1 now e).wssk = some { sk1 with ts_last_io := now } := rfl
    apply Passes.answers hsound hget ?_ hnoted ⟨rfl, rfl, rfl, rfl⟩ (hleft.imp id And.left)
    have hpasses := ops_write_passes (hsound.wssk sk hget).1 (hlen sk hget) hcall
    cases ops with
    | handshake =>
      have hnone : taken env .handshake events sk.sendbuf = [] := if_neg fun h => nomatch h.1
      rw [hnone]
      exact hpasses
    | transfer =>
      have htaken : taken env .transfer events sk.sendbuf = sk.sendbuf.readable.take env.sent :=
        if_pos ⟨rfl, hevents, hout⟩
      rw [htaken]
      exact hpasses
  | other sk c' hevents hout hget hleft =>
    apply Passes.answers hsound hget ?_ hget ⟨rfl, rfl, rfl, rfl⟩ hleft
    rw [taken_of_not_out hout]
    apply Passes.quiet (hsound.wssk sk hget).1
    cases ops with
    | handshake => exact .inr rfl
    | transfer => exact .inl rfl

end Answers

end wscat.tls

end wsd

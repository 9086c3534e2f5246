import Wsd.Wscat.Loop
import Wsd.Wschild.Inversion

namespace wsd

namespace Wscat

variable {c : Wscat} {source : Source} {sk sk' : Sk}

@[simp] theorem get_set : (c.set source sk).get source = some sk := by
  cases source <;> rfl

theorem deref_eq_ok_iff : c.deref source = .ok sk ↔ c.get source = some sk := by
  unfold deref
  cases c.get source with
  | none => simp
  | some sk1 => simp

/-- The state in which the result of a system call on a socket has been noted. -/
def noted (c : Wscat) (source : Source) (sk : Sk) (now : Timespec) (wsd_errno : Errno) : Wscat :=
  { c.set source { sk with ts_last_io := now } with wsd_errno }

@[simp] theorem get_noted {now : Timespec} {wsd_errno : Errno} :
    (c.noted source sk now wsd_errno).get source = some { sk with ts_last_io := now } := by
  cases source <;> rfl

end Wscat

namespace wscat

variable {opt : Options} {read : ReadResult} {write : WriteResult} {now : Timespec} {c c' : Wscat} {source : Source}

/-- What a read on a socket comes to. -/
inductive OnRead (opt : Options) (read : ReadResult) (now : Timespec) (c : Wscat) (source : Source) (sk : Sk) :
    Wscat → Prop
  | failed (rv : Int) (sk1 : Sk) (wsd_errno : Errno) (c' : Wscat)
      (hread : sk_read read sk c.wsd_errno = .ok (rv, sk1, wsd_errno)) (hrv : rv < 0) (herrno : wsd_errno ≠ .WSD_EAGAIN)
      (hclose : close opt (c.noted source sk1 now wsd_errno) source = .ok c') :
      OnRead opt read now c source sk c'
  | refused (rv rv1 : Int) (sk1 : Sk) (wsd_errno : Errno) (c1 c' : Wscat)
      (hread : sk_read read sk c.wsd_errno = .ok (rv, sk1, wsd_errno)) (hrv : ¬ (rv < 0 ∧ wsd_errno ≠ .WSD_EAGAIN))
      (hrecv : recv opt (c.noted source sk1 now wsd_errno) source { sk1 with ts_last_io := now } = .ok (rv1, c1))
      (hrefused : rv1 < 0 ∧ c1.wsd_errno ≠ .WSD_EAGAIN ∧ c1.wsd_errno ≠ .WSD_EINPUT)
      (hclose : close opt c1 source = .ok c') : OnRead opt read now c source sk c'
  | received (rv rv1 : Int) (sk1 : Sk) (wsd_errno : Errno) (c1 c' : Wscat) (sk2 : Sk)
      (hread : sk_read read sk c.wsd_errno = .ok (rv, sk1, wsd_errno)) (hrv : ¬ (rv < 0 ∧ wsd_errno ≠ .WSD_EAGAIN))
      (hrecv : recv opt (c.noted source sk1 now wsd_errno) source { sk1 with ts_last_io := now } = .ok (rv1, c1))
      (hrefused : ¬ (rv1 < 0 ∧ c1.wsd_errno ≠ .WSD_EAGAIN ∧ c1.wsd_errno ≠ .WSD_EINPUT))
      (hget : c1.get source = some sk2) (hleft : if sk2.close then close opt c1 source = .ok c' else c1 = c') :
      OnRead opt read now c source sk c'

theorem on_read_inv (h : on_read opt read now c source = .ok c') :
    ∃ sk, c.get source = some sk ∧ sk.close_on_write = false ∧ sk.close = false ∧
      OnRead opt read now c source sk c' := by
  unfold on_read at h
  obtain ⟨sk, hget, h⟩ := Except.bind_eq_ok_iff.mp h
  obtain ⟨_, hwrite, h⟩ := Except.bind_eq_ok_iff.mp h
  obtain ⟨_, hclose, h⟩ := Except.bind_eq_ok_iff.mp h
  obtain ⟨⟨rv, sk1, e⟩, hread, h⟩ := Except.bind_eq_ok_iff.mp h
  refine ⟨sk, Wscat.deref_eq_ok_iff.mp hget, by simpa using assert_eq_ok_iff.mp hwrite,
    by simpa using assert_eq_ok_iff.mp hclose, ?_⟩
  by_cases hrv : rv < 0 ∧ e ≠ .WSD_EAGAIN
  · simp only [if_pos hrv] at h
    exact .failed rv sk1 e c' hread hrv.1 hrv.2 h
  · simp only [if_neg hrv] at h
    obtain ⟨⟨rv1, c1⟩, hrecv, h⟩ := Except.bind_eq_ok_iff.mp h
    by_cases hrefused : rv1 < 0 ∧ c1.wsd_errno ≠ .WSD_EAGAIN ∧ c1.wsd_errno ≠ .WSD_EINPUT
    · rw [if_pos hrefused] at h
      exact .refused rv rv1 sk1 e c1 c' hread hrv hrecv hrefused h
    · rw [if_neg hrefused] at h
      obtain ⟨sk2, hget2, h⟩ := Except.bind_eq_ok_iff.mp h
      refine .received rv rv1 sk1 e c1 c' sk2 hread hrv hrecv hrefused (Wscat.deref_eq_ok_iff.mp hget2) ?_
      split at h
      · rwa [if_pos ‹_›]
      · rw [if_neg ‹_›]
        cases h
        rfl

/-- What a write on a socket comes to. -/
theorem on_write_inv (h : on_write opt write now c source = .ok c') :
    ∃ sk rv sk1 wsd_errno, c.get source = some sk ∧ sk_write write sk c.wsd_errno = (rv, sk1, wsd_errno) ∧
      (close opt (c.noted source sk1 now wsd_errno) source = .ok c' ∨ c' = c.noted source sk1 now wsd_errno) := by
  unfold on_write at h
  obtain ⟨sk, hget, h⟩ := Except.bind_eq_ok_iff.mp h
  cases hwrite : sk_write write sk c.wsd_errno with
  | mk rv rest =>
    obtain ⟨sk1, e⟩ := rest
    refine ⟨sk, rv, sk1, e, Wscat.deref_eq_ok_iff.mp hget, hwrite, ?_⟩
    generalize sk_write write sk c.wsd_errno = result at h hwrite
    cases hwrite
    simp only at h
    split at h
    · exact .inl h
    split at h
    · exact .inl h
    split at h
    · exact .inl h
    cases h
    exact .inr rfl

theorem sk_read_flags {sk sk1 : Sk} {rv : Int} {wsd_errno errno' : Errno}
    (h : sk_read read sk wsd_errno = .ok (rv, sk1, errno')) :
    sk1.close = sk.close ∧ sk1.close_on_write = sk.close_on_write ∧ sk1.closing = sk.closing := by
  obtain ⟨_, -, -, -, -, rfl⟩ | ⟨-, -, rfl⟩ | ⟨-, -, rfl, -⟩ := sk_read_cases h <;> exact ⟨rfl, rfl, rfl⟩

theorem sk_write_flags {sk sk1 : Sk} {rv : Int} {wsd_errno errno' : Errno}
    (h : sk_write write sk wsd_errno = (rv, sk1, errno')) :
    sk1.close = sk.close ∧ sk1.close_on_write = sk.close_on_write ∧ sk1.closing = sk.closing := by
  have hflags := (sk_write_written write .zero sk wsd_errno).flags
  rw [h] at hflags
  exact hflags

/-- An event on which a socket is read. -/
def Readable (events : EpollEvents) : Prop :=
  events.EPOLLIN = true ∨ events.EPOLLPRI = true

instance (events : EpollEvents) : Decidable (Readable events) :=
  inferInstanceAs (Decidable (_ ∨ _))

/-- What an event on a socket comes to. -/
inductive OnEvent (opt : Options) (read : ReadResult) (write : WriteResult) (now : Timespec) (c : Wscat)
    (source : Source) (events : EpollEvents) : Wscat → Prop
  | read (sk : Sk) (c' : Wscat) (hevents : Readable events) (hget : c.get source = some sk)
      (hwrite : sk.close_on_write = false) (hclose : sk.close = false) (hread : OnRead opt read now c source sk c') :
      OnEvent opt read write now c source events c'
  | write (sk : Sk) (rv : Int) (sk1 : Sk) (wsd_errno : Errno) (c' : Wscat) (hevents : ¬ Readable events)
      (hout : events.EPOLLOUT = true) (hget : c.get source = some sk)
      (hwrite : sk_write write sk c.wsd_errno = (rv, sk1, wsd_errno))
      (hleft : close opt (c.noted source sk1 now wsd_errno) source = .ok c' ∨ c' = c.noted source sk1 now wsd_errno) :
      OnEvent opt read write now c source events c'
  | hangup (c' : Wscat) (hevents : ¬ Readable events) (hout : events.EPOLLOUT = false)
      (hopen : (c.get source).isSome = true) (hclose : close opt c source = .ok c') :
      OnEvent opt read write now c source events c'
  | nothing (hevents : ¬ Readable events) (hout : events.EPOLLOUT = false) (hopen : (c.get source).isSome = true) :
      OnEvent opt read write now c source events c

theorem OnEvent.isSome {events : EpollEvents} (h : OnEvent opt read write now c source events c') :
    (c.get source).isSome = true := by
  cases h with
  | read sk c' hevents hget hwrite hclose hread =>
    rw [hget]
    rfl
  | write sk rv sk1 e c' hevents hout hget hwrite hleft =>
    rw [hget]
    rfl
  | hangup c' hevents hout hopen hclose => exact hopen
  | nothing hevents hout hopen => exact hopen

theorem on_epoll_event_inv {events : EpollEvents} (h : on_epoll_event opt read write now c source events = .ok c') :
    OnEvent opt read write now c source events c' := by
  unfold on_epoll_event at h
  obtain ⟨sk, hget, h⟩ := Except.bind_eq_ok_iff.mp h
  obtain ⟨_, -, h⟩ := Except.bind_eq_ok_iff.mp h
  by_cases hevents : events.EPOLLIN = true ∨ events.EPOLLPRI = true
  · rw [if_pos hevents] at h
    obtain ⟨sk, hget, hwrite, hclose, hread⟩ := on_read_inv h
    exact .read sk c' hevents hget hwrite hclose hread
  rw [if_neg hevents] at h
  cases hout : events.EPOLLOUT with
  | true =>
    rw [hout, if_pos rfl] at h
    obtain ⟨sk, rv, sk1, e, hget, hwrite, hleft⟩ := on_write_inv h
    exact .write sk rv sk1 e c' hevents hout hget hwrite hleft
  | false =>
    rw [hout, if_neg (by decide)] at h
    split at h
    · exact .hangup c' hevents hout (by rw [Wscat.deref_eq_ok_iff.mp hget]; rfl) h
    · cases h
      exact .nothing hevents hout (by rw [Wscat.deref_eq_ok_iff.mp hget]; rfl)

/-- A ping goes through the websocket's handler, if it goes anywhere. -/
theorem wssk_ws_ping_inv (h : wssk_ws_ping c = .ok c') :
    ∃ sk, c.wssk = some sk ∧ (c' = c ∨ ∃ rv sk' wsd_errno, ws_ping sk true c.wsd_errno = .ok (rv, sk', wsd_errno) ∧
      c' = { c with wssk := some sk', wsd_errno, done := if rv < 0 then true else c.done }) := by
  unfold wssk_ws_ping at h
  cases hwssk : c.wssk with
  | none =>
    rw [hwssk] at h
    cases h
  | some sk =>
    simp only [hwssk] at h
    refine ⟨sk, rfl, ?_⟩
    cases hping : sk.proto.ping with
    | none =>
      simp only [hping] at h
      cases h
    | some ping =>
      cases ping with
      | ws_ping =>
        simp only [hping] at h
        obtain ⟨⟨rv, sk', e⟩, hput, hret⟩ := Except.bind_eq_ok_iff.mp h
        cases hret
        exact .inr ⟨rv, sk', e, hput, rfl⟩
      | pp2_nop =>
        simp only [hping] at h
        cases h
        exact .inl rfl

theorem wssk_ws_start_closing_handshake_inv (h : wssk_ws_start_closing_handshake c = .ok c') :
    ∃ sk rv sk' wsd_errno, c.wssk = some sk ∧
      start_closing_handshake sk.proto.start_closing_handshake sk WS_1000 true c.wsd_errno =
        .ok (rv, sk', wsd_errno) ∧
      c' = { c with wssk := some sk', wsd_errno, done := if rv < 0 then true else c.done } := by
  unfold wssk_ws_start_closing_handshake at h
  cases hwssk : c.wssk with
  | none =>
    rw [hwssk] at h
    cases h
  | some sk =>
    simp only [hwssk] at h
    obtain ⟨⟨rv, sk', e⟩, hstart, hret⟩ := Except.bind_eq_ok_iff.mp h
    cases hret
    exact ⟨sk, rv, sk', e, rfl, hstart, rfl⟩

theorem check_timeout_eq_ok_iff {timeout : Int} {timed_out : Bool} :
    check_timeout c now timeout = .ok timed_out ↔
      ∃ sk, c.wssk = some sk ∧ wsd.check_timeout sk now timeout = timed_out := by
  unfold check_timeout
  cases c.wssk with
  | none => simp
  | some sk => simp

theorem ping_timeout_inv (h : ping_timeout opt now c = .ok c') :
    ∃ sk, c.wssk = some sk ∧
      (wsd.check_timeout sk now opt.ping_interval = true ∧ wssk_ws_ping c = .ok c' ∨
        wsd.check_timeout sk now opt.ping_interval = false ∧ c' = c) := by
  unfold ping_timeout at h
  obtain ⟨timed_out, hcheck, h⟩ := Except.bind_eq_ok_iff.mp h
  obtain ⟨sk, hwssk, rfl⟩ := check_timeout_eq_ok_iff.mp hcheck
  refine ⟨sk, hwssk, ?_⟩
  cases htimeout : wsd.check_timeout sk now opt.ping_interval with
  | false =>
    rw [htimeout, if_neg (by decide)] at h
    cases h
    exact .inr ⟨rfl, rfl⟩
  | true =>
    rw [htimeout, if_pos rfl] at h
    exact .inl ⟨rfl, h⟩

theorem idle_timeout_inv (h : idle_timeout opt now c = .ok c') :
    ∃ sk, c.wssk = some sk ∧
      (wsd.check_timeout sk now opt.idle_timeout = true ∧ opt.no_handshake = false ∧
          wssk_ws_start_closing_handshake c = .ok c' ∨ c' = c) := by
  unfold idle_timeout at h
  obtain ⟨timed_out, hcheck, h⟩ := Except.bind_eq_ok_iff.mp h
  obtain ⟨sk, hwssk, rfl⟩ := check_timeout_eq_ok_iff.mp hcheck
  refine ⟨sk, hwssk, ?_⟩
  by_cases hclose : wsd.check_timeout sk now opt.idle_timeout = true ∧ (!opt.no_handshake) = true
  · rw [if_pos hclose] at h
    exact .inl ⟨hclose.1, by simpa using hclose.2, h⟩
  · rw [if_neg hclose] at h
    cases h
    exact .inr rfl

/-- The parts of an iteration's start. -/
theorem on_iteration_inv (h : on_iteration opt now c = .ok c') :
    ∃ c1 c2, ping_timeout opt now c = .ok c1 ∧ idle_timeout opt now c1 = .ok c2 ∧
      try_repeating_last opt c2 = .ok c' := by
  obtain ⟨c1, hping, h⟩ := Except.bind_eq_ok_iff.mp h
  obtain ⟨c2, hidle, h⟩ := Except.bind_eq_ok_iff.mp h
  exact ⟨c1, c2, hping, hidle, h⟩

/-- The response is not complete yet, cannot be parsed, or opens the standard input. -/
theorem wssk_http_recv_inv {sk : Sk} {rv : Int} (h : wssk_http_recv c sk = .ok (rv, c')) :
    (rv = -1 ∧ c' = { c with wsd_errno := .WSD_EINPUT }) ∨
      ∃ http_header_tok,
        (rv = -1 ∧ c' = { c with
          wssk := some { sk with recvbuf := skb_reset sk.recvbuf }
          http_header_tok
          wsd_errno := .WSD_EBADREQ }) ∨
        ∃ wsd_errno, rv = 0 ∧ has_rnrn_termination sk.recvbuf = true ∧ c' = { c with
          wssk := some { sk with recvbuf := skb_reset sk.recvbuf }
          recv := .wssk_ws_recv
          http_header_tok
          fdin := some (sk_init 0 0)
          wsd_errno } := by
  unfold wssk_http_recv at h
  cases hend : has_rnrn_termination sk.recvbuf with
  | false =>
    rw [hend, if_pos (by decide)] at h
    cases h
    exact .inl ⟨rfl, rfl⟩
  | true =>
    rw [hend, if_neg (by decide)] at h
    obtain ⟨⟨rv1, tok, prev, e⟩, -, h⟩ := Except.bind_eq_ok_iff.mp h
    refine .inr ?_
    by_cases hrv : rv1 < 0
    · simp only [if_pos hrv] at h
      cases h
      exact ⟨prev, .inl ⟨rfl, rfl⟩⟩
    · simp only [if_neg hrv] at h
      obtain ⟨⟨parsed, hreq, prev', e'⟩, -, h⟩ := Except.bind_eq_ok_iff.mp h
      cases parsed with
      | false =>
        cases h
        exact ⟨prev', .inl ⟨rfl, rfl⟩⟩
      | true =>
        cases h
        exact ⟨prev', .inr ⟨e', rfl, rfl, rfl⟩⟩

/-- What the websocket's handler does with the bytes in its receive buffer. -/
theorem post_read_inv {sk : Sk} {rv : Int} (h : wscat.post_read opt c sk = .ok (rv, c')) :
    (rv = 0 ∧ c' = c ∧ skb_rdsz sk.recvbuf = 0) ∨
      (c.recv = .wssk_http_recv ∧ wssk_http_recv c sk = .ok (rv, c')) ∨
      (c.recv = .wssk_ws_recv ∧ ∃ w,
        wssk_ws_recv opt.no_handshake { sk, stdout := c.stdout, wsd_errno := c.wsd_errno } = .ok (rv, w) ∧
        c' = { c with wssk := some w.sk, stdout := w.stdout, wsd_errno := w.wsd_errno }) := by
  unfold wscat.post_read at h
  by_cases hempty : skb_rdsz sk.recvbuf = 0
  · rw [if_pos hempty] at h
    cases h
    exact .inl ⟨rfl, rfl, hempty⟩
  rw [if_neg hempty] at h
  cases hrecv : c.recv with
  | wssk_http_recv =>
    simp only [hrecv] at h
    exact .inr (.inl ⟨rfl, h⟩)
  | wssk_ws_recv =>
    simp only [hrecv] at h
    obtain ⟨⟨rv', w⟩, hws, hret⟩ := Except.bind_eq_ok_iff.mp h
    cases hret
    exact .inr (.inr ⟨rfl, w, hws, rfl⟩)

theorem post_stdin_inv {sk : Sk} {rv : Int} (h : wscat.post_stdin opt c sk = .ok (rv, c')) :
    (rv = 0 ∧ c' = c ∧ skb_rdsz sk.recvbuf = 0) ∨
      ∃ s, stdin_recv (c.stdin opt sk) = .ok (rv, s) ∧ c' = { c.setStdin s with fdin := some s.sk } := by
  unfold wscat.post_stdin at h
  by_cases hempty : skb_rdsz sk.recvbuf = 0
  · rw [if_pos hempty] at h
    cases h
    exact .inl ⟨rfl, rfl, hempty⟩
  rw [if_neg hempty] at h
  obtain ⟨⟨rv', s⟩, hrecv, hret⟩ := Except.bind_eq_ok_iff.mp h
  cases hret
  exact .inr ⟨s, hrecv, rfl⟩

/-- What a step of the program can do. -/
inductive Stepped (opt : Options) (env : Env) (s : State) : State → Prop
  | exit (hpc : s.pc = .iteration) (hdone : s.c.done = true) : Stepped opt env s s
  | iteration (c : Wscat) (hpc : s.pc = .iteration) (hdone : s.c.done = false)
      (hc : on_iteration opt env.clock s.c = .ok c) :
      Stepped opt env s { c, now := env.clock, pc := .epoll_wait }
  | interrupted (hpc : s.pc = .epoll_wait) : Stepped opt env s { s with pc := .iteration }
  | waited (events : List (Source × EpollEvents)) (hpc : s.pc = .epoll_wait) (hevents : env.events = some events) :
      Stepped opt env s { s with pc := .on_event events }
  | handled (hpc : s.pc = .on_event []) : Stepped opt env s { s with pc := .iteration }
  | on_event (source : Source) (events : EpollEvents) (todo : List (Source × EpollEvents)) (c : Wscat)
      (hpc : s.pc = .on_event ((source, events) :: todo))
      (hevent : OnEvent opt env.read env.write s.now s.c source events c) :
      Stepped opt env s { s with c, pc := .on_event todo }

theorem step_inv {env : Env} {s s' : State} (h : step opt env s = .ok s') : Stepped opt env s s' := by
  unfold step at h
  cases hpc : s.pc with
  | iteration =>
    simp only [hpc] at h
    cases hdone : s.c.done with
    | true =>
      rw [hdone, if_pos rfl] at h
      cases h
      exact .exit hpc hdone
    | false =>
      rw [hdone, if_neg (by decide)] at h
      obtain ⟨c, hc, hret⟩ := Except.bind_eq_ok_iff.mp h
      cases hret
      exact .iteration c hpc hdone hc
  | epoll_wait =>
    simp only [hpc] at h
    cases hevents : env.events with
    | none =>
      rw [hevents] at h
      cases h
      exact .interrupted hpc
    | some events =>
      rw [hevents] at h
      cases h
      exact .waited events hpc hevents
  | on_event todo =>
    cases todo with
    | nil =>
      simp only [hpc] at h
      cases h
      exact .handled hpc
    | cons event todo =>
      obtain ⟨source, events⟩ := event
      simp only [hpc] at h
      obtain ⟨c, hevent, hret⟩ := Except.bind_eq_ok_iff.mp h
      cases hret
      exact .on_event source events todo c hpc (on_epoll_event_inv hevent)

end wscat

end wsd

import Wsd.Wscat.TlsPending

namespace wsd

open Transition

namespace wscat.tls

variable {opt : Options} {cfg : RequestConfig} {env : Env} {now : Timespec} {c c' : Wscat} {sk sk1 sk' : Sk}
  {ops ops1 ops' : TlsOps} {events : EpollEvents} {rv : Int} {e e1 : Errno} {err : SslError}

/-- What a call of the library has failed with. -/
def failure {α : Type} : Except SslError α → Option SslError
  | .ok _ => none
  | .error err => some err

/-- The result of the call which an event on the connection makes, if it makes one. -/
def eventCall (env : Env) (ops : TlsOps) (events : EpollEvents) (wssk : Sk) : Option (Option SslError) :=
  if Readable events then
    match ops with
    | .handshake => some (failure env.SSL_do_handshake)
    | .transfer => if skb_wrsz wssk.recvbuf = 0 then none else some (failure env.SSL_read)
  else if events.EPOLLOUT = true then
    match ops with
    | .handshake => some (failure env.SSL_do_handshake)
    | .transfer => if skb_rdsz wssk.sendbuf = 0 then none else some (failure env.SSL_write)
  else
    none

/-- The result of the call of the library which a step makes, if it makes one. -/
def called (t : State) (env : Env) : Option (Option SslError) :=
  if t.started then
    match t.base.pc, t.base.c.wssk with
    | .on_event ((.wssk, events) :: _), some wssk => eventCall env t.ops events wssk
    | _, _ => none
  else
    some (failure env.SSL_do_handshake)

def calls (path : List (Move State Env)) : List (Option SslError) :=
  path.filterMap fun m => called m.before m.input

/-- What the last call of the library has failed with. -/
def asked (path : List (Move State Env)) : Option SslError :=
  (calls path).getLast?.join

/-- The socket is registered for what the library waits for, unless it is only to be flushed. -/
structure Registered (err : SslError) (sk : Sk) : Prop where
  read : err = .SSL_ERROR_WANT_READ → sk.events.EPOLLIN = true ∨ sk.close_on_write = true
  write : err = .SSL_ERROR_WANT_WRITE → sk.events.EPOLLOUT = true

theorem Registered.beside (h : Registered err sk) (hbeside : Beside sk sk') : Registered err sk' := by
  obtain ⟨sendbuf, events, closing, rfl, hin, hout⟩ := hbeside
  exact ⟨fun herr => (h.read herr).imp hin id, fun herr => hout (h.write herr)⟩

section Calls

/-- What a call asks for which leaves the handshake pending. -/
structure Asks (sk : Sk) (ops : TlsOps) (e : Errno) (rv : Int) (call : Option (Option SslError)) (err : SslError)
    (sk1 : Sk) (e1 : Errno) : Prop where
  called : call = some (some err)
  read : err = .SSL_ERROR_WANT_READ → sk1.events.EPOLLIN = true
  write : err = .SSL_ERROR_WANT_WRITE → sk1.events.EPOLLOUT = true
  failed : ops = .handshake → ¬ (rv < 0 ∧ e1 ≠ .WSD_EAGAIN) → e ≠ .WSD_EAGAIN →
    err = .SSL_ERROR_WANT_READ ∨ err = .SSL_ERROR_WANT_WRITE

theorem handshake_asks {sk0 : Sk} (h : wssk_tls_handshake cfg env.SSL_do_handshake sk0 = .ok (rv, sk1, .handshake)) :
    ∃ err, Asks sk ops e rv (some (failure env.SSL_do_handshake)) err sk1 e := by
  obtain hops | ⟨-, err, events, hssl, rfl, hkind⟩ := wssk_tls_handshake_cases h
  · cases hops
  · refine ⟨err, by rw [hssl]; rfl, fun herr => ?_, fun herr => ?_, fun _ hrv he => ?_⟩
    · obtain ⟨-, hin⟩ | ⟨hwrite, -⟩ | ⟨hread, -⟩ := hkind
      · exact hin
      · cases herr.symm.trans hwrite
      · exact absurd herr hread
    · obtain ⟨hread, -⟩ | ⟨-, hout⟩ | ⟨-, hwrite, -⟩ := hkind
      · cases herr.symm.trans hread
      · exact hout
      · exact absurd herr hwrite
    · obtain ⟨hread, -⟩ | ⟨hwrite, -⟩ | ⟨-, -, hneg, -⟩ := hkind
      · exact .inl hread
      · exact .inr hwrite
      · exact absurd ⟨by rw [hneg]; decide, he⟩ hrv

theorem ops_read_asks (hevents : Readable events) (h : ops_read cfg env ops sk e = .ok (rv, sk1, .handshake, e1)) :
    ∃ err, Asks sk ops e rv (eventCall env ops events sk) err sk1 e1 := by
  unfold eventCall
  rw [if_pos hevents]
  cases ops with
  | handshake =>
    obtain ⟨rfl, hssl⟩ := ops_read_handshake h
    exact handshake_asks hssl
  | transfer =>
    have hread : wssk_tls_read env.SSL_read sk e = (rv, sk1, .handshake, e1) := Except.ok.inj h
    unfold wssk_tls_read at hread
    split at hread
    · cases hread
    · rename_i hroom
      split at hread
      · cases hread
      · cases hread
      · rename_i hssl
        cases hread
        refine ⟨.SSL_ERROR_WANT_WRITE, ?_, nofun, fun _ => by simp [turn_on_events, EpollEvents.union, EPOLLOUT], nofun⟩
        dsimp only
        rw [if_neg hroom, hssl]
        rfl
      · cases hread

theorem ops_write_asks (hevents : ¬ Readable events) (hout : events.EPOLLOUT = true)
    (h : ops_write cfg env ops sk e = .ok (rv, sk1, .handshake, e1)) :
    ∃ err, Asks sk ops e rv (eventCall env ops events sk) err sk1 e1 := by
  unfold eventCall
  rw [if_neg hevents, if_pos hout]
  cases ops with
  | handshake =>
    obtain ⟨rfl, hssl⟩ := ops_write_handshake h
    exact handshake_asks hssl
  | transfer =>
    have hwrite : wssk_tls_write env.SSL_write sk e = (rv, sk1, .handshake, e1) := Except.ok.inj h
    unfold wssk_tls_write at hwrite
    split at hwrite
    · cases hwrite
    · rename_i hsome
      split at hwrite
      · cases hwrite
      · cases hwrite
      · rename_i hssl
        cases hwrite
        refine ⟨.SSL_ERROR_WANT_READ, ?_, fun _ => by simp [turn_on_events, EpollEvents.union, EPOLLIN], nofun, nofun⟩
        dsimp only
        rw [if_neg hsome, hssl]
        rfl
      · cases hwrite

/-- An event behind which a handshake is pending on an open connection. -/
theorem OnEvent.registered (h : OnEvent opt cfg env now c ops events c' .handshake) (hget : c.wssk = some sk)
    (hget' : c'.wssk = some sk') :
    (∃ err, eventCall env ops events sk = some (some err) ∧ Registered err sk' ∧
      (ops = .handshake → c.wsd_errno ≠ .WSD_EAGAIN → err = .SSL_ERROR_WANT_READ ∨ err = .SSL_ERROR_WANT_WRITE)) ∨
      eventCall env ops events sk = none ∧ ops = .handshake ∧ sk' = sk := by
  cases h with
  | failed sk2 rv sk1 _ e hevents hget1 hcall => cases hget'
  | received sk2 rv rv1 sk1 _ e c1 c' hevents hget1 hwrite hclose hcall hrv hrecv hleft =>
    cases hget.symm.trans hget1
    obtain ⟨err, hasks⟩ := ops_read_asks hevents hcall
    refine .inl ⟨err, hasks.called, ?_, fun hops herrno => hasks.failed hops hrv herrno⟩
    obtain rfl | ⟨rfl, sk2, hsk2, hopen⟩ := hleft
    · cases hget'
    · cases hget'.symm.trans hsk2
      have hnoted : (c.noted .wssk sk1 now e).wssk = some { sk1 with ts_last_io := now } := rfl
      obtain ⟨hin, hout⟩ := post_read_events hnoted hrecv hget'
      refine ⟨fun herr => ?_, fun herr => hout (hasks.write herr)⟩
      obtain hin | hclosing | hwrite := hin (hasks.read herr)
      · exact .inl hin
      · rw [hopen] at hclosing
        cases hclosing
      · exact .inr hwrite
  | write sk2 rv sk1 _ e c' hevents hout hget1 hcall hleft =>
    cases hget.symm.trans hget1
    obtain ⟨err, hasks⟩ := ops_write_asks hevents hout hcall
    obtain rfl | ⟨rfl, hrv⟩ := hleft
    · cases hget'
    · cases hget'
      exact .inl ⟨err, hasks.called, ⟨fun herr => .inl (hasks.read herr), hasks.write⟩,
        fun hops herrno => hasks.failed hops hrv herrno⟩
  | other sk2 c' hevents hout hget1 hleft =>
    refine .inr ⟨?_, rfl, ?_⟩
    · rw [eventCall, if_neg hevents, if_neg (by rw [hout]; decide)]
    · obtain rfl | rfl := hleft
      · cases hget'
      · exact Option.some.inj (hget'.symm.trans hget)

end Calls

section Run

variable {path : List (Move State Env)} {t t' : State}

theorem calls_snoc (m : Move State Env) : calls (path ++ [m]) = calls path ++ (called m.before m.input).toList := by
  rw [calls, calls, List.filterMap_append]
  congr 1

theorem asked_snoc_none {m : Move State Env} (h : called m.before m.input = none) :
    calls (path ++ [m]) = calls path ∧ asked (path ++ [m]) = asked path := by
  have hcalls : calls (path ++ [m]) = calls path := by
    rw [calls_snoc, h, Option.toList_none, List.append_nil]
  exact ⟨hcalls, by rw [asked, hcalls, asked]⟩

theorem asked_snoc_some {m : Move State Env} {result : Option SslError} (h : called m.before m.input = some result) :
    asked (path ++ [m]) = result := by
  rw [asked, calls_snoc, h, Option.toList_some, List.getLast?_append_of_ne_nil _ (by simp)]
  rfl

/-- What holds of a connection on which a handshake is pending. -/
structure Pending (path : List (Move State Env)) (wssk : Sk) : Prop where
  registered : ∃ err, asked path = some err ∧ Registered err wssk
  first : (∀ m ∈ path, ¬ Completes m) → asked path = some .SSL_ERROR_WANT_READ ∨
    asked path = some .SSL_ERROR_WANT_WRITE ∨ (calls path).length = 1 ∧ wssk.events.EPOLLIN = true

theorem Pending.start {m : Move State Env} (hnot : m.before.started = false) (hin : sk.events.EPOLLIN = true)
    (hcall : wssk_tls_handshake cfg m.input.SSL_do_handshake sk = .ok (rv, sk1, .handshake)) : Pending [m] sk1 := by
  obtain hdone | ⟨-, err, events, hssl, rfl, hkind⟩ := wssk_tls_handshake_cases hcall
  · cases hdone
  have hcalled : called m.before m.input = some (some err) := by
    unfold called
    rw [if_neg (by rw [hnot]; decide), hssl]
    rfl
  have hasked : asked [m] = some err := @asked_snoc_some [] _ _ hcalled
  refine ⟨⟨err, hasked, fun herr => ?_, fun herr => ?_⟩, fun _ => ?_⟩
  · obtain ⟨-, hread⟩ | ⟨hwrite, -⟩ | ⟨hread, -⟩ := hkind
    · exact .inl hread
    · cases herr.symm.trans hwrite
    · exact absurd herr hread
  · obtain ⟨hread, -⟩ | ⟨-, hout⟩ | ⟨-, hwrite, -⟩ := hkind
    · cases herr.symm.trans hread
    · exact hout
    · exact absurd herr hwrite
  · rw [hasked]
    obtain ⟨rfl, -⟩ | ⟨rfl, -⟩ | ⟨-, -, -, rfl⟩ := hkind
    · exact .inl rfl
    · exact .inr (.inl rfl)
    · refine .inr (.inr ⟨?_, hin⟩)
      rw [← List.nil_append [m], calls_snoc, hcalled]
      rfl

theorem Pending.of_called {m : Move State Env} (hcalled : called m.before m.input = some (some err))
    (hregistered : Registered err sk)
    (hfirst : (∀ m ∈ path, ¬ Completes m) → err = .SSL_ERROR_WANT_READ ∨ err = .SSL_ERROR_WANT_WRITE) :
    Pending (path ++ [m]) sk := by
  refine ⟨⟨err, asked_snoc_some hcalled, hregistered⟩, fun hnone => ?_⟩
  rw [List.forall_mem_append] at hnone
  rw [asked_snoc_some hcalled]
  obtain rfl | rfl := hfirst hnone.1
  · exact .inl rfl
  · exact .inr (.inl rfl)

/-- A handshake stays pending where the library is not called. -/
theorem Pending.beside {m : Move State Env} (h : Pending path sk) (hcalled : called m.before m.input = none)
    (hbeside : Beside sk sk') : Pending (path ++ [m]) sk' := by
  obtain ⟨⟨err, herr, hregistered⟩, hfirst⟩ := h
  obtain ⟨hcalls, hasked⟩ := @asked_snoc_none path _ hcalled
  refine ⟨⟨err, hasked.trans herr, hregistered.beside hbeside⟩, fun hnone => ?_⟩
  rw [List.forall_mem_append] at hnone
  rw [hasked, hcalls]
  obtain hread | hwrite | ⟨hlength, hin⟩ := hfirst hnone.1
  · exact .inl hread
  · exact .inr (.inl hwrite)
  · obtain ⟨sendbuf, events, closing, rfl, hin', -⟩ := hbeside
    exact .inr (.inr ⟨hlength, hin' hin⟩)

/-- As long as a handshake is pending, an open websocket is registered for what the TLS library has asked for last,
    unless it is only to be flushed. No failure of the first handshake is overlooked in the event loop: what the last
    call has failed with is that the connection is to be read or written, unless it is the call of `main`. -/
theorem handshake_waits (opt : Options) (cfg : RequestConfig) (fd : Int) (broken : Bool) (P : State → Env → Prop)
    (path : List (Move State Env)) (t : State) (h : (program opt cfg fd broken).Path P path t)
    (hstarted : t.started = true) (hops : t.ops = .handshake) (wssk : Sk) (hwssk : t.base.c.wssk = some wssk) :
    Pending path wssk := by
  induction h generalizing wssk with
  | init => cases hstarted
  | @step path t t' env hpath hvalid hP hstep ih =>
    cases step_inv hstep with
    | start sk sk1 rv ops1 hnot hget hcall =>
      obtain rfl := (path_waiting hpath).1 hnot
      obtain rfl := hpath.eq_init
      have hops1 : ops1 = .handshake := hops
      subst hops1
      cases hget
      cases hwssk
      exact .start hnot rfl hcall
    | on_event events todo c' ops' hbefore hpc hevent =>
      obtain ⟨sk, hget⟩ := hevent.exists
      have hcalled : called t env = eventCall env t.ops events sk := by
        unfold called
        rw [if_pos hbefore, hpc, hget]
      have hops' : ops' = .handshake := hops
      subst hops'
      obtain ⟨err, hcall, hregistered, hfirst⟩ | ⟨hnone, hhandshake, rfl⟩ := hevent.registered hget hwssk
      · refine .of_called (hcalled.trans hcall) hregistered fun hnone => ?_
        have hwaiting := (path_waiting hpath).2 hnone
        exact hfirst hwaiting.ops hwaiting.errno
      · exact (ih hbefore hhandshake wssk hget).beside (hcalled.trans hnone) (.refl _)
    | base s' hbefore hsource hplain =>
      obtain ⟨sk, hget, hbeside⟩ := ((wscat.step_inv hplain).aside hsource).wssk wssk hwssk
      have hcalled : called t env = none := by
        unfold called
        rw [if_pos hbefore]
        split
        · rename_i hpc _
          rw [hpc] at hsource
          exact absurd rfl hsource
        · rfl
      exact (ih hbefore hops sk hget).beside hcalled hbeside

end Run

namespace Connection

/-- The library waits for the server at first, and then for room. -/
def postponed : List Env :=
  {} :: event EPOLLIN { SSL_do_handshake := .error .SSL_ERROR_WANT_WRITE }

end Connection

open Connection

/-- A websocket which waits for room is not registered for the server's bytes. -/
theorem handshake_waits_postponed :
    ∃ (path : List (Move State Env)) (wssk : Sk), asked path = some .SSL_ERROR_WANT_WRITE ∧
      wssk.events.EPOLLIN = false ∧ Pending path wssk := by
  obtain ⟨path, t, hpath, hasked, hstarted, hops, wssk, hwssk, hin⟩ :=
    @System.exists_path _ _ _ (fun _ _ => True)
      (program (options false false (-1) (-1) (-1)) (default_config (ascii "example") (ascii "/") true) 3 false) _ _
      (fun path t => asked path = some .SSL_ERROR_WANT_WRITE ∧ t.started = true ∧ t.ops = .handshake ∧
        ∃ wssk ∈ t.base.c.wssk, wssk.events.EPOLLIN = false) _ postponed (by decide +kernel)
  exact ⟨path, wssk, hasked, hin, handshake_waits _ _ 3 false _ path t hpath hstarted hops wssk hwssk⟩

end wscat.tls

end wsd

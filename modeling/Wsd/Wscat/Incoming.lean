import Wsd.Wscat.Beside
import Wsd.Wscat.Conserve
import Wsd.Wscat.Heard

namespace wsd

open Transition

theorem rnrn_loop_contained {data : Memory UInt8} {len s : Nat} (h : rnrn_loop data len s = true) :
    [CR, LF, CR, LF] <:+: data.window s len := by
  induction len generalizing s with
  | zero => cases h
  | succ len ih =>
    unfold rnrn_loop at h
    split at h
    · rename_i hfound
      obtain ⟨hcr, hlen, hlf, hcr', hlf'⟩ := hfound
      obtain ⟨len, rfl⟩ : ∃ left, len = left + 3 := ⟨len - 3, by omega⟩
      refine ⟨[], data.window (s + 4) len, ?_⟩
      simp only [Memory.window_succ, hcr, hlf, hcr', hlf', Nat.add_assoc, Nat.reduceAdd]
      rfl
    · rw [Memory.window_succ]
      exact (ih h).trans (List.suffix_cons _ _).isInfix

/-- A message whose end is found contains it. -/
theorem has_rnrn_contained {b : Skb} (hok : b.Ok) (h : has_rnrn_termination b = true) :
    [CR, LF, CR, LF] <:+: b.readable := by
  unfold has_rnrn_termination at h
  rw [hok.rdsz_eq] at h
  exact rnrn_loop_contained h

namespace wscat

section Event

variable {opt : Options} {read : ReadResult} {write : WriteResult} {now : Timespec} {c c' : Wscat} {sk : Sk}
  {held : List UInt8}

/-- What a step makes of the bytes which the open websocket holds, with those which it reads. -/
inductive Attended (opt : Options) (c : Wscat) (sk : Sk) (held : List UInt8) (c' : Wscat) : Prop
  | waits (hrecv : c.recv = .wssk_http_recv) (hrecv' : c'.recv = .wssk_http_recv) (hstdout : c'.stdout = c.stdout)
      (hopen : ∀ wssk', c'.wssk = some wssk' → wssk'.recvbuf.Ok ∧ wssk'.recvbuf.readable = held)
  | opened (hrecv : c.recv = .wssk_http_recv) (hrecv' : c'.recv = .wssk_ws_recv) (hstdout : c'.stdout = c.stdout)
      (hended : [CR, LF, CR, LF] <:+: held)
      (hopen : ∀ wssk', c'.wssk = some wssk' → wssk'.recvbuf.Ok ∧ wssk'.recvbuf.readable = [])
  | listens (frames : List Frame) (unread : List UInt8) (hrecv : c.recv = .wssk_ws_recv)
      (hrecv' : c'.recv = .wssk_ws_recv) (hquiet : frames = [] ∨ sk.close_on_write = false)
      (hprinted : c'.stdout.printed = c.stdout.printed ++ printedOf frames) (hhears : Hears held frames unread)
      (hlast : opt.no_handshake = false → frames.Pairwise fun f _ => f.opcode ≠ WS_CLOSE_FRAME)
      (hopen : ∀ wssk', c'.wssk = some wssk' → wssk'.recvbuf.Ok ∧ wssk'.recvbuf.readable = unread ∧ ¬ Complete unread ∧
        (sk.close_on_write = true → wssk'.close_on_write = true) ∧
        (opt.no_handshake = false → ∀ f ∈ frames, f.opcode = WS_CLOSE_FRAME → wssk'.close_on_write = true))

/-- Where nothing is read, the websocket holds what it held. -/
theorem Attended.quiet (hwhole : c.recv = .wssk_ws_recv → ¬ Complete held) (hrecv : c'.recv = c.recv)
    (hstdout : c'.stdout = c.stdout)
    (hopen : ∀ wssk', c'.wssk = some wssk' → wssk'.recvbuf.Ok ∧ wssk'.recvbuf.readable = held ∧
      (sk.close_on_write = true → wssk'.close_on_write = true)) : Attended opt c sk held c' := by
  cases hbefore : c.recv with
  | wssk_http_recv =>
    refine .waits hbefore (hrecv.trans hbefore) hstdout fun wssk' hwssk' => ?_
    obtain ⟨hok, hread, -⟩ := hopen wssk' hwssk'
    exact ⟨hok, hread⟩
  | wssk_ws_recv =>
    refine .listens [] held hbefore (hrecv.trans hbefore) (.inl rfl) ?_ (.stop held) (fun _ => .nil)
      fun wssk' hwssk' => ?_
    · rw [hstdout]
      exact (List.append_nil _).symm
    · obtain ⟨hok, hread, hwrite⟩ := hopen wssk' hwssk'
      exact ⟨hok, hread, hwhole hbefore, hwrite, fun _ f hf => by cases hf⟩

/-- The websocket's handler of its bytes, after which it is closed or goes on. -/
theorem post_read_attended {rv : Int} {c1 : Wscat} (hok : sk.recvbuf.Ok) (hget : c.wssk = some sk)
    (hwrite : sk.close_on_write = false) (h : wscat.post_read opt c sk = .ok (rv, c1))
    (hleft : c' = wssk_close c1 ∨ c' = c1 ∧
      ¬ (rv < 0 ∧ c1.wsd_errno ≠ .WSD_EAGAIN ∧ c1.wsd_errno ≠ .WSD_EINPUT) ∧
      ∀ wssk, c1.wssk = some wssk → wssk.close = false) :
    Attended opt c sk sk.recvbuf.readable c' := by
  obtain ⟨hrecv', hstdout'⟩ : c'.recv = c1.recv ∧ c'.stdout = c1.stdout := by
    obtain rfl | ⟨rfl, -⟩ := hleft <;> exact ⟨rfl, rfl⟩
  have hopen {P : Sk → Prop}
      (hstays : ¬ (rv < 0 ∧ c1.wsd_errno ≠ .WSD_EAGAIN ∧ c1.wsd_errno ≠ .WSD_EINPUT) → ∀ wssk, c1.wssk = some wssk →
        wssk.close = false → P wssk) : ∀ wssk', c'.wssk = some wssk' → P wssk' := by
    intro wssk' hwssk'
    obtain rfl | ⟨rfl, hkept, hclose⟩ := hleft
    · cases hwssk'
    · exact hstays hkept wssk' hwssk' (hclose wssk' hwssk')
  have hgiven {e : Errno} (he : e = .WSD_ENOMEM ∨ e = .WSD_EBADREQ) :
      (-1 : Int) < 0 ∧ e ≠ .WSD_EAGAIN ∧ e ≠ .WSD_EINPUT := by
    obtain rfl | rfl := he <;> decide
  obtain ⟨-, rfl, hempty⟩ | ⟨hhttp, h⟩ | ⟨hws, w, hws', rfl⟩ := post_read_inv h
  · have hnil : sk.recvbuf.readable = [] := by
      rw [← List.length_eq_zero_iff, hok.length_readable_eq, hempty]
    refine .quiet (fun _ => by rw [hnil]; exact not_complete_nil) hrecv' hstdout' (hopen fun _ wssk hwssk _ => ?_)
    cases hget.symm.trans hwssk
    exact ⟨hok, rfl, id⟩
  · obtain ⟨rfl, rfl⟩ | ⟨prev, ⟨rfl, rfl⟩ | ⟨e, rfl, hrnrn, rfl⟩⟩ := wssk_http_recv_inv h
    · refine .waits hhttp (hrecv'.trans hhttp) hstdout' (hopen fun _ wssk hwssk _ => ?_)
      cases hget.symm.trans hwssk
      exact ⟨hok, rfl⟩
    · exact .waits hhttp (hrecv'.trans hhttp) hstdout' (hopen fun hkept => absurd (hgiven (.inr rfl)) hkept)
    · refine .opened hhttp hrecv' hstdout' (has_rnrn_contained hok hrnrn) (hopen fun _ wssk hwssk _ => ?_)
      cases hwssk
      exact ⟨Skb.ok_reset _, Skb.readable_reset _⟩
  · obtain ⟨rfl, frames, w1, w2, events, hlistens, ⟨hprinted, hfails⟩, rfl⟩ :=
      @wssk_ws_recv_listens opt.no_handshake ⟨sk, c.stdout, c.wsd_errno⟩ w rv hok hws'
    refine .listens frames w1.sk.recvbuf.readable hws (hrecv'.trans hws) (.inr hwrite) ?_ hlistens.hears hlistens.last
      (hopen fun hkept wssk hwssk hclose => ?_)
    · rw [hstdout', ← hlistens.printed, ← hprinted]
    · obtain ⟨hsk, -, hwhole⟩ | hgives := hfails
      · cases hwssk
        dsimp only at hclose ⊢
        rw [hsk] at hclose ⊢
        refine ⟨hlistens.recvbuf, rfl, hwhole, fun h => ?_, fun hshake f hf hended => ?_⟩
        · rw [hwrite] at h
          cases h
        · obtain ⟨-, hclosed | hwrites⟩ := hlistens.ended hshake f hf hended
          · cases hclose.symm.trans hclosed
          · exact hwrites
      · exact absurd (hgiven hgives) hkept

theorem Attended.of_noted {sk1 : Sk} {e : Errno} (hwrite : sk1.close_on_write = sk.close_on_write)
    (h : Attended opt (c.noted .wssk sk1 now e) { sk1 with ts_last_io := now } held c') : Attended opt c sk held c' := by
  cases h with
  | waits hrecv hrecv' hstdout hopen => exact .waits hrecv hrecv' hstdout hopen
  | opened hrecv hrecv' hstdout hended hopen => exact .opened hrecv hrecv' hstdout hended hopen
  | listens frames unread hrecv hrecv' hquiet hprinted hhears hlast hopen =>
    dsimp only at hquiet hopen
    rw [hwrite] at hquiet hopen
    exact .listens frames unread hrecv hrecv' hquiet hprinted hhears hlast hopen

/-- What an event on the websocket makes of its bytes. -/
theorem on_event_wssk_attended {events : EpollEvents} (hok : sk.recvbuf.Ok) (hget : c.wssk = some sk)
    (hlen : read.len ≤ skb_wrsz sk.recvbuf) (hwhole : c.recv = .wssk_ws_recv → ¬ Complete sk.recvbuf.readable)
    (h : OnEvent opt read write now c .wssk events c') :
    Attended opt c sk (sk.recvbuf.readable ++ if Readable events then read.bytes else []) c' := by
  cases h with
  | read sk' c' hevents hget' hwrite hclose hread =>
    cases hget.symm.trans hget'
    rw [if_pos hevents]
    cases hread with
    | failed rv sk1 e c' hsk hrv herrno hleft =>
      cases hleft
      have hnil : read.bytes = [] := by
        obtain ⟨_, -, -, -, rfl, -⟩ | ⟨-, hagain, -⟩ | ⟨-, -, -, -, rfl | rfl⟩ := sk_read_cases hsk
        · cases hrv
        · exact absurd hagain herrno
        · rfl
        · rfl
      rw [hnil, List.append_nil]
      exact .quiet hwhole rfl rfl fun wssk' hwssk' => by cases hwssk'
    | refused rv rv1 sk1 e c1 c' hsk hrv hpost hrefused hleft =>
      cases hleft
      obtain ⟨hok1, hread1⟩ := sk_read_bytes hok hlen hsk hrv
      obtain ⟨-, hwrite1, -⟩ := sk_read_flags hsk
      rw [← hread1]
      exact .of_noted hwrite1 (@post_read_attended opt (c.noted .wssk sk1 now e) _ { sk1 with ts_last_io := now } rv1 c1
        hok1 rfl (hwrite1.trans hwrite) hpost (.inl rfl))
    | received rv rv1 sk1 e c1 c' sk2 hsk hrv hpost hrefused hget2 hleft =>
      obtain ⟨hok1, hread1⟩ := sk_read_bytes hok hlen hsk hrv
      obtain ⟨-, hwrite1, -⟩ := sk_read_flags hsk
      rw [← hread1]
      refine .of_noted hwrite1 (@post_read_attended opt (c.noted .wssk sk1 now e) _ { sk1 with ts_last_io := now } rv1 c1
        hok1 rfl (hwrite1.trans hwrite) hpost ?_)
      cases hclose2 : sk2.close with
      | true =>
        rw [hclose2, if_pos rfl] at hleft
        cases hleft
        exact .inl rfl
      | false =>
        rw [hclose2, if_neg (by decide)] at hleft
        refine .inr ⟨hleft.symm, hrefused, fun wssk hwssk => ?_⟩
        cases hget2.symm.trans hwssk
        exact hclose2
  | write sk' rv sk1 e c' hevents hout hget' hwrite hleft =>
    cases hget.symm.trans hget'
    rw [if_neg hevents, List.append_nil]
    obtain hleft | rfl := hleft
    · cases hleft
      exact .quiet hwhole rfl rfl fun wssk' hwssk' => by cases hwssk'
    · have hwritten := sk_write_written write now sk c.wsd_errno
      rw [hwrite] at hwritten
      refine .quiet hwhole rfl rfl fun wssk' hwssk' => ?_
      cases hwssk'
      have hrecvbuf := hwritten.recvbuf_eq
      dsimp only at hrecvbuf ⊢
      rw [hrecvbuf, (sk_write_flags hwrite).2.1]
      exact ⟨hok, rfl, id⟩
  | hangup c' hevents hout hopen hleft =>
    cases hleft
    rw [if_neg hevents, List.append_nil]
    exact .quiet hwhole rfl rfl fun wssk' hwssk' => by cases hwssk'
  | nothing hevents hout hopen =>
    rw [if_neg hevents, List.append_nil]
    refine .quiet hwhole rfl rfl fun wssk' hwssk' => ?_
    cases hget.symm.trans hwssk'
    exact ⟨hok, rfl, id⟩

end Event

section Account

variable {opt : Options} {path : List (Move State Env)} {s s' : State} {env : Env} {frames : List Frame}
  {unread : List UInt8}

/-- The bytes which a step reads from the server. -/
def arrived (s : State) (env : Env) : List UInt8 :=
  match s.pc, env.read with
  | .on_event ((.wssk, events) :: _), .ok bytes => if Readable events then bytes else []
  | _, _ => []

/-- What has been read up to the end of the response, and with it. -/
def answer (path : List (Move State Env)) : List UInt8 :=
  path.flatMap fun m => if m.before.c.recv = .wssk_http_recv then arrived m.before m.input else []

/-- What has been read behind the response. -/
def received (path : List (Move State Env)) : List UInt8 :=
  path.flatMap fun m => if m.before.c.recv = .wssk_ws_recv then arrived m.before m.input else []

/-- What is printed are the payloads of the data frames which are heard in the server's bytes behind the response,
    and nothing before the end of the response has arrived. As long as the websocket is open no whole frame waits.
    Without -N nothing is heard behind a close frame. -/
structure Incoming (opt : Options) (path : List (Move State Env)) (s : State) (frames : List Frame)
    (unread : List UInt8) : Prop where
  printed : s.c.stdout.printed = printedOf frames
  http : s.c.recv = .wssk_http_recv → frames = [] ∧ received path = [] ∧ unread = answer path
  opened : s.c.recv = .wssk_ws_recv → [CR, LF, CR, LF] <:+: answer path
  hears : s.c.recv = .wssk_ws_recv → Hears (received path) frames unread
  rest : ∀ wssk, s.c.wssk = some wssk → wssk.recvbuf.readable = unread
  whole : s.c.recv = .wssk_ws_recv → s.c.wssk.isSome = true → ¬ Complete unread
  last : opt.no_handshake = false → frames.Pairwise fun f _ => f.opcode ≠ WS_CLOSE_FRAME

/-- An open websocket which has heard a close frame is only to be flushed. -/
structure Attentive (opt : Options) (s : State) (frames : List Frame) : Prop where
  recvbuf : ∀ wssk, s.c.wssk = some wssk → wssk.recvbuf.Ok
  ended : opt.no_handshake = false → ∀ f ∈ frames, f.opcode = WS_CLOSE_FRAME →
    ∀ wssk, s.c.wssk = some wssk → wssk.close_on_write = true

theorem arrived_eq_nil (h : s.pc.source ≠ some .wssk) : arrived s env = [] := by
  unfold arrived
  split
  · rename_i hpc _
    rw [hpc] at h
    exact absurd rfl h
  · rfl

theorem answer_snoc {m : Move State Env} : answer (path ++ [m]) =
    answer path ++ if m.before.c.recv = .wssk_http_recv then arrived m.before m.input else [] := by
  simp [answer]

theorem received_snoc {m : Move State Env} : received (path ++ [m]) =
    received path ++ if m.before.c.recv = .wssk_ws_recv then arrived m.before m.input else [] := by
  simp [received]

/-- What a step makes of the bytes of the open websocket. -/
theorem step_attended {sk : Sk} (hok : sk.recvbuf.Ok) (hget : s.c.wssk = some sk)
    (hwhole : s.c.recv = .wssk_ws_recv → ¬ Complete sk.recvbuf.readable) (hvalid : env.Valid s)
    (hstep : step opt env s = .ok s') : Attended opt s.c sk (sk.recvbuf.readable ++ arrived s env) s'.c := by
  by_cases hsource : s.pc.source = some .wssk
  · obtain ⟨events, todo, hpc, hevent⟩ := (step_inv hstep).on_wssk hsource
    have hlen := (hvalid.2.2 .wssk hsource sk hget).1
    have hattended := on_event_wssk_attended hok hget hlen hwhole hevent
    have harrived : arrived s env = if Readable events then env.read.bytes else [] := by
      unfold arrived
      rw [hpc]
      cases env.read with
      | error => exact (ite_self []).symm
      | ok bytes => rfl
    rwa [harrived]
  · have haside := (step_inv hstep).aside hsource
    rw [arrived_eq_nil hsource, List.append_nil]
    refine .quiet hwhole haside.recv haside.stdout fun wssk' hwssk' => ?_
    obtain ⟨wssk, hwssk, sendbuf, events, closing, rfl, -⟩ := haside.wssk wssk' hwssk'
    cases hget.symm.trans hwssk
    exact ⟨hok, rfl, id⟩

/-- A closed websocket reads nothing more. -/
theorem step_gone (hget : s.c.wssk = none) (hstep : step opt env s = .ok s') :
    Aside s.c s'.c ∧ s'.c.wssk = none ∧ arrived s env = [] := by
  have hsource : s.pc.source ≠ some .wssk := by
    intro hsource
    obtain ⟨events, todo, -, hevent⟩ := (step_inv hstep).on_wssk hsource
    have hopen : s.c.wssk.isSome = true := hevent.isSome
    rw [hget] at hopen
    cases hopen
  have haside := (step_inv hstep).aside hsource
  refine ⟨haside, ?_, arrived_eq_nil hsource⟩
  cases hwssk' : s'.c.wssk with
  | none => rfl
  | some wssk' =>
    obtain ⟨wssk, hwssk, -⟩ := haside.wssk wssk' hwssk'
    cases hget.symm.trans hwssk

/-- The account of a run whose websocket is closed stays the same. -/
theorem Incoming.gone (h : Incoming opt path s frames unread) (hget : s.c.wssk = none)
    (hstep : step opt env s = .ok s') :
    Incoming opt (path ++ [⟨s, env, s'⟩]) s' frames unread ∧ Attentive opt s' frames := by
  obtain ⟨haside, hgone, harrived⟩ := step_gone hget hstep
  have hanswer : answer (path ++ [⟨s, env, s'⟩]) = answer path := by
    rw [answer_snoc, harrived, ite_self, List.append_nil]
  have hreceived : received (path ++ [⟨s, env, s'⟩]) = received path := by
    rw [received_snoc, harrived, ite_self, List.append_nil]
  refine ⟨⟨?_, ?_, ?_, ?_, fun wssk hwssk => ?_, fun _ hopen => ?_, h.last⟩, fun wssk hwssk => ?_,
    fun _ _ _ _ wssk hwssk => ?_⟩
  · rw [haside.stdout]
    exact h.printed
  · rw [haside.recv, hanswer, hreceived]
    exact h.http
  · rw [haside.recv, hanswer]
    exact h.opened
  · rw [haside.recv, hreceived]
    exact h.hears
  · cases hgone.symm.trans hwssk
  · rw [hgone] at hopen
    cases hopen
  · cases hgone.symm.trans hwssk
  · cases hgone.symm.trans hwssk

theorem Incoming.attended {sk : Sk} (h : Incoming opt path s frames unread) (hattentive : Attentive opt s frames)
    (hget : s.c.wssk = some sk) (hattended : Attended opt s.c sk (unread ++ arrived s env) s'.c) :
    ∃ frames' unread', Incoming opt (path ++ [⟨s, env, s'⟩]) s' frames' unread' ∧ Attentive opt s' frames' := by
  cases hattended with
  | waits hrecv hrecv' hstdout hopen =>
    obtain ⟨rfl, hreceived, hunread⟩ := h.http hrecv
    have hnot : ¬ s.c.recv = .wssk_ws_recv := by rw [hrecv]; decide
    have hnot' : s'.c.recv ≠ .wssk_ws_recv := by rw [hrecv']; decide
    refine ⟨[], unread ++ arrived s env, ⟨?_, fun _ => ⟨rfl, ?_, ?_⟩, fun hws => absurd hws hnot', fun hws => absurd hws hnot',
      fun wssk' hwssk' => (hopen wssk' hwssk').2, fun hws => absurd hws hnot', fun _ => .nil⟩,
      fun wssk' hwssk' => (hopen wssk' hwssk').1, fun _ f hf => by cases hf⟩
    · rw [hstdout]
      exact h.printed
    · rw [received_snoc, hreceived, if_neg hnot]
      rfl
    · rw [answer_snoc, if_pos hrecv, hunread]
  | opened hrecv hrecv' hstdout hended hopen =>
    obtain ⟨rfl, hreceived, hunread⟩ := h.http hrecv
    have hnot : ¬ s.c.recv = .wssk_ws_recv := by rw [hrecv]; decide
    have hnot' : s'.c.recv ≠ .wssk_http_recv := by rw [hrecv']; decide
    refine ⟨[], [], ⟨?_, fun hhttp => absurd hhttp hnot', fun _ => ?_, fun _ => ?_,
      fun wssk' hwssk' => (hopen wssk' hwssk').2, fun _ _ => ?_, fun _ => .nil⟩,
      fun wssk' hwssk' => (hopen wssk' hwssk').1, fun _ f hf => by cases hf⟩
    · rw [hstdout]
      exact h.printed
    · rwa [answer_snoc, if_pos hrecv, ← hunread]
    · rw [received_snoc, hreceived, if_neg hnot]
      exact .stop []
    · exact not_complete_nil
  | listens heard unread' hrecv hrecv' hquiet hprinted hhears hlast hopen =>
    have hnot : ¬ s.c.recv = .wssk_http_recv := by rw [hrecv]; decide
    have hnot' : s'.c.recv ≠ .wssk_http_recv := by rw [hrecv']; decide
    refine ⟨frames ++ heard, unread', ⟨?_, fun hhttp => absurd hhttp hnot', fun _ => ?_, fun _ => ?_,
      fun wssk' hwssk' => (hopen wssk' hwssk').2.1, fun _ hsome => ?_, fun hshake => ?_⟩,
      fun wssk' hwssk' => (hopen wssk' hwssk').1, fun hshake f hf hclose wssk' hwssk' => ?_⟩
    · rw [hprinted, h.printed, printedOf_append]
    · rw [answer_snoc, if_neg hnot, List.append_nil]
      exact h.opened hrecv
    · rw [received_snoc, if_pos hrecv]
      exact ((h.hears hrecv).append _).trans hhears
    · obtain ⟨wssk', hwssk'⟩ := Option.isSome_iff_exists.mp hsome
      exact (hopen wssk' hwssk').2.2.1
    · refine List.pairwise_append.mpr ⟨h.last hshake, hlast hshake, fun f hf g hg hclose => ?_⟩
      obtain rfl | hwrite := hquiet
      · cases hg
      · cases hwrite.symm.trans (hattentive.ended hshake f hf hclose sk hget)
    · obtain ⟨-, -, -, hkept, hended⟩ := hopen wssk' hwssk'
      obtain hf | hf := List.mem_append.mp hf
      · exact hkept (hattentive.ended hshake f hf hclose sk hget)
      · exact hended hshake f hf hclose

/-- The account of a run goes on with the next step. -/
theorem Incoming.next (h : Incoming opt path s frames unread) (hattentive : Attentive opt s frames)
    (hvalid : env.Valid s) (hstep : step opt env s = .ok s') :
    ∃ frames' unread', Incoming opt (path ++ [⟨s, env, s'⟩]) s' frames' unread' ∧ Attentive opt s' frames' := by
  cases hget : s.c.wssk with
  | none => exact ⟨frames, unread, h.gone hget hstep⟩
  | some sk =>
    have hrest := h.rest sk hget
    have hattended := step_attended (hattentive.recvbuf sk hget) hget
      (fun hws => by rw [hrest]; exact h.whole hws (by rw [hget]; rfl)) hvalid hstep
    rw [hrest] at hattended
    exact h.attended hattentive hget hattended

end Account

section Run

variable {opt opt' : Options} {fd fd' : Int} {request request' : List UInt8} {broken broken' : Bool}
  {P P' : State → Env → Prop} {path path' : List (Move State Env)} {s s' : State} {wssk wssk' : Sk}

theorem path_incoming (h : (program opt fd request broken).Path P path s) :
    ∃ frames unread, Incoming opt path s frames unread ∧ Attentive opt s frames := by
  refine h.invariant (I := fun path s => ∃ frames unread, Incoming opt path s frames unread ∧ Attentive opt s frames) ?_ ?_
  · have hnot : (program opt fd request broken).init.c.recv ≠ .wssk_ws_recv :=
      (by decide : WsskRecv.wssk_http_recv ≠ .wssk_ws_recv)
    refine ⟨[], [], ⟨rfl, fun _ => ⟨rfl, rfl, rfl⟩, fun hws => absurd hws hnot, fun _ => .stop [], fun wssk hwssk => ?_,
      fun hws => absurd hws hnot, fun _ => .nil⟩, fun wssk hwssk => ?_, fun _ f hf => by cases hf⟩
    · cases hwssk
      exact Skb.readable_zero
    · cases hwssk
      exact Skb.ok_zero
  · rintro path s s' env - ⟨frames, unread, hin, hattentive⟩ hvalid - hstep
    exact hin.next hattentive hvalid hstep

/-- What wscat prints are the payloads of the server's data frames behind the response, each when it is whole, for all
    options and all orders of input, messages and timeouts. -/
theorem incoming_stream (opt : Options) (fd : Int) (request : List UInt8) (broken : Bool) (P : State → Env → Prop)
    (path : List (Move State Env)) (s : State) (h : (program opt fd request broken).Path P path s) :
    ∃ frames unread, Incoming opt path s frames unread := by
  obtain ⟨frames, unread, hin, -⟩ := path_incoming h
  exact ⟨frames, unread, hin⟩

/-- As long as no close frame has been heard, what has been printed is determined by the bytes which have arrived
    behind the response: neither how they arrive nor anything else makes a difference. -/
theorem output_determined (h : (program opt fd request broken).Path P path s)
    (h' : (program opt' fd' request' broken').Path P' path' s') (hshake : opt.no_handshake = false)
    (hws : s.c.recv = .wssk_ws_recv) (hws' : s'.c.recv = .wssk_ws_recv) (hwssk : s.c.wssk = some wssk)
    (hwssk' : s'.c.wssk = some wssk') (hopen : wssk.close_on_write = false) (hsame : received path = received path') :
    s.c.stdout.printed = s'.c.stdout.printed ∧ wssk.recvbuf.readable = wssk'.recvbuf.readable := by
  obtain ⟨frames, unread, hin, hattentive⟩ := path_incoming h
  obtain ⟨frames', unread', hin', -⟩ := path_incoming h'
  have hheard : ∀ f ∈ frames, f.opcode ≠ WS_CLOSE_FRAME := by
    intro f hf hclose
    cases hopen.symm.trans (hattentive.ended hshake f hf hclose wssk hwssk)
  have hhears' := hin'.hears hws'
  rw [← hsame] at hhears'
  obtain ⟨rfl, rfl⟩ := (hin.hears hws).unique hhears' (hin.whole hws (by rw [hwssk]; rfl))
    (hin'.whole hws' (by rw [hwssk']; rfl)) hheard
  exact ⟨hin.printed.trans hin'.printed.symm, (hin.rest wssk hwssk).trans (hin'.rest wssk' hwssk').symm⟩

end Run

namespace Session

/-- A ping and a message in two parts arrive behind the response, and then the server closes. -/
def messaged : List Env :=
  connected ++ iteration 9 .wssk EPOLLIN { read := .ok [0x89, 0, 0x81, 2, 104] } ++
    iteration 9 .wssk EPOLLIN { read := .ok [105, 0x88, 0] }

/-- A ping, a message and a part of the next one arrive in two reads, which are cut at the given place. -/
def cutAt (n : Nat) : List Env :=
  connected ++ iteration 9 .wssk EPOLLIN { read := .ok ([0x89, 0, 0x81, 2, 104, 105, 0x81].take n) } ++
    iteration 9 .wssk EPOLLIN { read := .ok ([0x89, 0, 0x81, 2, 104, 105, 0x81].drop n) }

/-- What comes of it. -/
def Cut (n : Nat) (path : List (Move State Env)) (s : State) : Prop :=
  received path = [0x89, 0, 0x81, 2, 104, 105, 0x81] ∧
    (path.map fun m => arrived m.before m.input)[6]? = some ([0x89, 0, 0x81, 2, 104, 105, 0x81].take n) ∧
    s.c.stdout.printed = [104, 105] ∧ s.c.recv = .wssk_ws_recv ∧ ∃ wssk ∈ s.c.wssk, wssk.close_on_write = false

instance (n : Nat) (path : List (Move State Env)) (s : State) : Decidable (Cut n path s) :=
  inferInstanceAs (Decidable (_ ∧ _ ∧ _ ∧ _ ∧ _))

end Session

open Session

/-- The message is printed, and the websocket is only to be flushed. -/
theorem incoming_stream_messaged :
    ∃ (path : List (Move State Env)) (s : State), s.c.stdout.printed = [104, 105] ∧
      (∃ wssk ∈ s.c.wssk, wssk.close_on_write = true) ∧
      ∃ frames unread, Incoming (options false false (-1) (-1) (-1)) path s frames unread := by
  obtain ⟨path, s, hpath, hprinted, hclosing⟩ :=
    @System.exists_path _ _ _ (fun _ _ => True) (program (options false false (-1) (-1) (-1)) 3 (ascii "GET") false) _ _
      (fun _ s => s.c.stdout.printed = [104, 105] ∧ ∃ wssk ∈ s.c.wssk, wssk.close_on_write = true) _ messaged
      (by decide +kernel)
  exact ⟨path, s, hprinted, hclosing, incoming_stream _ 3 (ascii "GET") false _ path s hpath⟩

/-- Two runs whose reads are cut inside the ping and inside the message. -/
theorem output_determined_cut :
    ∃ (path path' : List (Move State Env)) (s s' : State), received path = received path' ∧
      (path.map fun m => arrived m.before m.input) ≠ (path'.map fun m => arrived m.before m.input) ∧
      s.c.stdout.printed = [104, 105] ∧ s.c.stdout.printed = s'.c.stdout.printed := by
  obtain ⟨path, s, hpath, hreceived, hcut, hprinted, hws, wssk, hwssk, hopen⟩ :=
    @System.exists_path _ _ _ (fun _ _ => True) (program (options false false (-1) (-1) (-1)) 3 (ascii "GET") false) _ _
      (Session.Cut 1) _ (cutAt 1) (by decide +kernel)
  obtain ⟨path', s', hpath', hreceived', hcut', -, hws', wssk', hwssk', -⟩ :=
    @System.exists_path _ _ _ (fun _ _ => True) (program (options false false (-1) (-1) (-1)) 3 (ascii "GET") false) _ _
      (Session.Cut 5) _ (cutAt 5) (by decide +kernel)
  refine ⟨path, path', s, s', hreceived.trans hreceived'.symm, fun heq => ?_, hprinted, ?_⟩
  · rw [heq, hcut'] at hcut
    exact absurd hcut (by decide)
  · exact (output_determined hpath hpath' rfl hws hws' hwssk hwssk' hopen (hreceived.trans hreceived'.symm)).1

end wscat

end wsd

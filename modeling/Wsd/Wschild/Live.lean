import Wsd.Wschild.Fault
import Wsd.Wschild.Traversal

namespace wsd

/-- The sockets have the handlers of their kind, and only open ones are linked for `try_recv`. -/
structure World.Sound (w : World) : Prop where
  wf : w.Wf
  work_open : ∀ id ∈ w.work_list, (w.get id).isSome

section World

variable {cfg : Config} {w w' : World} {id p : Nat} {sk sk' : Sk}

theorem deref_live (hget : w.get id = some sk) : Live (w.deref id) := by
  rw [World.deref_of_get hget]
  exact .ok _

/-- A socket which changes in place. -/
theorem World.Sound.set (h : w.Sound) (wsd_errno : Errno) (num : Nat) (statics : Statics)
    (hset : (w.set id sk').Wf) : World.Sound { w.set id sk' with wsd_errno, num, statics } where
  wf := ⟨hset.client, hset.backend⟩
  work_open := by
    intro j hj
    rw [World.work_list_set] at hj
    change ((w.set id sk').get j).isSome
    rw [World.get_set, Function.update_apply]
    split
    · rfl
    · exact h.work_open j hj

theorem World.Kept.sound (hkept : w.Kept w') (h : w.Sound) (hwf : w'.Wf) : w'.Sound where
  wf := hwf
  work_open := by
    intro j hj
    rw [hkept.work_list] at hj
    rw [hkept.get]
    exact h.work_open j hj

theorem unlink_fd_live {fd : Int} {nodes : List Nat} (hopen : ∀ id ∈ nodes, (w.get id).isSome) :
    Live (unlink_fd w fd nodes) := by
  induction nodes with
  | nil => exact .ok _
  | cons pos rest ih =>
    obtain ⟨hpos, hrest⟩ := List.forall_mem_cons.mp hopen
    obtain ⟨sk, hget⟩ := Option.isSome_iff_exists.mp hpos
    unfold unlink_fd
    exact .bind (deref_live hget) fun _ _ => .bind (ih hrest) fun _ _ => .ok _

theorem has_fd_live {fd : Int} {nodes : List Nat} (hopen : ∀ id ∈ nodes, (w.get id).isSome) :
    Live (has_fd w fd nodes) := by
  induction nodes with
  | nil => exact .ok _
  | cons pos rest ih =>
    obtain ⟨hpos, hrest⟩ := List.forall_mem_cons.mp hopen
    obtain ⟨sk, hget⟩ := Option.isSome_iff_exists.mp hpos
    unfold has_fd
    exact .bind (deref_live hget) fun _ _ => .ite (fun _ => .ok _) (fun _ => ih hrest)

theorem post_read_live (h : w.Sound) (hget : w.get id = some sk) : Live (post_read w id) := by
  unfold post_read
  refine .bind (deref_live hget) fun _ _ => .bind (has_fd_live h.work_open) fun _ _ => ?_
  exact .ite (fun _ => .ok _) (fun _ => .ok _)

theorem close_live (h : w.Sound) (hget : w.get id = some sk) : Live (close w id) := by
  unfold close
  rw [World.deref_of_get hget, Except.ok_bind]
  obtain ⟨hpp, hkind⟩ | ⟨hclient, hkind, -⟩ := h.wf.get_cases hget
  · simp only [hkind.ops, pp2_close, hpp, if_true]
    exact .ok _
  · simp only [hkind.close_eq, sk_close, hclient]
    exact .bind (unlink_fd_live h.work_open) fun _ _ => .ok _

theorem try_recv_result_live {rv : Int} (h : w.Sound) (hget : w.get id = some sk) : Live (try_recv_result w id rv) := by
  have herased : World.Sound { w with work_list := w.work_list.erase id } :=
    ⟨⟨h.wf.client, h.wf.backend⟩, fun j hj => h.work_open j (List.mem_of_mem_erase hj)⟩
  unfold try_recv_result
  refine .ite (fun _ => .ok _) fun _ => .ite (fun _ => .ok _) fun _ => .ite (fun _ => .ok _) fun _ => ?_
  refine .ite (fun _ => .bind (deref_live hget) fun _ _ => ?_) (fun _ => .ok _)
  exact .ite (fun _ => close_live herased hget) (fun _ => .ok _)

/-- A socket which changes in place and is closed. -/
theorem close_set_live (h : w.Sound) (hget : w.get id = some sk) (hops : sk'.ops = sk.ops) (hproto : sk'.proto = sk.proto)
    (wsd_errno : Errno) (num : Nat) : Live (close { w.set id sk' with wsd_errno, num } id) :=
  close_live (h.set wsd_errno num _ (h.wf.set_core hget hops hproto)) (World.get_set_self w id sk')

theorem on_write_live {write : WriteResult} {now : Timespec} (h : w.Sound) (hget : w.get id = some sk) :
    Live (on_write write now w id) := by
  unfold on_write
  rw [World.deref_of_get hget, Except.ok_bind]
  have hwritten := sk_write_written write now sk w.wsd_errno
  generalize sk_write write sk w.wsd_errno = result at hwritten
  obtain ⟨rv, sk1, e⟩ := result
  have hclose : Live (close { w.set id { sk1 with ts_last_io := now } with wsd_errno := e } id) :=
    close_set_live h hget hwritten.kind.1 hwritten.kind.2 e _
  exact .ite (fun _ => hclose) fun _ => .ite (fun _ => hclose) fun _ => .ite (fun _ => hclose) (fun _ => .ok _)

theorem Posted.sound (h : w.Sound) (hget : w.get id = some sk) (hposted : Posted w id sk w') : w'.Sound := by
  obtain ⟨linked, -, rfl⟩ := hposted
  refine ⟨⟨h.wf.client, h.wf.backend⟩, fun j hj => ?_⟩
  change (w.get j).isSome
  cases linked with
  | true => exact h.work_open j hj
  | false =>
    obtain hj | hj := List.mem_append.mp hj
    · exact h.work_open j hj
    · rw [List.mem_singleton.mp hj, hget]
      rfl

theorem on_read_live {read : ReadResult} {retry : Bool} {now : Timespec} (h : w.Sound) (hget : w.get id = some sk) :
    Live (on_read cfg read retry now w id) := by
  unfold on_read
  rw [World.deref_of_get hget, Except.ok_bind]
  refine .bind (.assert _ (by decide)) fun _ _ => .bind (.assert _ (by decide)) fun _ _ => ?_
  have hsk_read : Live (sk_read read sk w.wsd_errno) := by
    unfold sk_read
    refine .bind (.assert _ (by decide)) fun _ _ => .ite (fun _ => .ok _) fun _ => ?_
    split <;> exact .ok _
  refine .bind hsk_read ?_
  rintro ⟨rv, sk1, e⟩ hread
  obtain ⟨hops, hproto⟩ := sk_read_kind hread
  refine .ite (fun _ => ?_) fun _ => ?_
  · have hresult : ∃ num, (if e = .WSD_CHECKERRNO then check_errno cfg retry
        { w.set id { sk1 with ts_last_io := now } with wsd_errno := e } else
        (-1, { w.set id { sk1 with ts_last_io := now } with wsd_errno := e })).2 =
          { w.set id { sk1 with ts_last_io := now } with wsd_errno := e, num } := by
      split
      · cases retry <;> exact ⟨_, rfl⟩
      · exact ⟨_, rfl⟩
    generalize (if e = .WSD_CHECKERRNO then check_errno cfg retry
      { w.set id { sk1 with ts_last_io := now } with wsd_errno := e } else
      (-1, { w.set id { sk1 with ts_last_io := now } with wsd_errno := e })) = result at hresult
    obtain ⟨num, hresult⟩ := hresult
    have hclose (retries : UInt8) :
        Live (close { w.set id { sk1 with ts_last_io := now, retries } with wsd_errno := e, num } id) :=
      close_set_live h hget (by exact hops) (by exact hproto) e num
    simp only [hresult, World.set_set_num]
    exact .ite (fun _ => .ite (fun _ => .ok _) fun _ => hclose _) fun _ => hclose _
  · have hset : World.Sound { w.set id { sk1 with ts_last_io := now } with wsd_errno := e } :=
      h.set _ _ _ (h.wf.set_core hget (by exact hops) (by exact hproto))
    have hget' : World.get { w.set id { sk1 with ts_last_io := now } with wsd_errno := e } id =
      some { sk1 with ts_last_io := now } := World.get_set_self w id _
    refine .bind (post_read_live hset hget') fun w' hpost => .ite (fun _ => ?_) (fun _ => .ok _)
    have hposted := post_read_inv hget' hpost
    have hget'' : w'.get id = some { sk1 with ts_last_io := now } := by
      obtain ⟨linked, -, rfl⟩ := hposted
      exact hget'
    exact close_live (hposted.sound hset hget') hget''

theorem on_epoll_event_live {env : Env} {now : Timespec} {events : EpollEvents} (h : w.Sound)
    (hget : w.get id = some sk) : Live (on_epoll_event cfg env.read env.write env.retry now w id events) := by
  unfold on_epoll_event
  rw [World.deref_of_get hget, Except.ok_bind]
  refine .bind (.assert _ (by decide)) fun _ _ => .ite (fun _ => on_read_live h hget) fun _ => ?_
  refine .ite (fun _ => on_write_live h hget) fun _ => ?_
  exact .ite (fun _ => close_live h hget) (fun _ => .ok _)

theorem put_ping_pong_live {closing : Assertion} {opcode : UInt8} {do_mask : Bool} {wsd_errno : Errno} :
    Live (put_ping_pong closing opcode sk do_mask wsd_errno) := by
  intro fault h hfault
  obtain ⟨-, rfl⟩ := put_ping_pong_guarded h (.inl hfault)
  cases hfault

theorem ws_start_closing_handshake_live {status : Nat} {do_mask : Bool} {wsd_errno : Errno} :
    Live (ws_start_closing_handshake sk status do_mask wsd_errno) := by
  intro fault h hfault
  obtain ⟨-, rfl⟩ := ws_start_closing_handshake_guarded h (.inl hfault)
  cases hfault

theorem check_timeouts_live {now : Timespec} (h : w.Sound) (hget : w.get id = some sk) :
    Live (check_timeouts cfg now w id) := by
  unfold check_timeouts
  rw [World.deref_of_get hget, Except.ok_bind]
  have hidle : Live (check_idle cfg now sk w.wsd_errno) := by
    unfold check_idle
    refine .ite (fun _ => ?_) (fun _ => .ok _)
    split
    · exact .ok _
    · rename_i handler _
      cases handler
      exact .bind ws_start_closing_handshake_live fun _ _ => .ite (fun _ => .ok _) (fun _ => .ok _)
  have htimeout (sk' : Sk) (timeout : Int) : Live (check_closing_handshake_timeout sk' now timeout) := by
    unfold check_closing_handshake_timeout
    exact .bind (.assert _ (by decide)) fun _ _ => .ite (fun _ => .ok _) (fun _ => .ok _)
  refine .bind hidle ?_
  rintro ⟨idle, sk1, e⟩ hchecked
  have hkind : sk1.ops = sk.ops ∧ sk1.proto = sk.proto := by
    obtain ⟨-, rfl⟩ | ⟨-, rfl, -⟩ | ⟨-, -, -, sendbuf, -, rfl⟩ := check_idle_inv hchecked
    · exact ⟨rfl, rfl⟩
    · exact ⟨rfl, rfl⟩
    · exact ⟨rfl, rfl⟩
  have hclose : Live (close { w.set id sk1 with wsd_errno := e } id) := close_set_live h hget hkind.1 hkind.2 e _
  refine .ite (fun _ => hclose) fun _ => .bind (htimeout _ _) fun _ _ => .ite (fun _ => hclose) fun _ => ?_
  refine .ite (fun _ => .bind ?_ fun _ _ => .ok _) (fun _ => .ok _)
  cases sk1.proto.ping with
  | none => exact .error (by decide)
  | some handler =>
    cases handler with
    | ws_ping => exact put_ping_pong_live
    | pp2_nop => exact .ok _

theorem accept_step_live {env : Env} {todo : List (Option Nat × EpollEvents)} : Live (accept_step env w todo) := by
  have haccept : Live (sk_accept env.accepted w) := by
    cases env.accepted with
    | none => exact .ok _
    | some a =>
      unfold sk_accept
      exact .bind (.ite (fun _ => .ok _) (fun _ => .error (by decide))) fun _ _ => .ok _
  unfold accept_step
  exact .bind haccept fun _ _ => .bind (.assert _ (by decide)) fun _ _ => .ok _

end World

section Receive

variable {cfg : Config} {ssl : Openssl} {env : Env} {w : World} {id frames : Nat} {sk : Sk} {todo : List Nat}

theorem recv_step_live (h : w.Sound) (hget : w.get id = some sk) : Live (recv_step cfg ssl env w id todo) := by
  unfold recv_step
  rw [World.deref_of_get hget, Except.ok_bind]
  obtain ⟨-, hkind⟩ | ⟨-, ⟨ops, proto⟩ | ⟨ops, -⟩, -⟩ := h.wf.get_cases hget
  · simp only [hkind.ops]
    refine .bind ?_ fun _ _ => .ok _
    unfold pp2_recv_enter
    rw [World.deref_of_get hget, Except.ok_bind]
    exact .bind (.assert _ (by decide)) fun _ _ => .assert _ (by decide)
  · simp only [ops]
    have hhttp : Live (http_recv cfg ssl sk w.statics) := by
      by_cases hrdsz : skb_rdsz sk.recvbuf = 0
      · unfold http_recv
        rw [decide_eq_false (not_not.mpr hrdsz)]
        exact .error (by decide)
      · exact (http_recv_unguarded hrdsz (by rw [proto])).live
    refine .bind hhttp ?_
    rintro ⟨rv, sk', statics, e⟩ hrecv
    have hset : (w.set id sk').Wf := by
      apply h.wf.set hget (http_recv_kind hrecv)
      intro hbackend
      rw [hbackend.ops] at ops
      cases ops
    have hsound : World.Sound { w.set id sk' with statics, wsd_errno := e } := h.set e _ statics hset
    exact .bind (try_recv_result_live hsound (World.get_set_self w id sk')) fun _ _ => .ok _
  · simp only [ops]
    have henter : Live (ws_recv_enter cfg env.opens w id) := by
      unfold ws_recv_enter
      rw [World.deref_of_get hget, Except.ok_bind]
      exact .bind (.assert _ (by decide)) fun _ _ => .ite (fun _ => .ok _) (fun _ => .ok _)
    refine .bind henter ?_
    rintro ⟨rv, w1⟩ hentered
    refine .ite (fun hneg => ?_) (fun _ => .ok _)
    obtain ⟨-, hopen⟩ := ws_recv_enter_inv hget hentered
    have hsame : ∃ wsd_errno num, w1 = { w with wsd_errno, num } := by
      split at hopen
      · obtain ⟨-, hw1⟩ | ⟨hrv, -⟩ := open_loop_inv hopen
        · exact hw1
        · omega
      · cases hopen
        exact ⟨_, _, rfl⟩
    obtain ⟨e, num, rfl⟩ := hsame
    have hsound : World.Sound { w with wsd_errno := e, num } := ⟨⟨h.wf.client, h.wf.backend⟩, h.work_open⟩
    exact .bind (try_recv_result_live hsound hget) fun _ _ => .ok _

theorem ws_recv_step_live (h : w.Sound) (hbounded : w.Bounded) (hclient : w.clients id = some sk) (hup : Upgraded sk) :
    Live (ws_recv_step w id frames todo) := by
  have hget := h.wf.get_of_client hclient
  cases hpp : w.pp2sk with
  | none =>
    unfold ws_recv_step decode_frame World.conn
    rw [World.deref_of_get hget, Except.ok_bind, hup.decode_frame]
    simp only [hclient, hpp]
    exact .error (by decide)
  | some pp =>
    obtain ⟨p, pp2sk⟩ := pp
    have hbackend := h.wf.backend p pp2sk hpp
    have hdecode : Live (decode_frame w id) := by
      unfold decode_frame
      rw [World.deref_of_get hget, Except.ok_bind, hup.decode_frame]
      simp only [World.conn_of_get hclient hpp, Except.ok_bind]
      refine .bind ?_ fun _ _ => .ok _
      rintro fault hfault rfl
      have hforbidden := ws_decode_frame_guarded (hbounded.recvbuf id sk hget) (hbounded.backend p pp2sk hpp)
        (by rw [hbackend.1.proto]) hup hfault (.inl rfl)
      cases hforbidden
    unfold ws_recv_step
    refine .bind hdecode ?_
    rintro ⟨rv, w1⟩ hframe
    obtain ⟨p', pp2sk', c', hpp', hdecoded, rfl⟩ := World.decode_frame_ws h.wf hclient hup hframe
    rw [hpp] at hpp'
    cases hpp'
    have hdecoded := ws_decode_frame_inv (c := { sk, pp2sk, wsd_errno := w.wsd_errno })
      (hbounded.recvbuf id sk hget) (hbounded.backend p pp2sk hpp) (by rw [hbackend.1.proto]) hup hdecoded
    simp only [World.conn_setConn hpp, Except.ok_bind, World.setConn_setConn]
    have hcore := hdecoded.core
    have hleave := ws_recv_leave_core frames c'
    have hsk := hleave.1.trans hcore.1
    have hsound : (w.setConn id (ws_recv_leave frames c')).Sound :=
      (World.kept_setConn h.wf hclient hpp (congrArg Sk.Core.hash hsk)).sound h
        (h.wf.setConn hclient hpp ((h.wf.client id sk hclient).1.of_core hsk) (hbackend.1.of_core (hleave.2.trans hcore.2)))
    have hget' : (w.setConn id (ws_recv_leave frames c')).get id = some (ws_recv_leave frames c').sk := by
      have hne : id ≠ p := by
        rintro rfl
        rw [hclient] at hbackend
        cases hbackend.2.2
      rw [World.get_setConn hpp, Function.update_of_ne hne, Function.update_self]
    exact .ite (fun _ => .ok _) fun _ => .bind (try_recv_result_live hsound hget') fun _ _ => .ok _

theorem pp2_recv_step_live (h : w.Sound) (hbounded : w.Bounded) (hpp : w.pp2sk = some (id, sk))
    (hchains : ∀ bucket, ∀ id ∈ w.sk_hash bucket, w.clients id ≠ none) : Live (pp2_recv_step w id frames todo) := by
  have hkind := (h.wf.backend id sk hpp).1
  have hrecv := hbounded.recvbuf id sk (World.get_backend hpp)
  have hclients (j : Nat) (cl : Sk) (hcl : w.clients j = some cl) : cl.proto.encode_frame ≠ some .pp2_encode_frame :=
    (h.wf.client j cl hcl).1.encode_ne
  have hdecode : Live (decode_frame w id) := by
    unfold decode_frame World.mux
    rw [World.deref_of_get (World.get_backend hpp), Except.ok_bind, hkind.proto]
    simp only [hpp, Except.ok_bind]
    refine .bind ?_ fun _ _ => .ok _
    rintro fault hfault rfl
    obtain ⟨-, hnull⟩ | ⟨-, bucket, j, hj, hnone⟩ := pp2_decode_frame_guarded hrecv hclients hfault (.inl rfl)
    · cases hnull
    · exact hchains bucket j hj hnone
  unfold pp2_recv_step
  refine .bind hdecode ?_
  rintro ⟨rv, w1⟩ hframe
  obtain ⟨m', hdecoded, rfl⟩ := World.decode_frame_pp2 hpp hkind hframe
  have hdemuxed := pp2_decode_frame_inv
    (m := { clients := w.clients, sk_hash := w.sk_hash, pp2sk := sk, wsd_errno := w.wsd_errno }) hrecv hclients hdecoded
  refine .ite (fun _ => .ok _) fun _ => ?_
  have hget : (w.setMux m').get id = some m'.pp2sk := World.get_backend (by simp [World.setMux, hpp])
  rw [World.deref_of_get hget, Except.ok_bind, World.setMux_set hpp]
  have hcore := (pp2_recv_leave_core frames m'.pp2sk).trans hdemuxed.core
  have hsound : (w.setMux { m' with pp2sk := pp2_recv_leave frames m'.pp2sk }).Sound := by
    refine (World.kept_setMux hpp _ rfl hdemuxed).sound h (h.wf.setMux hpp ?_ (hkind.of_core hcore))
    intro j cl' hcl'
    obtain ⟨cl, hcl, hsame⟩ := hdemuxed.clients_core hcl'
    exact ⟨(h.wf.client j cl hcl).1.of_core hsame, cl, hcl⟩
  have hget' : (w.setMux { m' with pp2sk := pp2_recv_leave frames m'.pp2sk }).get id =
      some (pp2_recv_leave frames m'.pp2sk) := World.get_backend (by simp [World.setMux, hpp])
  exact .bind (try_recv_result_live hsound hget') fun _ _ => .ok _

end Receive

/-- The events which are still to be handled are of different sockets, and those are open. -/
def State.EventsOpen (s : State) : Prop :=
  ∀ todo, s.pc = .on_event todo → (todo.map Prod.fst).Nodup ∧ ∀ event ∈ todo, ∀ id ∈ event.1, (s.world.get id).isSome

section Runs

variable {cfg : Config} {ssl : Openssl} {env : Env} {s s' : State}

/-- Handling an event closes its own socket at most. -/
theorem Stepped.open_of_event {event : Option Nat × EpollEvents} {todo : List (Option Nat × EpollEvents)} {id : Nat}
    (hwf : s.Wf) (hpc : s.pc = .on_event (event :: todo)) (hne : event.1 ≠ some id) (hopen : (s.world.get id).isSome)
    (h : Stepped cfg ssl env s s') : (s'.world.get id).isSome := by
  have hsocket := h.socket hwf id
  obtain ⟨sk, hget⟩ := Option.isSome_iff_exists.mp hopen
  cases hnone : s'.world.get id with
  | some sk => rfl
  | none =>
    exfalso
    rw [hnone, hget] at hsocket
    cases hsocket with
    | gone sk hgone =>
      cases hgone with
      | event events todo hpc' =>
        rw [hpc] at hpc'
        cases hpc'
        exact hne rfl
      | http todo hpc' | notOpened todo hpc' | idle todo hpc' | timedOut todo hpc' | shutdown todo hpc' =>
        rw [hpc] at hpc'
        cases hpc'
      | ws frames todo p pp2sk rv c' hpc' | pp2 frames todo hpc' =>
        rw [hpc] at hpc'
        cases hpc'

theorem Stepped.eventsOpen (hwf : s.Wf) (hvalid : env.Valid cfg s) (hs : s.EventsOpen) (h : Stepped cfg ssl env s s') :
    s'.EventsOpen := by
  intro todo hpc'
  have hrest {event : Option Nat × EpollEvents} (hpc : s.pc = .on_event (event :: todo)) :
      (todo.map Prod.fst).Nodup ∧ ∀ event ∈ todo, ∀ id ∈ event.1, (s'.world.get id).isSome := by
    obtain ⟨hnodup, hopen⟩ := hs _ hpc
    rw [List.map_cons, List.nodup_cons] at hnodup
    refine ⟨hnodup.2, fun later hlater id hid => ?_⟩
    refine h.open_of_event hwf hpc ?_ (hopen later (List.mem_cons_of_mem _ hlater) id hid)
    intro hsame
    apply hnodup.1
    rw [hsame, ← Option.mem_def.mp hid]
    exact List.mem_map_of_mem hlater
  cases h with
  | waited events hpc hevents =>
    cases hpc'
    obtain ⟨-, hnodup, hof⟩ := hvalid.2.2.2.1 hpc todo hevents
    refine ⟨hnodup, fun event hevent id hid => ?_⟩
    obtain ⟨sk, hget, -⟩ := hof event hevent id hid
    rw [Option.mem_def.mp hget]
    rfl
  | accepted a events rest hpc haccepted =>
    cases hpc'
    exact hrest hpc
  | on_event id events rest sk world hpc hget hevent =>
    cases hpc'
    exact hrest hpc
  | try_recv id rest sk world pc hpc hget hrecv =>
    cases hpc'
    cases hrecv
  | ws_recv id frames rest sk p pp2sk world pc hpc hclient hup hpp hrecv =>
    cases hpc'
    cases hrecv
  | pp2_recv id frames rest sk world pc hpc hpp hrecv =>
    cases hpc'
    cases hrecv
  | exit hpc =>
    rw [hpc] at hpc'
    cases hpc'
  | _ => cases hpc'

theorem reach_eventsOpen {P : State → Env → Prop} (h : (daemon cfg ssl).Reach P s) : s.EventsOpen :=
  reach_invariant (I := State.EventsOpen) h (by intro todo hpc; cases hpc)
    fun _ _ _ hwf hs hvalid _ hstepped => hstepped.eventsOpen hwf hvalid hs

theorem State.InOrder.sound (hs : s.InOrder) (hwf : s.Wf) : s.world.Sound :=
  ⟨hwf.world, hs.registry.work_open⟩

/-- With its containers in order the daemon only calls open sockets. -/
theorem step_live (hwf : s.Wf) (hs : s.InOrder) (hevents : s.EventsOpen) : Live (step cfg ssl env s) := by
  have hsound := hs.sound hwf
  have hwork {id : Nat} {todo : List Nat} (hqueue : s.pc.queue = id :: todo) : ∃ sk, s.world.get id = some sk := by
    obtain ⟨front, hlist⟩ := hs.work
    apply Option.isSome_iff_exists.mp
    apply hs.registry.work_open
    rw [hlist, hqueue]
    exact List.mem_append_right _ List.mem_cons_self
  have hlisted {id : Nat} {todo : List Nat} (hqueue : s.pc.sk_queue = id :: todo) :
      ∃ sk, s.world.get id = some sk := by
    obtain ⟨front, hlist⟩ := hs.sk
    apply Option.isSome_iff_exists.mp
    apply (hs.registry.list_iff id).mp
    rw [hlist, hqueue]
    exact List.mem_append_right _ List.mem_cons_self
  unfold step
  cases hpc : s.pc with
  | iteration => exact .ite (fun _ => .ok _) (fun _ => .ok _)
  | try_recv todo =>
    cases todo with
    | nil => exact .ok _
    | cons id todo =>
      obtain ⟨sk, hget⟩ := hwork (by rw [hpc]; rfl)
      exact .bind (recv_step_live hsound hget) fun _ _ => .ok _
  | ws_recv id frames todo =>
    obtain ⟨sk, hclient, hup⟩ := hwf.ws_recv id frames todo hpc
    exact .bind (ws_recv_step_live hsound hwf.bounded hclient hup) fun _ _ => .ok _
  | pp2_recv id frames todo =>
    obtain ⟨sk, hpp⟩ := hwf.pp2_recv id frames todo hpc
    refine .bind (pp2_recv_step_live hsound hwf.bounded hpp fun bucket j hj => ?_) fun _ _ => .ok _
    obtain ⟨sk', hclient, -⟩ := (hs.registry.linked.mem_iff bucket j).mp hj
    rw [hclient]
    exact Option.some_ne_none sk'
  | check_timeouts todo =>
    cases todo with
    | nil => exact .ok _
    | cons id todo =>
      obtain ⟨sk, hget⟩ := hlisted (by rw [hpc]; rfl)
      exact .bind (check_timeouts_live hsound hget) fun _ _ => .ok _
  | epoll_wait =>
    cases env.events with
    | none => exact .ok _
    | some events => exact .ok _
  | on_event todo =>
    cases todo with
    | nil => exact .ok _
    | cons event todo =>
      obtain ⟨source, events⟩ := event
      cases source with
      | none => exact .bind accept_step_live fun _ _ => .ok _
      | some id =>
        obtain ⟨sk, hget⟩ := Option.isSome_iff_exists.mp ((hevents _ hpc).2 _ List.mem_cons_self id rfl)
        exact .bind (on_epoll_event_live hsound hget) fun _ _ => .ok _
  | shutdown todo =>
    cases todo with
    | nil => exact .ok _
    | cons id todo =>
      obtain ⟨sk, hget⟩ := hlisted (by rw [hpc]; rfl)
      exact .bind (close_live hsound hget) fun _ _ => .ok _

end Runs

end wsd

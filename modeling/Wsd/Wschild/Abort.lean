import Wsd.Wschild.Fault
import Wsd.Wschild.Registry

namespace wsd

/-- The assertions about the closing handshake and about unread bytes which stand on the
    way of a frame. -/
def frameAssertions : List Assertion :=
  [.ws_start_closing_handshake_closing, .ws_ping_closing, .ws_pong_closing, .http_recv_rdsz, .ws_recv_rdsz,
    .pp2_recv_rdsz]

/-- The sockets which `try_recv` has not finished with. -/
def Pc.queue : Pc → List Nat
  | .try_recv todo => todo
  | .ws_recv id _ todo => id :: todo
  | .pp2_recv id _ todo => id :: todo
  | _ => []

/-- The socket whose receive loop is running. -/
def Pc.current : Pc → Option Nat
  | .ws_recv id _ _ => some id
  | .pp2_recv id _ _ => some id
  | _ => none

/-- The daemon is about to fail an assertion, or to leave a socket without unread bytes to
    `try_recv`. -/
inductive State.Aborts (s : State) : Prop
  /-- A frame which has to be answered arrives while the closing handshake is going on. -/
  | forbidden (id frames : Nat) (todo : List Nat) (sk : Sk) (fault : Fault) (hpc : s.pc = .ws_recv id frames todo)
      (hclient : s.world.clients id = some sk) (hforbidden : Forbidden sk fault) : s.Aborts
  /-- There is no room for a data frame without a payload, and no byte behind it. -/
  | emptied (id frames : Nat) (todo : List Nat) (sk : Sk) (p : Nat) (pp2sk : Sk) (f : Frame) (key : UInt32)
      (hpc : s.pc = .ws_recv id frames todo) (hclient : s.world.clients id = some sk)
      (hpp : s.world.pp2sk = some (p, pp2sk)) (hread : sk.recvbuf.readable = f.masked key) (hdata : IsData f.opcode)
      (hempty : f.payload = []) (hfull : skb_wrsz pp2sk.sendbuf < PP2_HEADER_LEN) : s.Aborts
  /-- There is no room for input, though all of the input has been read. -/
  | exhausted (id : Nat) (events : EpollEvents) (todo : List (Option Nat × EpollEvents)) (sk : Sk)
      (hpc : s.pc = .on_event ((some id, events) :: todo)) (hget : s.world.get id = some sk)
      (hevents : events.EPOLLIN = true ∨ events.EPOLLPRI = true) (hroom : skb_wrsz sk.recvbuf = 0)
      (hrdsz : skb_rdsz sk.recvbuf = 0) : s.Aborts

/-- `try_recv` comes to the socket, in this iteration or in the next one. -/
def State.Listed (s : State) (id : Nat) : Prop :=
  id ∈ s.world.work_list ∨ id ∈ s.pc.queue

/-- The socket has unread bytes if it is open. -/
def World.HasInput (w : World) (id : Nat) : Prop :=
  ∀ sk, w.get id = some sk → skb_rdsz sk.recvbuf ≠ 0

/-- Every socket which `try_recv` is going to come to has unread bytes. -/
structure State.Fed (s : State) : Prop where
  work_nodup : s.world.work_list.Nodup
  queue_nodup : s.pc.queue.Nodup
  fresh : ∀ id, s.Listed id → id < s.world.next
  input : ∀ id, s.Listed id → s.pc.current ≠ some id → s.world.HasInput id

section Sockets

variable {cfg : Config} {env : Env} {s : State} {id : Nat} {sk sk' : Sk} {pc : Pc}

theorem Skb.Ok.rdsz_put_ne {skb : Skb} {bytes : List UInt8} (hok : skb.Ok) (hlen : bytes.length ≤ skb_wrsz skb)
    (hne : bytes ≠ []) : skb_rdsz (skb_put skb bytes) ≠ 0 := by
  intro hzero
  have hnil := (hok.put hlen).readable_eq_nil_iff.mpr hzero
  rw [hok.readable_put hlen] at hnil
  exact hne (List.append_eq_nil_iff.mp hnil).2

/-- A client which waits for room at the backend has unread bytes unless its last frame is
    an empty one. -/
theorem Decoded.input_of_again {c c' : Conn} {rv : Int} (h : Decoded c rv c')
    (hagain : 0 < rv ∨ rv < 0 ∧ c'.wsd_errno = .WSD_EAGAIN)
    (hne : ∀ (f : Frame) (key : UInt32), c.sk.recvbuf.readable = f.masked key → IsData f.opcode → f.payload = [] →
      ¬ skb_wrsz c.pp2sk.sendbuf < PP2_HEADER_LEN) : skb_rdsz c'.sk.recvbuf ≠ 0 := by
  cases h with
  | full f key rest recvbuf hread hdata hfull hok hrest hwr =>
    intro hzero
    have hnil := hok.readable_eq_nil_iff.mpr hzero
    rw [hrest] at hnil
    obtain ⟨hpayload, rfl⟩ := List.append_eq_nil_iff.mp hnil
    rw [List.append_nil] at hread
    rw [hpayload, List.length_nil, Nat.zero_add] at hfull
    exact hne f key hread hdata hpayload hfull
  | _ => simp at hagain

/-- The backend's socket has unread bytes while it waits for room at a client. -/
theorem Demuxed.input_of_again {m m' : Mux} {rv : Int} (h : Demuxed m rv m')
    (hagain : 0 < rv ∨ rv < 0 ∧ m'.wsd_errno = .WSD_EAGAIN) : skb_rdsz m'.pp2sk.recvbuf ≠ 0 := by
  cases h with
  | waits wsd_errno hwaits =>
    obtain hpos | ⟨-, he⟩ := hagain
    · exact absurd hpos (by decide)
    · exact hwaits he
  | full hash len rest id cln_sk recvbuf haccepted hlen hne hlookup hencode hfull hok hread =>
    intro hzero
    have hnil := hok.readable_eq_nil_iff.mpr hzero
    rw [hread] at hnil
    exact hne hnil
  | _ => simp at hagain

/-- Outside its own turn a socket loses no unread bytes. -/
theorem SocketStep.input (hwf : s.Wf) (hvalid : env.Valid cfg s) (hget : s.world.get id = some sk)
    (h : SocketStep cfg env s pc id (some sk) (some sk')) (hturn : s.pc.queue.head? ≠ some id)
    (hinput : skb_rdsz sk.recvbuf ≠ 0) : skb_rdsz sk'.recvbuf ≠ 0 := by
  have hnot {todo : List Nat} (hqueue : s.pc.queue = id :: todo) : False := hturn (by rw [hqueue]; rfl)
  cases h with
  | same => exact hinput
  | handshakeFailed todo sk sk' rv wsd_errno hpc => exact (hnot (by rw [hpc]; rfl)).elim
  | handshakeDone todo sk sk' rv hpc => exact (hnot (by rw [hpc]; rfl)).elim
  | decoded frames todo sk p pp2sk rv c' hpc => exact (hnot (by rw [hpc]; rfl)).elim
  | forwarded id' frames todo sk pp2sk rv c' hpc hclient hpp hdecoded =>
    obtain ⟨events, hleave⟩ := ws_recv_leave_pp2sk rv frames c'
    rw [hleave]
    change skb_rdsz c'.pp2sk.recvbuf ≠ 0
    rw [hdecoded.backend_recvbuf]
    exact hinput
  | demuxed frames todo pp2sk rv m' hpc => exact (hnot (by rw [hpc]; rfl)).elim
  | delivered p frames todo pp2sk sk sk' rv m' hpc hpp hne hdemuxed hclient hclient' =>
    obtain ⟨sendbuf, events, rfl⟩ := hdemuxed.client_eq hclient hclient'
    exact hinput
  | started => exact hinput
  | pinged => exact hinput
  | read events todo sk bytes hpc hflag hclose hread hne hroom =>
    have hlen := (hvalid.2.2.2.2 id (by rw [hpc]; rfl) sk hget).1
    rw [hread] at hlen
    exact (hwf.bounded.recvbuf id sk hget).rdsz_put_ne hlen hne
  | readFull => exact hinput
  | readFailed => exact hinput
  | written events todo sk sk' hpc hwritten =>
    rw [hwritten.recvbuf_eq]
    exact hinput

theorem World.Wf.lt_next {w : World} (hwf : w.Wf) (hget : w.get id = some sk) : id < w.next := by
  obtain ⟨hpp, -⟩ | ⟨hclient, -⟩ := hwf.get_cases hget
  · exact (hwf.backend id sk hpp).2.1
  · exact (hwf.client id sk hclient).2

/-- Only the next address is given to a socket. -/
theorem SocketStep.eq_next (h : SocketStep cfg env s pc id none (some sk)) : id = s.world.next := by
  cases h with
  | accepted a events todo hpc hid => exact hid
  | opened fd id' todo hpc hid => exact hid

end Sockets

section Turns

variable {cfg : Config} {ssl : Openssl} {env : Env} {w w' : World} {id : Nat} {sk : Sk} {todo : List Nat} {pc : Pc}

/-- What a step of a socket's turn does to the work list: the turn goes on, or it is over
    and the socket stays linked only if it has unread bytes. -/
structure Turned (w w' : World) (id : Nat) (todo : List Nat) (pc : Pc) : Prop where
  work_list : w'.work_list.Sublist w.work_list
  next : w.next ≤ w'.next
  turn : pc.queue = id :: todo ∧ pc.current = some id ∨
    pc = .try_recv todo ∧ (id ∈ w'.work_list → w'.HasInput id)

theorem Closed.next_eq (h : Closed w id sk w') : w'.next = w.next := by
  cases h <;> rfl

theorem World.lists_set (w : World) (id : Nat) (sk' : Sk) (wsd_errno : Errno) (num : Nat) :
    World.next { w.set id sk' with wsd_errno, num } = w.next ∧
      (World.work_list { w.set id sk' with wsd_errno, num }).Sublist w.work_list := by
  refine ⟨World.next_set .., ?_⟩
  change (w.set id sk').work_list.Sublist w.work_list
  rw [World.work_list_set]

/-- A socket which changes before it is closed. -/
theorem Closed.lists_set {sk' : Sk} {wsd_errno : Errno} {num : Nat}
    (h : Closed { w.set id sk' with wsd_errno, num } id sk w') :
    w'.next = w.next ∧ w'.work_list.Sublist w.work_list := by
  obtain ⟨hnext, hwork⟩ := World.lists_set w id sk' wsd_errno num
  exact ⟨h.next_eq.trans hnext, h.work_list_sublist.trans hwork⟩

theorem TryRecv.next_eq {rv : Int} (h : TryRecv w id rv w') : w'.next = w.next := by
  cases h with
  | closed sk w' hrv hinput hagain hget hclose hclosed => exact hclosed.next_eq
  | _ => rfl

/-- A turn ends with a socket which is not linked, or which waits for room. -/
theorem TryRecv.turned {w1 : World} {rv : Int} (h : TryRecv w1 id rv w') (hwork : w1.work_list = w.work_list)
    (hnext : w1.next = w.next) (hnodup : w.work_list.Nodup)
    (hagain : 0 < rv ∨ rv < 0 ∧ w1.wsd_errno = .WSD_EAGAIN → w1.HasInput id) :
    Turned w w' id todo (.try_recv todo) := by
  rw [← hwork] at hnodup
  obtain ⟨hsub, hid⟩ := h.work_list hnodup
  rw [hwork] at hsub
  refine ⟨hsub, Nat.le_of_eq (hnext ▸ h.next_eq.symm), Or.inr ⟨rfl, fun hmem => ?_⟩⟩
  obtain hnot | ⟨rfl, hrv⟩ := hid
  · exact absurd hmem hnot
  · exact hagain hrv

theorem RecvStep.turned (h : RecvStep cfg ssl env w id sk todo w' pc) (hget : w.get id = some sk)
    (hnodup : w.work_list.Nodup) : Turned w w' id todo pc := by
  cases h with
  | http sk' statics wsd_errno rv w' hrecv hhttp htry =>
    refine htry.turned (World.work_list_set ..) (World.next_set ..) hnodup fun hagain => ?_
    obtain ⟨hrv, he, -⟩ | hfailed | hdone := http_recv_cases hhttp
    · simp [hrv, he] at hagain
    · simp [hfailed.rv_eq, hfailed.errno_eq] at hagain
    · simp [hdone.rv_eq] at hagain
  | ws => exact ⟨List.Sublist.refl _, Nat.le_refl _, Or.inl ⟨rfl, rfl⟩⟩
  | opened => exact ⟨List.Sublist.refl _, Nat.le_succ _, Or.inl ⟨rfl, rfl⟩⟩
  | notOpened wsd_errno num w' hrecv hrdsz hpp htry =>
    refine htry.turned rfl rfl hnodup fun _ sk' hget' => ?_
    have hsame : sk' = sk := Option.some.inj (hget'.symm.trans hget)
    rwa [hsame]
  | pp2 => exact ⟨List.Sublist.refl _, Nat.le_refl _, Or.inl ⟨rfl, rfl⟩⟩

theorem WsRecvStep.turned {frames p : Nat} {pp2sk : Sk} {wsd_errno : Errno}
    (h : WsRecvStep w id frames todo { sk, pp2sk, wsd_errno } w' pc) (hpp : w.pp2sk = some (p, pp2sk)) (hne : id ≠ p)
    (hnodup : w.work_list.Nodup)
    (hroom : ∀ (f : Frame) (key : UInt32), sk.recvbuf.readable = f.masked key → IsData f.opcode → f.payload = [] →
      ¬ skb_wrsz pp2sk.sendbuf < PP2_HEADER_LEN) : Turned w w' id todo pc := by
  cases h with
  | frame => exact ⟨List.Sublist.refl _, Nat.le_refl _, Or.inl ⟨rfl, rfl⟩⟩
  | done rv c' w' hrv hdecoded htry =>
    refine htry.turned rfl rfl hnodup fun hagain sk' hget' => ?_
    obtain ⟨events, pp2events, hleave⟩ := ws_recv_leave_eq frames c'
    rw [World.get_setConn hpp, Function.update_of_ne hne, Function.update_self, hleave] at hget'
    cases hget'
    rw [hleave] at hagain
    exact hdecoded.input_of_again hagain hroom

theorem Pp2RecvStep.turned {frames : Nat} {m : Mux} (h : Pp2RecvStep w id frames todo m w' pc)
    (hpp : w.pp2sk = some (id, sk)) (hnodup : w.work_list.Nodup) : Turned w w' id todo pc := by
  cases h with
  | frame => exact ⟨List.Sublist.refl _, Nat.le_refl _, Or.inl ⟨rfl, rfl⟩⟩
  | done rv m' w' hrv hdemuxed htry =>
    refine htry.turned rfl rfl hnodup fun hagain sk' hget' => ?_
    obtain ⟨events, hleave⟩ := pp2_recv_leave_eq frames m'.pp2sk
    rw [@World.get_backend _ id (pp2_recv_leave frames m'.pp2sk) (by simp [World.setMux, hpp]), hleave] at hget'
    cases hget'
    exact hdemuxed.input_of_again hagain

end Turns

section Steps

variable {cfg : Config} {ssl : Openssl} {env : Env} {s s' : State} {id : Nat} {todo : List Nat}

/-- A listed socket keeps its unread bytes in a step which is not of its turn. -/
theorem State.Fed.of_listed (hfed : s.Fed) (hwf : s.Wf) (hvalid : env.Valid cfg s) (h : Stepped cfg ssl env s s')
    (hnext : s.world.next ≤ s'.world.next) (hwork : s'.world.work_list.Nodup) (hqueue : s'.pc.queue.Nodup)
    (hlisted : ∀ j, s'.Listed j → s.Listed j ∨ j < s'.world.next)
    (hinput : ∀ j, s'.Listed j → s'.pc.current ≠ some j →
      s.Listed j ∧ s.pc.current ≠ some j ∧ s.pc.queue.head? ≠ some j ∨ s'.world.HasInput j) : s'.Fed where
  work_nodup := hwork
  queue_nodup := hqueue
  fresh j hj := by
    obtain hold | hnew := hlisted j hj
    · exact Nat.lt_of_lt_of_le (hfed.fresh j hold) hnext
    · exact hnew
  input j hj hcurrent := by
    obtain ⟨hold, hcurrent, hturn⟩ | hnew := hinput j hj hcurrent
    · intro sk' hget'
      have hsocket := h.socket hwf j
      rw [hget'] at hsocket
      cases hget : s.world.get j with
      | none =>
        rw [hget] at hsocket
        have hlt := hfed.fresh j hold
        rw [hsocket.eq_next] at hlt
        exact absurd hlt (Nat.lt_irrefl _)
      | some sk =>
        rw [hget] at hsocket
        exact hsocket.input hwf hvalid hget hturn (hfed.input j hold hcurrent sk hget)
    · exact hnew

/-- A step of a turn. -/
theorem State.Fed.turned (hfed : s.Fed) (hwf : s.Wf) (hvalid : env.Valid cfg s) (h : Stepped cfg ssl env s s')
    (hqueue : s.pc.queue = id :: todo) (hturned : Turned s.world s'.world id todo s'.pc) : s'.Fed := by
  have hnodup := hfed.queue_nodup
  rw [hqueue] at hnodup
  obtain ⟨hid, htodo⟩ := List.nodup_cons.mp hnodup
  have hsub : s'.pc.queue.Sublist s.pc.queue := by
    obtain ⟨hqueue', -⟩ | ⟨hpc, -⟩ := hturned.turn
    · rw [hqueue', hqueue]
    · rw [hpc, hqueue]
      exact List.sublist_cons_self id todo
  have hlisted (j : Nat) (hj : s'.Listed j) : s.Listed j :=
    hj.imp (fun hj => hturned.work_list.subset hj) fun hj => hsub.subset hj
  refine hfed.of_listed hwf hvalid h hturned.next (hturned.work_list.nodup hfed.work_nodup)
    (hsub.nodup hfed.queue_nodup) (fun j hj => Or.inl (hlisted j hj)) fun j hj hcurrent => ?_
  by_cases hj' : j = id
  · subst hj'
    obtain ⟨-, hcurrent'⟩ | ⟨hpc, hinput⟩ := hturned.turn
    · exact absurd hcurrent' hcurrent
    · refine Or.inr (hinput (hj.resolve_right ?_))
      rw [hpc]
      exact hid
  · have hhead : s.pc.queue.head? ≠ some j := by
      rw [hqueue]
      exact fun heq => hj' (Option.some.inj heq).symm
    refine Or.inl ⟨hlisted j hj, fun hsame => ?_, hhead⟩
    -- the socket whose loop is running is the first one of the queue
    cases hpc : s.pc with
    | ws_recv | pp2_recv =>
      rw [hpc] at hsame hhead
      exact hhead hsame
    | _ =>
      rw [hpc] at hsame
      cases hsame

/-- A step outside of `try_recv` which links no socket. -/
theorem State.Fed.quiet (hfed : s.Fed) (hwf : s.Wf) (hvalid : env.Valid cfg s) (h : Stepped cfg ssl env s s')
    (hqueue : s.pc.queue = []) (hcurrent : s.pc.current = none) (hnext : s.world.next ≤ s'.world.next)
    (hwork : s'.world.work_list.Sublist s.world.work_list)
    (hqueue' : s'.pc.queue = [] ∨ s'.pc.queue = s.world.work_list) : s'.Fed := by
  have hlisted (j : Nat) (hj : s'.Listed j) : s.Listed j := by
    obtain hj | hj := hj
    · exact Or.inl (hwork.subset hj)
    · obtain hnil | hall := hqueue'
      · rw [hnil] at hj
        cases hj
      · rw [hall] at hj
        exact Or.inl hj
  refine hfed.of_listed hwf hvalid h hnext (hwork.nodup hfed.work_nodup) ?_ (fun j hj => Or.inl (hlisted j hj))
    fun j hj _ => Or.inl ⟨hlisted j hj, ?_, ?_⟩
  · obtain hnil | hall := hqueue'
    · rw [hnil]
      exact List.nodup_nil
    · rw [hall]
      exact hfed.work_nodup
  · rw [hcurrent]
    exact (Option.some_ne_none _).symm
  · rw [hqueue]
    exact (Option.some_ne_none _).symm

/-- A socket which an event links has unread bytes. -/
theorem State.Fed.posted {w w' : World} {sk sk' : Sk} {event : Option Nat × EpollEvents}
    {events : List (Option Nat × EpollEvents)} (hfed : s.Fed) (hwf : s.Wf) (hvalid : env.Valid cfg s)
    (h : Stepped cfg ssl env s { s with world := w', pc := .on_event events }) (hpc : s.pc = .on_event (event :: events))
    (hget : s.world.get id = some sk) (hposted : Posted w id sk' w') (hwork : w.work_list = s.world.work_list)
    (hnext : w.next = s.world.next) (hget' : w.get id = some sk') (hinput : skb_rdsz sk'.recvbuf ≠ 0) :
    State.Fed { s with world := w', pc := .on_event events } := by
  have hcases := hposted.work_list hget'
  have hsame : w'.get = w.get ∧ w'.next = w.next := by
    obtain ⟨linked, -, rfl⟩ := hposted
    exact ⟨rfl, rfl⟩
  have hlt : id < w'.next := by
    rw [hsame.2, hnext]
    exact hwf.world.lt_next hget
  have hmem (j : Nat) (hj : State.Listed { s with world := w', pc := .on_event events } j) :
      j = id ∨ s.Listed j := by
    obtain hj | hj := hj
    · obtain hkept | ⟨-, hlinked⟩ := hcases
      · rw [hkept, hwork] at hj
        exact Or.inr (Or.inl hj)
      · rw [hlinked, hwork, List.mem_append, List.mem_singleton] at hj
        exact hj.elim (fun hj => Or.inr (Or.inl hj)) Or.inl
    · cases hj
  refine hfed.of_listed hwf hvalid h (Nat.le_of_eq (hsame.2.trans hnext).symm) ?_ List.nodup_nil (fun j hj => ?_)
    fun j hj _ => ?_
  · obtain hkept | ⟨hnot, hlinked⟩ := hcases
    · rw [hkept, hwork]
      exact hfed.work_nodup
    · rw [hlinked]
      exact World.nodup_snoc (by rw [hwork]; exact hfed.work_nodup) hnot
  · obtain rfl | hold := hmem j hj
    · exact Or.inr hlt
    · exact Or.inl hold
  · by_cases hj' : j = id
    · subst hj'
      refine Or.inr fun sk1 hget1 => ?_
      rw [hsame.1, hget'] at hget1
      cases hget1
      exact hinput
    · refine Or.inl ⟨(hmem j hj).resolve_left hj', ?_, ?_⟩
      · rw [hpc]
        exact (Option.some_ne_none _).symm
      · rw [hpc]
        exact (Option.some_ne_none _).symm

end Steps

section Run

variable {cfg : Config} {ssl : Openssl} {env : Env} {s s' : State}

theorem Stepped.fed (hwf : s.Wf) (hvalid : env.Valid cfg s) (hfed : s.Fed) (hready : ¬ s.Aborts)
    (h : Stepped cfg ssl env s s') : s'.Fed := by
  have hstepped := h
  cases h with
  | try_recv id todo sk world pc hpc hget hrecv =>
    exact hfed.turned hwf hvalid hstepped (by rw [hpc]; rfl) (hrecv.turned hget hfed.work_nodup)
  | ws_recv id frames todo sk p pp2sk world pc hpc hclient hup hpp hrecv =>
    have hne : id ≠ p := by
      rintro rfl
      have hnone := (hwf.world.backend id pp2sk hpp).2.2
      rw [hclient] at hnone
      cases hnone
    refine hfed.turned hwf hvalid hstepped (by rw [hpc]; rfl) (hrecv.turned hpp hne hfed.work_nodup ?_)
    exact fun f key hread hdata hempty hfull =>
      hready (.emptied id frames todo sk p pp2sk f key hpc hclient hpp hread hdata hempty hfull)
  | pp2_recv id frames todo sk world pc hpc hpp hrecv =>
    exact hfed.turned hwf hvalid hstepped (by rw [hpc]; rfl) (hrecv.turned hpp hfed.work_nodup)
  | done hpc =>
    exact hfed.quiet hwf hvalid hstepped (by rw [hpc]; rfl) (by rw [hpc]; rfl) (Nat.le_refl _) (List.Sublist.refl _)
      (Or.inl rfl)
  | iteration hpc =>
    exact hfed.quiet hwf hvalid hstepped (by rw [hpc]; rfl) (by rw [hpc]; rfl) (Nat.le_refl _) (List.Sublist.refl _)
      (Or.inr rfl)
  | received hpc =>
    exact hfed.quiet hwf hvalid hstepped (by rw [hpc]; rfl) (by rw [hpc]; rfl) (Nat.le_refl _) (List.Sublist.refl _)
      (Or.inl rfl)
  | checked hpc =>
    exact hfed.quiet hwf hvalid hstepped (by rw [hpc]; rfl) (by rw [hpc]; rfl) (Nat.le_refl _) (List.Sublist.refl _)
      (Or.inl rfl)
  | interrupted hpc =>
    exact hfed.quiet hwf hvalid hstepped (by rw [hpc]; rfl) (by rw [hpc]; rfl) (Nat.le_refl _) (List.Sublist.refl _)
      (Or.inl rfl)
  | waited events hpc =>
    exact hfed.quiet hwf hvalid hstepped (by rw [hpc]; rfl) (by rw [hpc]; rfl) (Nat.le_refl _) (List.Sublist.refl _)
      (Or.inl rfl)
  | handled hpc =>
    exact hfed.quiet hwf hvalid hstepped (by rw [hpc]; rfl) (by rw [hpc]; rfl) (Nat.le_refl _) (List.Sublist.refl _)
      (Or.inl rfl)
  | accepted a events todo hpc =>
    exact hfed.quiet hwf hvalid hstepped (by rw [hpc]; rfl) (by rw [hpc]; rfl) (Nat.le_succ _) (List.Sublist.refl _)
      (Or.inl rfl)
  | exit hpc => exact hfed
  | check_timeouts id todo sk world hpc hget hcheck =>
    have hlists : world.next = s.world.next ∧ world.work_list.Sublist s.world.work_list := by
      cases hcheck with
      | unchanged => exact World.lists_set ..
      | started => exact World.lists_set ..
      | pinged => exact World.lists_set ..
      | idle wsd_errno w' hquiet hidle hclosed => exact hclosed.lists_set
      | timedOut wsd_errno w' hclosing htimedOut hclosed => exact hclosed.lists_set
    exact hfed.quiet hwf hvalid hstepped (by rw [hpc]; rfl) (by rw [hpc]; rfl) (Nat.le_of_eq hlists.1.symm) hlists.2
      (Or.inl rfl)
  | shutdown id todo sk world hpc hget hclosed =>
    exact hfed.quiet hwf hvalid hstepped (by rw [hpc]; rfl) (by rw [hpc]; rfl) (Nat.le_of_eq hclosed.next_eq.symm)
      hclosed.work_list_sublist (Or.inl rfl)
  | on_event id events todo sk world hpc hget hevent =>
    have hkept (hnext : world.next = s.world.next) (hwork : world.work_list.Sublist s.world.work_list) :
        State.Fed { s with world, pc := .on_event todo } :=
      hfed.quiet hwf hvalid hstepped (by rw [hpc]; rfl) (by rw [hpc]; rfl) (Nat.le_of_eq hnext.symm) hwork (Or.inl rfl)
    cases hevent with
    | read w' hevents hflag hclose hread =>
      cases hread with
      | bytes bytes wsd_errno w' hbytes hne hroom hposted =>
        have hlen := (hvalid.2.2.2.2 id (by rw [hpc]; rfl) sk hget).1
        rw [hbytes] at hlen
        exact hfed.posted hwf hvalid hstepped hpc hget hposted (World.work_list_set ..) (World.next_set ..)
          (World.get_set_self s.world id _) ((hwf.bounded.recvbuf id sk hget).rdsz_put_ne hlen hne)
      | full wsd_errno w' hroom hposted =>
        exact hfed.posted hwf hvalid hstepped hpc hget hposted (World.work_list_set ..) (World.next_set ..)
          (World.get_set_self s.world id _) fun hzero => hready (.exhausted id events todo sk hpc hget hevents hroom hzero)
      | retry => exact hkept (World.lists_set ..).1 (World.lists_set ..).2
      | closed retries wsd_errno num w' hfails hclosed => exact hkept hclosed.lists_set.1 hclosed.lists_set.2
    | write sk' => exact hkept (World.lists_set ..).1 (World.lists_set ..).2
    | writeClosed sk' wsd_errno w' hevents hends hwritten hclosed =>
      exact hkept hclosed.lists_set.1 hclosed.lists_set.2
    | closed w' hevents hclosed => exact hkept hclosed.next_eq hclosed.work_list_sublist
    | unchanged => exact hkept rfl (List.Sublist.refl _)

theorem reach_fed (h : (daemon cfg ssl).Reach (fun s _ => ¬ s.Aborts) s) : s.Fed := by
  refine reach_invariant h ?_ fun s s' env hwf hfed hvalid hready hstepped => hstepped.fed hwf hvalid hfed hready
  refine ⟨List.nodup_nil, List.nodup_nil, ?_, ?_⟩
  · rintro id (hid | hid) <;> cases hid
  · rintro id (hid | hid) <;> cases hid

/-- In a run none of whose states is about to fail, none of the assertions fails. -/
theorem frame_assertions_hold (h : (daemon cfg ssl).Reach (fun s _ => ¬ s.Aborts) s) (hready : ¬ s.Aborts)
    {failed : Assertion} (hfailed : failed ∈ frameAssertions) : step cfg ssl env s ≠ .error (.assertion failed) := by
  intro herror
  have hfed := reach_fed h
  have hturn {id : Nat} {todo : List Nat} {sk : Sk} (hpc : s.pc = .try_recv (id :: todo))
      (hget : s.world.get id = some sk) : skb_rdsz sk.recvbuf ≠ 0 := by
    refine hfed.input id (Or.inr ?_) ?_ sk hget
    · rw [hpc]
      exact List.mem_cons_self
    · rw [hpc]
      exact (Option.some_ne_none _).symm
  have hwatched : Fault.Watched (.assertion failed) := by
    simp only [frameAssertions, List.mem_cons, List.not_mem_nil, or_false] at hfailed
    obtain rfl | rfl | rfl | rfl | rfl | rfl := hfailed <;> decide
  have hfaulted := step_watched (reach_wf h) herror hwatched
  generalize hfault : Fault.assertion failed = fault at hfaulted
  cases hfaulted with
  | http_recv id todo sk hpc hget hrecv hrdsz => exact hturn hpc hget hrdsz
  | ws_recv id todo sk hpc hget hrecv hrdsz => exact hturn hpc hget hrdsz
  | pp2_recv id todo sk hpc hget hrecv hrdsz => exact hturn hpc hget hrdsz
  | forbidden id frames todo sk fault hpc hclient hforbidden =>
    exact hready (.forbidden id frames todo sk fault hpc hclient hforbidden)
  | close_on_write =>
    cases hfault
    exact absurd hfailed (by decide)
  | close =>
    cases hfault
    exact absurd hfailed (by decide)
  | _ => cases hfault

/-- Nothing is being closed, and there is room in all buffers. -/
def State.Calm (s : State) : Prop :=
  (∀ id ∈ s.pc.receiver, ∀ sk ∈ s.world.clients id, sk.closing = false) ∧
    (∀ pp ∈ s.world.pp2sk, PP2_HEADER_LEN ≤ skb_wrsz pp.2.sendbuf) ∧
    ∀ id ∈ s.pc.source, ∀ sk ∈ s.world.get id, skb_wrsz sk.recvbuf ≠ 0

instance (s : State) : Decidable s.Calm :=
  inferInstanceAs (Decidable (_ ∧ _ ∧ _))

theorem State.Calm.not_aborts (h : s.Calm) : ¬ s.Aborts := by
  rintro (⟨id, frames, todo, sk, fault, hpc, hclient, hforbidden⟩ |
    ⟨id, frames, todo, sk, p, pp2sk, f, key, -, -, hpp, -, -, -, hfull⟩ |
    ⟨id, events, todo, sk, hpc, hget, -, hroom, -⟩)
  · have hclosing := h.1 id (by rw [hpc]; rfl) sk hclient
    cases hforbidden with
    | ping f key rest hread hping hflag => rw [hclosing] at hflag; cases hflag
    | unknown f key rest hread hunknown hflag => rw [hclosing] at hflag; cases hflag
  · exact absurd (h.2.1 (p, pp2sk) hpp) (Nat.not_le.mpr hfull)
  · exact h.2.2 id (by rw [hpc]; rfl) sk hget hroom

/-- A client pings before it is idle, and its frame is about to be decoded. -/
theorem frame_assertions_hold_ping : ∃ s : State, s.pc = .ws_recv 0 0 [] ∧
    ∀ failed ∈ frameAssertions, step Sample.config Sample.openssl {} s ≠ .error (.assertion failed) := by
  obtain ⟨s, hreach, hpc, hcalm⟩ := Transition.System.exists_reach (daemon Sample.config Sample.openssl)
    (P := fun s _ => s.Calm) (B := fun s => s.pc = .ws_recv 0 0 [] ∧ s.Calm)
    (Sample.connected Sample.request ++ Sample.iteration 9 4 (some 0) EPOLLIN { read := .ok [0x89, 0x80, 0, 0, 0, 0] } ++
      [{ clock := { tv_sec := 9, tv_nsec := 0 } }, { opens := [.connected 6] }]) (by decide +kernel)
  exact ⟨s, hpc, fun failed hfailed =>
    frame_assertions_hold (hreach.mono fun _ _ => State.Calm.not_aborts) hcalm.not_aborts hfailed⟩

/-- A client which pings after it has been sent a close frame ends the daemon. -/
theorem ping_while_closing : ¬ ∀ (cfg : Config) (ssl : Openssl) (s : State) (env : Env) (failed : Assertion),
    (daemon cfg ssl).Reach (fun _ _ => True) s → env.Valid cfg s → failed ∈ frameAssertions →
      step cfg ssl env s ≠ .error (.assertion failed) := by
  intro h
  obtain ⟨s, hreach, hvalid, hfailure⟩ := Transition.System.exists_reach (daemon Sample.config Sample.openssl)
    (P := fun _ _ => True)
    (B := fun s => Env.Valid Sample.config s {} ∧
      (daemon Sample.config Sample.openssl).failure {} s = some (.assertion .ws_pong_closing))
    (Sample.connected Sample.request ++ Sample.iteration 9 4 (some 0) EPOLLOUT { write := .ok 182 } ++
      Sample.iteration 20 3 (some 0) EPOLLOUT { write := .ok 4 } ++
      Sample.iteration 20 3 (some 0) EPOLLIN { read := .ok [0x89, 0x80, 0, 0, 0, 0] } ++
      [{ clock := { tv_sec := 20, tv_nsec := 0 } }, { opens := [.connected 6] }]) (by decide +kernel)
  exact h _ _ s {} .ws_pong_closing hreach hvalid (by decide) (Transition.System.failure_eq_some.mp hfailure)

end Run

end wsd

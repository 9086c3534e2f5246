import Wsd.Wscat.Websocket

namespace wsd

open Transition

/-- The bytes which a read delivers. -/
def ReadResult.bytes : ReadResult → List UInt8
  | .error => []
  | .ok bytes => bytes

namespace wscat

section Measure

/-- The bytes for the payloads and headers of frames which take the given number of bytes. -/
def inputNeed (n : Nat) : Nat :=
  n + 6 * ((n + 31) / 32)

/-- Plain input is sent whole exactly if there is room for all its frames. -/
theorem inputLeft_eq_nil_iff {fuel room : Nat} {bytes : List UInt8} (hfuel : bytes.length < fuel) :
    inputLeft false fuel room bytes = [] ↔ inputNeed bytes.length ≤ room := by
  induction fuel generalizing room bytes with
  | zero => exact absurd hfuel (Nat.not_lt_zero _)
  | succ fuel ih =>
    by_cases hempty : bytes = []
    · subst hempty
      simp [inputLeft, nextLen, inputNeed]
    have hpos := List.length_pos_iff.mpr hempty
    have hnext : nextLen false bytes = some (min 32 bytes.length) := by
      rw [nextLen, if_neg hempty]
      rfl
    have hmasked : maskedLen (min 32 bytes.length) = 6 + min 32 bytes.length := by
      have hshort : min 32 bytes.length < 126 := by omega
      rw [maskedLen, LenForm.shortest, if_pos hshort]
      rfl
    simp only [inputLeft, hnext, hmasked]
    by_cases hfull : room < 6 + min 32 bytes.length
    · rw [if_pos hfull]
      refine ⟨fun h => absurd h hempty, fun hneed => ?_⟩
      unfold inputNeed at hneed
      omega
    · rw [if_neg hfull, ih (by rw [List.length_drop]; omega), List.length_drop]
      unfold inputNeed
      omega

end Measure

section Path

/-- The bytes which a step reads from the standard input. -/
def delivered (s : State) (env : Env) : List UInt8 :=
  match s.pc, env.read with
  | .on_event ((.fdin, events) :: _), .ok bytes => if Readable events then bytes else []
  | _, _ => []

/-- The bytes which a step hands to the kernel for the server. -/
def handed (s : State) (env : Env) : List UInt8 :=
  match s.pc, s.c.wssk, env.write with
  | .on_event ((.wssk, events) :: _), some sk, .ok len =>
    if ¬ Readable events ∧ events.EPOLLOUT = true then sk.sendbuf.readable.take len else []
  | _, _, _ => []

/-- The events of the standard input which a step handles. -/
def Pc.stdinEvents : Pc → Option EpollEvents
  | .on_event ((.fdin, events) :: _) => some events
  | _ => none

/-- A step reads the standard input. -/
def ReadsStdin (s : State) : Prop :=
  ∃ events ∈ s.pc.stdinEvents, Readable events

instance (s : State) : Decidable (ReadsStdin s) :=
  inferInstanceAs (Decidable (∃ events ∈ s.pc.stdinEvents, Readable events))

def input (path : List (Move State Env)) : List UInt8 :=
  path.flatMap fun m => delivered m.before m.input

def written (path : List (Move State Env)) : List UInt8 :=
  path.flatMap fun m => handed m.before m.input

/-- What waits in the receive buffer of the standard input. -/
def pending (c : Wscat) : List UInt8 :=
  (c.fdin.map fun sk => sk.recvbuf.readable).getD []

/-- The free space which the websocket's send buffer counts. -/
def room (c : Wscat) : Nat :=
  (c.wssk.map fun sk => skb_wrsz sk.sendbuf).getD 0

/-- No frame of the input is written over the end of the send buffer. -/
def Contained (opt : Options) (s : State) (env : Env) : Prop :=
  ReadsStdin s → InputFits opt.is_json ((pending s.c ++ delivered s env).length + 1) (room s.c)
    (pending s.c ++ delivered s env)

instance (opt : Options) (s : State) (env : Env) : Decidable (Contained opt s env) :=
  inferInstanceAs (Decidable (_ → _))

/-- The send buffer has room for all frames of the input which a step can send. -/
def Roomy (s : State) (env : Env) : Prop :=
  inputNeed (pending s.c ++ delivered s env).length ≤ room s.c

/-- The last step of a run which reads the standard input has room for all of it. -/
def Drained (path : List (Move State Env)) : Prop :=
  ∀ m, (path.filter fun m => ReadsStdin m.before).getLast? = some m → Roomy m.before m.input

variable {path : List (Move State Env)} {m : Move State Env}

theorem input_snoc : input (path ++ [m]) = input path ++ delivered m.before m.input := by
  simp [input]

theorem written_snoc : written (path ++ [m]) = written path ++ handed m.before m.input := by
  simp [written]

theorem drained_snoc_read (h : ReadsStdin m.before) : Drained (path ++ [m]) ↔ Roomy m.before m.input := by
  simp [Drained, List.filter_append, h]

theorem drained_snoc (h : ¬ ReadsStdin m.before) : Drained (path ++ [m]) ↔ Drained path := by
  simp [Drained, List.filter_append, h]

theorem drained_of_unread (h : ∀ m ∈ path, ¬ ReadsStdin m.before) : Drained path := by
  intro m hm
  have hnil : (path.filter fun m => ReadsStdin m.before) = [] := by
    simpa [List.filter_eq_nil_iff] using h
  rw [hnil] at hm
  cases hm

end Path

section Stdin

variable {is_json no_handshake : Bool} {idle ping : Int} {read : ReadResult} {write : WriteResult} {now : Timespec}
  {events : EpollEvents} {c c' : Wscat}

/-- What an event on the standard input comes to without the option -R. -/
inductive OnStdin (opt : Options) (read : ReadResult) (c : Wscat) (events : EpollEvents) (c' : Wscat) : Prop
  | closed (hfdin : c'.fdin = none) (hwssk : c'.wssk = c.wssk) (hrecv : c'.recv = c.recv)
      (hread : Readable events → ∀ bytes, read = .ok bytes → c.wssk.isSome = true → bytes = [])
  | idle (sk sk' : Sk) (hevents : ¬ Readable events) (hget : c.fdin = some sk) (hfdin : c'.fdin = some sk')
      (hsame : sk'.recvbuf = sk.recvbuf) (hwssk : c'.wssk = c.wssk) (hrecv : c'.recv = c.recv)
  | orphan (hnone : c.wssk = none) (hwssk : c'.wssk = none) (hrecv : c'.recv = c.recv)
      (hok : (∀ sk, c.fdin = some sk → sk.recvbuf.Ok) → ∀ sk, c'.fdin = some sk → sk.recvbuf.Ok)
  | pumped (sk sk1 wssk : Sk) (c1 : Wscat) (frames : List (Frame × UInt32)) (hevents : Readable events)
      (hget : c.fdin = some sk) (hwssk : c.wssk = some wssk) (hok : sk1.recvbuf.Ok) (hrecv : c1.recv = c.recv)
      (hread : sk1.recvbuf.readable = sk.recvbuf.readable ++ read.bytes) (hpumped : Pumped opt c1 sk1 wssk frames c')

/-- A read either leaves its socket's other fields alone, or turns its events off. -/
theorem sk_read_bytes {sk sk1 : Sk} {rv : Int} {wsd_errno errno' : Errno} (hok : sk.recvbuf.Ok)
    (hlen : read.len ≤ skb_wrsz sk.recvbuf) (h : sk_read read sk wsd_errno = .ok (rv, sk1, errno'))
    (hrv : ¬ (rv < 0 ∧ errno' ≠ .WSD_EAGAIN)) :
    sk1.recvbuf.Ok ∧ sk1.recvbuf.readable = sk.recvbuf.readable ++ read.bytes := by
  obtain ⟨bytes, rfl, -, -, -, rfl⟩ | ⟨hfull, -, rfl⟩ | ⟨hneg, herrno, -, -, -⟩ := sk_read_cases h
  · exact ⟨hok.put hlen, hok.readable_put hlen⟩
  · refine ⟨hok, ?_⟩
    rw [hfull] at hlen
    have hnil : read.bytes = [] := by
      cases read with
      | error => rfl
      | ok bytes => exact List.length_eq_zero_iff.mp (Nat.le_zero.mp hlen)
    rw [hnil, List.append_nil]
    rfl
  · exact absurd ⟨by rw [hneg]; decide, by rw [herrno]; decide⟩ hrv

theorem on_event_fdin_cases (hplain : Plain c) (hok : ∀ sk, c.fdin = some sk → sk.recvbuf.Ok)
    (hsend : ∀ wssk, c.wssk = some wssk → wssk.sendbuf.Ok)
    (hlen : ∀ sk, c.fdin = some sk → read.len ≤ skb_wrsz sk.recvbuf)
    (hfits : Readable events → ∀ sk wssk, c.fdin = some sk → c.wssk = some wssk →
      InputFits is_json ((sk.recvbuf.readable ++ read.bytes).length + 1) (skb_wrsz wssk.sendbuf)
        (sk.recvbuf.readable ++ read.bytes))
    (h : OnEvent (options is_json no_handshake idle ping (-1)) read write now c .fdin events c') :
    OnStdin (options is_json no_handshake idle ping (-1)) read c events c' := by
  have hclosed (c1 : Wscat) (hnum : c1.repeat_last_num = -1) (hwssk : c1.wssk = c.wssk) (hrecv : c1.recv = c.recv)
      (hclose : stdin_close (options is_json no_handshake idle ping (-1)) c1 = .ok c')
      (hread : Readable events → ∀ bytes, read = .ok bytes → c.wssk.isSome = true → bytes = []) :
      OnStdin (options is_json no_handshake idle ping (-1)) read c events c' := by
    rw [stdin_close_plain is_json no_handshake idle ping hnum] at hclose
    cases hclose
    exact .closed rfl hwssk hrecv hread
  cases h with
  | read sk c' hevents hget hwrite hclose hread =>
    cases hread with
    | failed rv sk1 e c' hsk hrv herrno hleft =>
      refine hclosed (c.noted .fdin sk1 now e) hplain.1 rfl rfl hleft fun _ bytes hbytes _ => ?_
      obtain ⟨_, -, -, -, hzero, -⟩ | ⟨-, hagain, -⟩ | ⟨-, -, -, -, herror | hend⟩ := sk_read_cases hsk
      · exact absurd hrv (by rw [hzero]; decide)
      · exact absurd hagain herrno
      · rw [herror] at hbytes
        cases hbytes
      · rw [hend] at hbytes
        cases hbytes
        rfl
    | refused rv rv1 sk1 e c1 c' hsk hrv hrecv hrefused hleft =>
      obtain ⟨hclose1, hwrite1, -⟩ := sk_read_flags hsk
      obtain ⟨hzero, -, -⟩ | ⟨s, hstdin, rfl⟩ := post_stdin_inv hrecv
      · exact absurd hrefused.1 (by rw [hzero]; decide)
      obtain ⟨-, hnone, rfl⟩ | ⟨hzero, -⟩ := stdin_recv_inv hstdin (hclose1.trans hclose) (hwrite1.trans hwrite)
      · refine hclosed (c.noted .fdin sk1 now e) hplain.1 rfl rfl hleft fun _ _ _ hsome => ?_
        have hnone' : c.wssk = none := hnone
        rw [hnone'] at hsome
        cases hsome
      · exact absurd hrefused.1 (by rw [hzero]; decide)
    | received rv rv1 sk1 e c1 c' sk2 hsk hrv hrecv hrefused hget2 hleft =>
      obtain ⟨hclose1, hwrite1, -⟩ := sk_read_flags hsk
      have hclose2 := hclose1.trans hclose
      have hwrite2 := hwrite1.trans hwrite
      obtain ⟨hok1, hread1⟩ := sk_read_bytes (hok sk hget) (hlen sk hget) hsk hrv
      cases hwssk : c.wssk with
      | none =>
        obtain ⟨-, rfl, -⟩ | ⟨s, hstdin, rfl⟩ := post_stdin_inv hrecv
        · cases hget2
          rw [if_neg (by simp [hclose2])] at hleft
          cases hleft
          refine .orphan hwssk hwssk rfl fun _ sk' hsk' => ?_
          cases hsk'
          exact hok1
        obtain ⟨-, -, rfl⟩ | ⟨-, hsome, -⟩ := stdin_recv_inv hstdin hclose2 hwrite2
        · cases hget2
          rw [if_neg (by simp [Wscat.stdin, hclose2])] at hleft
          cases hleft
          refine .orphan hwssk hwssk rfl fun _ sk' hsk' => ?_
          cases hsk'
          exact hok1
        · have hsome' : c.wssk.isSome = true := hsome
          rw [hwssk] at hsome'
          cases hsome'
      | some wssk =>
        have hfits1 := hfits hevents sk wssk hget hwssk
        rw [← hread1] at hfits1
        obtain ⟨-, frames, hpumped⟩ := @post_stdin_pumped (options is_json no_handshake idle ping (-1))
          (c.noted .fdin sk1 now e) c1 { sk1 with ts_last_io := now } wssk rv1 rfl hwssk hok1 (hsend wssk hwssk)
          (fun hrepeat => absurd hrepeat (by simp [Wscat.noted, Wscat.set, hplain.1])) hclose2 hwrite2 hfits1 hrecv
        have hsame : c1 = c' := by
          obtain ⟨last_input, recvbuf, sendbuf, events, e, rfl⟩ := hpumped.eq
          cases hget2
          rw [if_neg (by simp [hclose2])] at hleft
          exact hleft
        subst hsame
        exact .pumped sk { sk1 with ts_last_io := now } wssk (c.noted .fdin sk1 now e) frames hevents hget hwssk hok1 rfl hread1 hpumped
  | write sk rv sk1 e c' hevents hout hget hwrite hleft =>
    obtain hleft | rfl := hleft
    · exact hclosed (c.noted .fdin sk1 now e) hplain.1 rfl rfl hleft fun hin => absurd hin hevents
    · refine .idle sk _ hevents hget rfl ?_ rfl rfl
      have hwritten := sk_write_written write now sk c.wsd_errno
      rw [hwrite] at hwritten
      exact hwritten.recvbuf_eq
  | hangup c' hevents hout hopen hleft =>
    exact hclosed c hplain.1 rfl rfl hleft fun hin => absurd hin hevents
  | nothing hevents hout hopen =>
    cases hget : c.fdin with
    | none => exact .closed hget rfl rfl fun hin => absurd hin hevents
    | some sk => exact .idle sk sk hevents hget hget rfl rfl rfl

end Stdin

section Run

variable {is_json no_handshake : Bool} {idle ping : Int} {fd : Int} {request : List UInt8} {broken : Bool}
  {path : List (Move State Env)} {s s' : State} {env : Env}

/-- The standard input is closed in a step while the websocket is open. -/
def DropsInput (m : Move State Env) : Prop :=
  ClosesStdin m.before.c m.after.c ∧ m.before.c.wssk.isSome = true

instance (m : Move State Env) : Decidable (DropsInput m) :=
  inferInstanceAs (Decidable (_ ∧ _))

/-- What was read from the standard input has been sent in data frames, but for what is
    still waiting. -/
def Delivers (request : List UInt8) (path : List (Move State Env)) (s : State) (wssk : Sk) : Prop :=
  ∃ frames, written path ++ wssk.sendbuf.readable = request ++ maskedStream frames ∧
    sentData frames ++ pending s.c = input path

/-- What holds of a run without overwritten memory. -/
structure Conserved (request : List UInt8) (path : List (Move State Env)) (s : State) : Prop where
  http : s.c.recv = .wssk_http_recv → s.c.fdin = none ∧ input path = [] ∧ ∀ m ∈ path, ¬ ReadsStdin m.before
  fdin : ∀ sk, s.c.fdin = some sk → sk.recvbuf.Ok
  sendbuf : ∀ wssk, s.c.wssk = some wssk → wssk.sendbuf.Ok
  drained : ∀ wssk sk, s.c.wssk = some wssk → s.c.fdin = some sk → (sk.recvbuf.readable = [] ↔ Drained path)
  delivers : (∀ m ∈ path, DropsInput m → pending m.before.c = []) → ∀ wssk, s.c.wssk = some wssk →
    Delivers request path s wssk

/-- What a step which does not touch the standard input does with the websocket. -/
def Transmits (s : State) (env : Env) (s' : State) : Prop :=
  ∀ wssk', s'.c.wssk = some wssk' → ∃ wssk, s.c.wssk = some wssk ∧ (wssk.sendbuf.Ok →
    wssk'.sendbuf.Ok ∧ ∃ frames, sentData frames = [] ∧
      handed s env ++ wssk'.sendbuf.readable = wssk.sendbuf.readable ++ maskedStream frames)

theorem Conserved.other (h : Conserved request path s) (hdelivered : delivered s env = []) (hreads : ¬ ReadsStdin s)
    (hsession : SameSession s.c s'.c) (htransmits : Transmits s env s') :
    Conserved request (path ++ [⟨s, env, s'⟩]) s' := by
  have hinput : input (path ++ [⟨s, env, s'⟩]) = input path := by
    rw [input_snoc, hdelivered, List.append_nil]
  have hdrained : Drained (path ++ [⟨s, env, s'⟩]) ↔ Drained path := drained_snoc hreads
  have hpending : pending s'.c = pending s.c := by
    obtain ⟨-, hfdin⟩ | ⟨hhttp, -, hfdin⟩ := hsession
    · rw [pending, hfdin, pending]
    · rw [pending, hfdin, pending, (h.http hhttp).1]
      rfl
  refine ⟨fun hhttp => ?_, fun sk hsk => ?_, fun wssk' hwssk' => ?_, fun wssk' sk hwssk' hsk => ?_, fun hkept wssk' hwssk' => ?_⟩
  · obtain ⟨hrecv, hfdin⟩ | ⟨-, hrecv, -⟩ := hsession
    · obtain ⟨hnone, hnil, hunread⟩ := h.http (hrecv.symm.trans hhttp)
      refine ⟨hfdin.trans hnone, hinput.trans hnil, ?_⟩
      rw [List.forall_mem_append, List.forall_mem_singleton]
      exact ⟨hunread, hreads⟩
    · rw [hrecv] at hhttp
      cases hhttp
  · obtain ⟨-, hfdin⟩ | ⟨-, -, hfdin⟩ := hsession
    · exact h.fdin sk (hfdin.symm.trans hsk)
    · cases hfdin.symm.trans hsk
      exact Skb.ok_zero
  · obtain ⟨wssk, hwssk, hstep⟩ := htransmits wssk' hwssk'
    exact (hstep (h.sendbuf wssk hwssk)).1
  · obtain ⟨wssk, hwssk, -⟩ := htransmits wssk' hwssk'
    rw [hdrained]
    obtain ⟨-, hfdin⟩ | ⟨hhttp, -, hfdin⟩ := hsession
    · exact h.drained wssk sk hwssk (hfdin.symm.trans hsk)
    · cases hfdin.symm.trans hsk
      exact iff_of_true rfl (drained_of_unread (h.http hhttp).2.2)
  · obtain ⟨wssk, hwssk, hstep⟩ := htransmits wssk' hwssk'
    obtain ⟨-, frames, hdata, hput⟩ := hstep (h.sendbuf wssk hwssk)
    obtain ⟨before, hstream, hsent⟩ := h.delivers (fun m hm => hkept m (List.mem_append_left _ hm)) wssk hwssk
    refine ⟨before ++ frames, ?_, ?_⟩
    · rw [written_snoc, List.append_assoc, hput, ← List.append_assoc, hstream, List.append_assoc, maskedStream_append]
    · rw [sentData_append, hdata, List.append_nil, hpending, hinput]
      exact hsent

theorem Transmits.of_same (hhanded : handed s env = []) (h : s'.c.wssk = s.c.wssk) : Transmits s env s' := by
  intro wssk' hwssk'
  refine ⟨wssk', h.symm.trans hwssk', fun hok => ⟨hok, [], rfl, ?_⟩⟩
  rw [hhanded, maskedStream_nil, List.append_nil]
  rfl

theorem Transmits.of_speaks (hhanded : handed s env = [])
    (h : ∀ wssk', s'.c.wssk = some wssk' → ∃ wssk, s.c.wssk = some wssk ∧ ∃ frames, Speaks wssk frames wssk') :
    Transmits s env s' := by
  intro wssk' hwssk'
  obtain ⟨wssk, hwssk, frames, hspeaks⟩ := h wssk' hwssk'
  refine ⟨wssk, hwssk, fun hok => ?_⟩
  obtain ⟨hok', hread⟩ := hspeaks.puts hok
  refine ⟨hok', frames, hspeaks.control, ?_⟩
  rw [hhanded, List.nil_append, hread]

/-- A write hands the kernel what leaves the send buffer. -/
theorem transmits_of_write {sk : Sk} {events : EpollEvents} {todo : List (Source × EpollEvents)}
    (hpc : s.pc = .on_event ((.wssk, events) :: todo)) (hevents : ¬ Readable events) (hout : events.EPOLLOUT = true)
    (hsk : s.c.wssk = some sk) (hlen : env.write.len ≤ skb_rdsz sk.sendbuf)
    (hwrite : ∀ wssk', s'.c.wssk = some wssk' → ∃ rv sk1 wsd_errno,
      sk_write env.write sk s.c.wsd_errno = (rv, sk1, wsd_errno) ∧ wssk'.sendbuf = sk1.sendbuf) :
    Transmits s env s' := by
  intro wssk' hwssk'
  obtain ⟨rv, sk1, e, hwrite, hsame⟩ := hwrite wssk' hwssk'
  refine ⟨sk, hsk, fun hok => ?_⟩
  have hhanded : handed s env = match env.write with | .ok len => sk.sendbuf.readable.take len | .error => [] := by
    unfold handed
    rw [hpc, hsk]
    cases env.write with
    | error => rfl
    | ok len => exact if_pos ⟨hevents, hout⟩
  rw [hsame, hhanded]
  by_cases hempty : skb_rdsz sk.sendbuf = 0
  · unfold sk_write at hwrite
    rw [if_pos hempty] at hwrite
    cases hwrite
    have hnil := hok.readable_eq_nil_iff.mpr hempty
    refine ⟨hok, [], rfl, ?_⟩
    rw [turn_off_events, hnil, maskedStream_nil, List.append_nil]
    cases env.write with
    | error => rfl
    | ok len => simp
  · cases hresult : env.write with
    | error =>
      unfold sk_write at hwrite
      rw [if_neg hempty, hresult] at hwrite
      cases hwrite
      exact ⟨hok, [], rfl, by simp⟩
    | ok len =>
      rw [hresult] at hwrite hlen
      obtain ⟨sendbuf, hwrite', hsok, hread⟩ := @sk_write_ok sk s.c.wsd_errno len hok hempty hlen
      cases hwrite.symm.trans hwrite'
      refine ⟨hsok, [], rfl, ?_⟩
      rw [hread, List.take_append_drop, maskedStream_nil, List.append_nil]

theorem handed_of_fdin {events : EpollEvents} {todo : List (Source × EpollEvents)}
    (hpc : s.pc = .on_event ((.fdin, events) :: todo)) : handed s env = [] := by
  simp [handed, hpc]

theorem on_iteration_times (hplain : Plain s.c) {c : Wscat} {now : Timespec} {opt : Options}
    (h : on_iteration opt now s.c = .ok c) : Times s.c c := by
  obtain ⟨c1, c2, hping, hidle, hrepeat⟩ := on_iteration_inv h
  have hsame := (ping_timeout_same hping).trans (idle_timeout_same hidle)
  unfold try_repeating_last at hrepeat
  rw [hsame.2.1, hplain.repeat_last_armed, if_pos (by decide)] at hrepeat
  cases hrepeat
  exact (ping_timeout_times hping).trans (idle_timeout_times hidle)

/-- An event on the standard input keeps the account. -/
theorem Conserved.stdin {opt : Options} {events : EpollEvents} {todo : List (Source × EpollEvents)}
    (h : Conserved request path s) (hjson : opt.is_json = false) (hpc : s.pc = .on_event ((.fdin, events) :: todo))
    (hopen : s.c.fdin.isSome = true) (hevent : OnStdin opt env.read s.c events s'.c) :
    Conserved request (path ++ [⟨s, env, s'⟩]) s' := by
  have hspeaking : s.c.recv ≠ .wssk_http_recv := by
    intro hhttp
    rw [(h.http hhttp).1] at hopen
    cases hopen
  have hhanded : handed s env = [] := handed_of_fdin hpc
  have hwritten : written (path ++ [⟨s, env, s'⟩]) = written path := by
    rw [written_snoc, hhanded, List.append_nil]
  have hstart (hkept : ∀ m ∈ path ++ [⟨s, env, s'⟩], DropsInput m → pending m.before.c = []) :
      ∀ m ∈ path, DropsInput m → pending m.before.c = [] :=
    fun m hm => hkept m (List.mem_append_left _ hm)
  cases hevent with
  | closed hfdin hwssk hrecv hread =>
    refine ⟨fun hhttp => absurd (hrecv.symm.trans hhttp) hspeaking, fun sk hsk => ?_, fun wssk hsome => ?_,
      fun wssk sk _ hsk => ?_, fun hkept wssk hsome => ?_⟩
    · cases hfdin.symm.trans hsk
    · exact h.sendbuf wssk (hwssk.symm.trans hsome)
    · cases hfdin.symm.trans hsk
    · have hbefore := hwssk.symm.trans hsome
      obtain ⟨frames, hstream, hsent⟩ := h.delivers (hstart hkept) wssk hbefore
      have hempty : pending s.c = [] := hkept ⟨s, env, s'⟩ (by simp) ⟨⟨hopen, hfdin⟩, by rw [hbefore]; rfl⟩
      have hdelivered : delivered s env = [] := by
        unfold delivered
        rw [hpc]
        cases hresult : env.read with
        | error => rfl
        | ok bytes =>
          by_cases hevents : Readable events
          · exact (if_pos hevents).trans (hread hevents bytes hresult (by rw [hbefore]; rfl))
          · exact if_neg hevents
      refine ⟨frames, by rw [hwritten]; exact hstream, ?_⟩
      rw [input_snoc, hdelivered, List.append_nil, ← hsent, hempty, pending, hfdin]
      rfl
  | idle sk sk' hevents hget hfdin hsame hwssk hrecv =>
    have hreads : ¬ ReadsStdin s := by
      rintro ⟨events', hmem, hreadable⟩
      rw [hpc] at hmem
      cases hmem
      exact hevents hreadable
    have hdelivered : delivered s env = [] := by
      unfold delivered
      rw [hpc]
      cases env.read with
      | error => rfl
      | ok bytes => exact if_neg hevents
    have hpending : pending s'.c = pending s.c := by
      rw [pending, hfdin, pending, hget, Option.map_some, hsame]
      rfl
    refine ⟨fun hhttp => absurd (hrecv.symm.trans hhttp) hspeaking, fun sk1 hsk1 => ?_, fun wssk hsome => ?_,
      fun wssk sk1 hsome hsk1 => ?_, fun hkept wssk hsome => ?_⟩
    · cases hfdin.symm.trans hsk1
      rw [hsame]
      exact h.fdin sk hget
    · exact h.sendbuf wssk (hwssk.symm.trans hsome)
    · cases hfdin.symm.trans hsk1
      rw [hsame, drained_snoc hreads]
      exact h.drained wssk sk (hwssk.symm.trans hsome) hget
    · obtain ⟨frames, hstream, hsent⟩ := h.delivers (hstart hkept) wssk (hwssk.symm.trans hsome)
      refine ⟨frames, by rw [hwritten]; exact hstream, ?_⟩
      rw [input_snoc, hdelivered, List.append_nil, hpending]
      exact hsent
  | orphan hnone hwssk hrecv hok =>
    refine ⟨fun hhttp => absurd (hrecv.symm.trans hhttp) hspeaking, hok h.fdin, fun wssk hsome => ?_,
      fun wssk sk hsome _ => ?_, fun _ wssk hsome => ?_⟩
    · cases hwssk.symm.trans hsome
    · cases hwssk.symm.trans hsome
    · cases hwssk.symm.trans hsome
  | pumped sk sk1 wssk c1 frames hevents hget hwssk hok hrecv hread hpumped =>
    obtain ⟨last_input, recvbuf, sendbuf, events', e, -, hrok, hleft, hsok, hsread, hdata, hc⟩ := hpumped.state
    have hfdin : s'.c.fdin = some { sk1 with recvbuf } := by rw [hc]
    have hwssk' : s'.c.wssk = some { wssk with sendbuf, events := events' } := by rw [hc]
    have hreads : ReadsStdin s := ⟨events, by rw [hpc]; rfl, hevents⟩
    have hdelivered : delivered s env = env.read.bytes := by
      unfold delivered
      rw [hpc]
      cases env.read with
      | error => rfl
      | ok bytes => exact if_pos hevents
    have hinput : pending s.c ++ delivered s env = sk1.recvbuf.readable := by
      rw [hdelivered, pending, hget, hread]
      rfl
    refine ⟨fun hhttp => ?_, fun sk2 hsk2 => ?_, fun wssk2 hwssk2 => ?_, fun wssk2 sk2 hwssk2 hsk2 => ?_,
      fun hkept wssk2 hwssk2 => ?_⟩
    · rw [hc] at hhttp
      exact absurd (hrecv.symm.trans hhttp) hspeaking
    · cases hfdin.symm.trans hsk2
      exact hrok
    · cases hwssk'.symm.trans hwssk2
      exact hsok
    · cases hfdin.symm.trans hsk2
      rw [drained_snoc_read hreads, hleft, hjson, inputLeft_eq_nil_iff (Nat.lt_succ_self _), Roomy, hinput, room, hwssk]
      rfl
    · cases hwssk'.symm.trans hwssk2
      obtain ⟨before, hstream, hsent⟩ := h.delivers (hstart hkept) wssk hwssk
      refine ⟨before ++ frames, ?_, ?_⟩
      · rw [hwritten, hsread, ← List.append_assoc, hstream, List.append_assoc, maskedStream_append]
      · have hpending : pending s'.c = recvbuf.readable := by
          rw [pending, hfdin]
          rfl
        rw [sentData_append, hpending, List.append_assoc, hdata, input_snoc, ← hsent, List.append_assoc, hinput]

theorem Conserved.quiet (h : Conserved request path s) (hsource : s.pc.source = none) (hc : s'.c = s.c) :
    Conserved request (path ++ [⟨s, env, s'⟩]) s' := by
  have hdelivered : delivered s env = [] := by
    unfold delivered
    split
    · rename_i hpc _
      rw [hpc] at hsource
      cases hsource
    · rfl
  have hhanded : handed s env = [] := by
    unfold handed
    split
    · rename_i hpc _ _
      rw [hpc] at hsource
      cases hsource
    · rfl
  have hreads : ¬ ReadsStdin s := by
    rintro ⟨events, hmem, -⟩
    unfold Pc.stdinEvents at hmem
    split at hmem
    · rename_i hpc
      rw [hpc] at hsource
      cases hsource
    · cases hmem
  exact h.other hdelivered hreads (.inl ⟨by rw [hc], by rw [hc]⟩) (.of_same hhanded (by rw [hc]))

/-- Every step without overwritten memory keeps the account. -/
theorem step_conserved (hplain : Plain s.c) (h : Conserved request path s) (hvalid : env.Valid s)
    (hcontained : Contained (options false no_handshake idle ping (-1)) s env)
    (hstep : step (options false no_handshake idle ping (-1)) env s = .ok s') :
    Conserved request (path ++ [⟨s, env, s'⟩]) s' := by
  cases step_inv hstep with
  | exit hpc hdone => exact h.quiet (by rw [hpc]; rfl) rfl
  | iteration c hpc hdone hc =>
    have htimes := on_iteration_times hplain hc
    refine h.other (by simp [delivered, hpc]) ?_ (.inl ⟨htimes.session.1, htimes.session.2.1⟩)
      (.of_speaks (by simp [handed, hpc]) fun wssk' hwssk' => ?_)
    · rintro ⟨events, hmem, -⟩
      rw [hpc] at hmem
      cases hmem
    · have hsome : s.c.wssk.isSome = true := by
        have hsame := htimes.session.2.2
        rw [hwssk'] at hsame
        exact hsame.symm
      obtain ⟨wssk, hwssk⟩ := Option.isSome_iff_exists.mp hsome
      exact ⟨wssk, hwssk, (htimes.speaks wssk wssk' hwssk hwssk').1⟩
  | interrupted hpc => exact h.quiet (by rw [hpc]; rfl) rfl
  | waited events hpc hevents => exact h.quiet (by rw [hpc]; rfl) rfl
  | handled hpc => exact h.quiet (by rw [hpc]; rfl) rfl
  | on_event source events todo c hpc hevent =>
    have hlen := hvalid.2.2 source (by rw [hpc]; rfl)
    cases source with
    | wssk =>
      have hreads : ¬ ReadsStdin s := by
        rintro ⟨events', hmem, -⟩
        rw [hpc] at hmem
        cases hmem
      have hdelivered : delivered s env = [] := by simp [delivered, hpc]
      cases hwssk' : c.wssk with
      | none =>
        refine h.other hdelivered hreads ?_ fun wssk' hwssk => ?_
        · exact on_event_wssk_session hevent
        · cases hwssk'.symm.trans hwssk
      | some wssk' =>
        obtain ⟨sk, hsk, hsession, ⟨hkind, hreplies⟩ | ⟨hevents, hout, rv, sk1, e, hwrite, hsame⟩⟩ :=
          on_event_wssk_replies hevent hwssk'
        · have hhanded : handed s env = [] := by
            unfold handed
            rw [hpc, hsk]
            cases env.write with
            | error => rfl
            | ok len =>
              refine if_neg fun hboth => ?_
              obtain hin | hnot := hkind
              · exact hboth.1 hin
              · rw [hnot] at hboth
                exact absurd hboth.2 (by decide)
          refine h.other hdelivered hreads hsession (.of_speaks hhanded fun wssk2 hwssk2 => ?_)
          cases hwssk'.symm.trans hwssk2
          obtain ⟨frames, hspeaks, -⟩ := hreplies.speaks
          exact ⟨sk, hsk, frames, hspeaks⟩
        · refine h.other hdelivered hreads hsession (transmits_of_write hpc hevents hout hsk (hlen sk hsk).2 ?_)
          intro wssk2 hwssk2
          cases hwssk'.symm.trans hwssk2
          exact ⟨rv, sk1, e, hwrite, by rw [hsame]⟩
    | fdin =>
      have hopen : s.c.fdin.isSome = true := hevent.isSome
      refine @Conserved.stdin _ _ _ _ _ (options false no_handshake idle ping (-1)) _ _ h rfl hpc hopen ?_
      refine on_event_fdin_cases hplain h.fdin h.sendbuf (fun sk hsk => (hlen sk hsk).1) (fun hreadable sk wssk hsk hwssk => ?_)
        hevent
      have hfits := hcontained ⟨events, by rw [hpc]; rfl, hreadable⟩
      have hdelivered : delivered s env = env.read.bytes := by
        unfold delivered
        rw [hpc]
        cases env.read with
        | error => rfl
        | ok bytes => exact if_pos hreadable
      have hpending : pending s.c = sk.recvbuf.readable := by
        rw [pending, show s.c.fdin = some sk from hsk]
        rfl
      have hroom : room s.c = skb_wrsz wssk.sendbuf := by
        rw [room, hwssk]
        rfl
      rw [hdelivered, hpending, hroom] at hfits
      exact hfits

theorem path_conserved (hrequest : request.length ≤ SKB_SIZE)
    (h : (program (options false no_handshake idle ping (-1)) fd request broken).Path
      (Contained (options false no_handshake idle ping (-1))) path s) : Conserved request path s := by
  refine h.invariant (I := Conserved request) ?_ ?_
  · have hroom : request.length ≤ skb_wrsz Skb.zero := by rwa [Skb.wrsz_zero]
    refine ⟨fun _ => ⟨rfl, rfl, by simp⟩, fun sk hsk => (by cases hsk), fun wssk hwssk => ?_, fun wssk sk _ hsk => (by cases hsk),
      fun _ wssk hwssk => ⟨[], ?_, rfl⟩⟩
    · cases hwssk
      exact Skb.ok_zero.put hroom
    · cases hwssk
      have hread := Skb.ok_zero.readable_put hroom
      rw [Skb.readable_zero, List.nil_append] at hread
      rw [maskedStream_nil, List.append_nil]
      exact hread
  · intro path s s' env hreach hconserved hvalid hcontained hstep
    exact step_conserved (reach_plain (hreach.mono fun _ _ _ => trivial)) hconserved hvalid hcontained hstep

/-- As long as no frame is written over the end of the send buffer, all that is read from the
    standard input is sent exactly if it never ends behind a read for whose frames the send
    buffer had no room. -/
theorem stdin_delivered_iff (no_handshake : Bool) (idle ping : Int) (fd : Int) (request : List UInt8)
    (hrequest : request.length ≤ SKB_SIZE) (broken : Bool) (path : List (Move State Env)) (s : State)
    (h : (program (options false no_handshake idle ping (-1)) fd request broken).Path
      (Contained (options false no_handshake idle ping (-1))) path s) :
    ((∀ wssk, s.c.wssk = some wssk → Delivers request path s wssk) ∧
      ∀ m ∈ path, DropsInput m → pending m.before.c = []) ↔
      ∀ done m rest, path = done ++ m :: rest → DropsInput m → Drained done := by
  have hsplit (done : List (Move State Env)) (m : Move State Env) (rest : List (Move State Env))
      (heq : path = done ++ m :: rest) (hdrops : DropsInput m) : pending m.before.c = [] ↔ Drained done := by
    have hconserved := path_conserved hrequest (h.before heq)
    obtain ⟨sk, hsk⟩ := Option.isSome_iff_exists.mp hdrops.1.1
    obtain ⟨wssk, hwssk⟩ := Option.isSome_iff_exists.mp hdrops.2
    rw [pending, hsk]
    exact hconserved.drained wssk sk hwssk hsk
  constructor
  · rintro ⟨-, hdropped⟩ done m rest heq hdrops
    exact (hsplit done m rest heq hdrops).mp (hdropped m (by simp [heq]) hdrops)
  · intro hdrained
    have hdropped : ∀ m ∈ path, DropsInput m → pending m.before.c = [] := by
      intro m hm hdrops
      obtain ⟨done, rest, heq⟩ := List.append_of_mem hm
      exact (hsplit done m rest heq hdrops).mpr (hdrained done m rest heq hdrops)
    exact ⟨(path_conserved hrequest h).delivers hdropped, hdropped⟩

end Run

namespace Session

/-- Two bytes are typed behind the response, and then the input ends. -/
def typed : List Env :=
  connected ++ iteration 9 .fdin EPOLLIN { read := .ok [104, 105] } ++ iteration 9 .fdin EPOLLIN { read := .ok [] }

end Session

open Session

theorem stdin_delivered_iff_typed :
    ∃ (path : List (Move State Env)) (s : State), (∃ m ∈ path, DropsInput m) ∧
      (((∀ wssk, s.c.wssk = some wssk → Delivers (ascii "GET") path s wssk) ∧
        ∀ m ∈ path, DropsInput m → pending m.before.c = []) ↔
        ∀ done m rest, path = done ++ m :: rest → DropsInput m → Drained done) := by
  obtain ⟨path, s, hpath, hdrops⟩ :=
    @System.exists_path _ _ _ (Contained (options false false (-1) (-1) (-1)))
      (program (options false false (-1) (-1) (-1)) 3 (ascii "GET") false) _ _
      (fun path _ => ∃ m ∈ path, DropsInput m) _ typed (by decide +kernel)
  exact ⟨path, s, hdrops, stdin_delivered_iff false (-1) (-1) 3 (ascii "GET") (by decide) false path s hpath⟩

/-- In plain input of full chunks every frame fits if the room behind the last one is short
    even of the computed length. -/
theorem inputFits_chunks {fuel room : Nat} {bytes : List UInt8} (hlen : 32 * (room / 38 + 1) ≤ bytes.length)
    (hroom : room % 38 < 33) : InputFits false fuel room bytes := by
  induction fuel generalizing room bytes with
  | zero => trivial
  | succ fuel ih =>
    have hnext : nextLen false bytes = some 32 := by
      have hne : bytes ≠ [] := List.length_pos_iff.mp (by omega)
      have hmin : min 32 bytes.length = 32 := by omega
      rw [nextLen, if_neg hne, hmin]
      rfl
    have hframe : frameLen 32 = 33 := rfl
    have hmasked : maskedLen 32 = 38 := rfl
    simp only [InputFits, hnext, hframe, hmasked]
    by_cases hshort : room < 33
    · exact .inl hshort
    · exact .inr ⟨by omega, ih (by rw [List.length_drop]; omega) (by omega)⟩

/-- The handler of the standard input takes what fits. -/
theorem post_stdin_ok {opt : Options} {c : Wscat} {sk wssk : Sk} (hwssk : c.wssk = some wssk) (hok : sk.recvbuf.Ok)
    (hsend : wssk.sendbuf.Ok) (hkeeps : 0 < c.repeat_last_num → c.last_input.isSome = true)
    (hfits : InputFits opt.is_json (sk.recvbuf.readable.length + 1) (skb_wrsz wssk.sendbuf) sk.recvbuf.readable) :
    ∃ c', wscat.post_stdin opt c sk = .ok (0, c') := by
  unfold wscat.post_stdin
  by_cases hempty : skb_rdsz sk.recvbuf = 0
  · exact ⟨c, by rw [if_pos hempty]; rfl⟩
  rw [if_neg hempty]
  obtain ⟨frames, s1, hloop, -⟩ := @stdin_decode_loop_sent (sk.recvbuf.readable.length + 1) 0 (c.stdin opt sk) wssk hok
    hsend hkeeps hwssk (Nat.lt_succ_self _) hfits
  rw [hok.length_readable_eq] at hloop
  have hrecv : stdin_recv (c.stdin opt sk) = .ok (0, stdin_recv_leave (0 + frames.length) s1) := by
    have hassert : assert .stdin_recv_rdsz (skb_rdsz (c.stdin opt sk).sk.recvbuf ≠ 0) = .ok () := by
      rw [assert_eq_ok_iff]
      exact decide_eq_true hempty
    have hsome : ¬ (c.stdin opt sk).wssk.isNone = true := by
      rw [show (c.stdin opt sk).wssk = some wssk from hwssk]
      simp
    unfold stdin_recv
    rw [hassert, Except.ok_bind, if_neg hsome]
    exact Except.bind_eq_ok_iff.mpr ⟨_, hloop, rfl⟩
  exact ⟨_, by rw [hrecv]; rfl⟩

/-- A read which succeeds, and whose bytes the handler accepts, keeps the socket open. -/
theorem on_read_ok {opt : Options} {read : ReadResult} {now : Timespec} {c c1 : Wscat} {source : Source}
    {sk sk1 sk2 : Sk} {wsd_errno : Errno} (hget : c.get source = some sk) (hwrite : sk.close_on_write = false)
    (hclose : sk.close = false) (hread : sk_read read sk c.wsd_errno = .ok (0, sk1, wsd_errno))
    (hrecv : recv opt (c.noted source sk1 now wsd_errno) source { sk1 with ts_last_io := now } = .ok (0, c1))
    (hget1 : c1.get source = some sk2) (hclose1 : sk2.close = false) : on_read opt read now c source = .ok c1 := by
  unfold on_read
  rw [Wscat.deref_eq_ok_iff.mpr hget, Except.ok_bind, hwrite, hclose, hread]
  refine Except.bind_eq_ok_iff.mpr ⟨(), rfl, Except.bind_eq_ok_iff.mpr ⟨(), rfl, ?_⟩⟩
  refine Except.bind_eq_ok_iff.mpr ⟨_, rfl, ?_⟩
  refine Except.bind_eq_ok_iff.mpr ⟨_, hrecv, ?_⟩
  refine Except.bind_eq_ok_iff.mpr ⟨sk2, Wscat.deref_eq_ok_iff.mpr hget1, ?_⟩
  rw [hclose1]
  rfl

/-- An iteration right behind the last read or write, with neither timeout set. -/
theorem on_iteration_idle {c : Wscat} {sk : Sk} (hwssk : c.wssk = some sk) (harmed : c.repeat_last_armed = false)
    (htime : sk.ts_last_io = { tv_sec := 9, tv_nsec := 0 }) :
    on_iteration (options false false (-1) (-1) (-1)) { tv_sec := 9, tv_nsec := 0 } c = .ok c := by
  have hping : wsd.check_timeout sk { tv_sec := 9, tv_nsec := 0 }
      (options false false (-1) (-1) (-1)).ping_interval = false := by
    have htimeout : has_timed_out { tv_sec := 9, tv_nsec := 0 } { tv_sec := 9, tv_nsec := 0 }
        (options false false (-1) (-1) (-1)).ping_interval = false := by decide
    unfold wsd.check_timeout
    rw [htime, htimeout]
    split <;> [rfl; split <;> [rfl; split <;> rfl]]
  have hidle : wsd.check_timeout sk { tv_sec := 9, tv_nsec := 0 }
      (options false false (-1) (-1) (-1)).idle_timeout = false := if_pos rfl
  have h1 : ping_timeout (options false false (-1) (-1) (-1)) { tv_sec := 9, tv_nsec := 0 } c = .ok c := by
    unfold ping_timeout
    rw [check_timeout_eq_ok_iff.mpr ⟨sk, hwssk, hping⟩]
    rfl
  have h2 : idle_timeout (options false false (-1) (-1) (-1)) { tv_sec := 9, tv_nsec := 0 } c = .ok c := by
    unfold idle_timeout
    rw [check_timeout_eq_ok_iff.mpr ⟨sk, hwssk, hidle⟩]
    rfl
  unfold on_iteration
  rw [h1, Except.ok_bind, h2, Except.ok_bind, try_repeating_last, harmed]
  rfl

/-- A step which reads what fits the standard input's buffer. -/
theorem step_pumped {opt : Options} {s : State} {sk wssk : Sk} {bytes : List UInt8}
    (hpc : s.pc = .on_event [(.fdin, EPOLLIN)]) (hfdin : s.c.fdin = some sk) (hwssk : s.c.wssk = some wssk)
    (hfd : 0 ≤ sk.fd) (hclose : sk.close = false) (hwrite : sk.close_on_write = false) (hok : sk.recvbuf.Ok)
    (hsend : wssk.sendbuf.Ok) (hne : bytes ≠ []) (hspace : bytes.length ≤ skb_wrsz sk.recvbuf)
    (hkeeps : 0 < s.c.repeat_last_num → s.c.last_input.isSome = true)
    (hfits : InputFits opt.is_json ((sk.recvbuf.readable ++ bytes).length + 1) (skb_wrsz wssk.sendbuf)
      (sk.recvbuf.readable ++ bytes)) :
    ∃ c1 frames, step opt { read := .ok bytes } s = .ok { s with c := c1, pc := .on_event [] } ∧
      Pumped opt (s.c.noted .fdin { sk with recvbuf := skb_put sk.recvbuf bytes } s.now s.c.wsd_errno)
        { sk with recvbuf := skb_put sk.recvbuf bytes, ts_last_io := s.now } wssk frames c1 := by
  have hrok := hok.put hspace
  rw [← hok.readable_put hspace] at hfits
  obtain ⟨c1, hrecv⟩ := @post_stdin_ok opt
    (s.c.noted .fdin { sk with recvbuf := skb_put sk.recvbuf bytes } s.now s.c.wsd_errno)
    { sk with recvbuf := skb_put sk.recvbuf bytes, ts_last_io := s.now } wssk hwssk hrok hsend hkeeps hfits
  obtain ⟨-, frames, hpumped⟩ := @post_stdin_pumped opt
    (s.c.noted .fdin { sk with recvbuf := skb_put sk.recvbuf bytes } s.now s.c.wsd_errno) c1
    { sk with recvbuf := skb_put sk.recvbuf bytes, ts_last_io := s.now } wssk 0 rfl hwssk hrok hsend hkeeps hclose hwrite
    hfits hrecv
  refine ⟨c1, frames, ?_, hpumped⟩
  obtain ⟨last_input, recvbuf, sendbuf, events, e, hc1⟩ := hpumped.eq
  have hget1 : c1.get .fdin = some { sk with recvbuf, ts_last_io := s.now } := by rw [hc1]; rfl
  have honread := @on_read_ok opt (.ok bytes) s.now s.c c1 .fdin sk { sk with recvbuf := skb_put sk.recvbuf bytes } _ _
    hfdin hwrite hclose (sk_read_ok hfd hne hspace) hrecv hget1 hclose
  unfold step
  rw [hpc]
  refine Except.bind_eq_ok_iff.mpr ⟨c1, ?_, rfl⟩
  refine Except.bind_eq_ok_iff.mpr ⟨sk, Wscat.deref_eq_ok_iff.mpr hfdin, ?_⟩
  exact Except.bind_eq_ok_iff.mpr ⟨(), assert_eq_ok_iff.mpr (decide_eq_true hfd), honread⟩

/-- From a state in which a batch of events has been handled the input may end. -/
theorem exists_drop {fd : Int} {request : List UInt8} {broken : Bool} {path : List (Move State Env)} {s : State}
    {sk wssk : Sk}
    (hpath : (program (options false false (-1) (-1) (-1)) fd request broken).Path (fun _ _ => True) path s)
    (hpc : s.pc = .on_event []) (hnow : s.now = { tv_sec := 9, tv_nsec := 0 }) (hdone : s.c.done = false)
    (hfdin : s.c.fdin = some sk) (hfd : 0 ≤ sk.fd) (hwssk : s.c.wssk = some wssk)
    (htime : wssk.ts_last_io = { tv_sec := 9, tv_nsec := 0 }) :
    ∃ path' s' m, (program (options false false (-1) (-1) (-1)) fd request broken).Path (fun _ _ => True) path' s' ∧
      m ∈ path' ∧ m.before.c = s.c ∧ DropsInput m := by
  have hplain := reach_plain hpath.reach
  -- the batch is at its end
  have hvalid1 : Env.Valid s {} := by
    refine ⟨fun h => ?_, fun h => ?_, fun source h => ?_⟩ <;> rw [hpc] at h <;> cases h
  have hstep1 : step (options false false (-1) (-1) (-1)) {} s = .ok { s with pc := .iteration } := by
    unfold step
    rw [hpc]
  have hpath1 := hpath.step hvalid1 trivial hstep1
  -- the next iteration finds no timeout
  have hvalid2 : Env.Valid { s with pc := .iteration } { clock := { tv_sec := 9, tv_nsec := 0 } } := by
    refine ⟨fun _ => ⟨Int.le_of_eq (by rw [hnow]), by decide⟩, fun h => ?_, fun source h => ?_⟩ <;> cases h
  have hstep2 : step (options false false (-1) (-1) (-1)) { clock := { tv_sec := 9, tv_nsec := 0 } }
      { s with pc := .iteration } = .ok { s with pc := .epoll_wait } := by
    unfold step
    simp only [hdone, Bool.false_eq_true, if_false]
    refine Except.bind_eq_ok_iff.mpr ⟨s.c, on_iteration_idle hwssk hplain.repeat_last_armed htime, ?_⟩
    rw [← hnow]
    rfl
  have hpath2 := hpath1.step hvalid2 trivial hstep2
  -- the input has been hung up
  have hvalid3 : Env.Valid { s with pc := .epoll_wait } { events := some [(.fdin, { EPOLLHUP := true })] } := by
    refine ⟨fun h => ?_, fun _ events hevents => ?_, fun source h => ?_⟩
    · cases h
    · cases hevents
      refine ⟨by decide, fun event hevent => ?_⟩
      rw [List.mem_singleton] at hevent
      subst hevent
      exact ⟨sk, hfdin, by decide, by simp [EpollEvents.diff, EpollEvents.union]⟩
    · cases h
  have hstep3 : step (options false false (-1) (-1) (-1)) { events := some [(.fdin, { EPOLLHUP := true })] }
      { s with pc := .epoll_wait } = .ok { s with pc := .on_event [(.fdin, { EPOLLHUP := true })] } := rfl
  have hpath3 := hpath2.step hvalid3 trivial hstep3
  have hvalid4 : Env.Valid { s with pc := .on_event [(.fdin, { EPOLLHUP := true })] } {} := by
    refine ⟨fun h => ?_, fun h => ?_, fun source _ sk _ => ⟨Nat.zero_le _, ?_⟩⟩
    · cases h
    · cases h
    · exact Nat.zero_le _
  have hstep4 : step (options false false (-1) (-1) (-1)) {} { s with pc := .on_event [(.fdin, { EPOLLHUP := true })] } =
      .ok { s with c := { s.c with fdin := none }, pc := .on_event [] } := by
    refine Except.bind_eq_ok_iff.mpr ⟨{ s.c with fdin := none }, ?_, rfl⟩
    refine Except.bind_eq_ok_iff.mpr ⟨sk, Wscat.deref_eq_ok_iff.mpr hfdin, ?_⟩
    refine Except.bind_eq_ok_iff.mpr ⟨(), assert_eq_ok_iff.mpr (decide_eq_true hfd), ?_⟩
    exact stdin_close_plain false false (-1) (-1) hplain.repeat_last_num
  have hpath4 := hpath3.step hvalid4 trivial hstep4
  exact ⟨_, _, _, hpath4, List.mem_append_right _ List.mem_cons_self, rfl, ⟨by rw [hfdin]; rfl, rfl⟩, by rw [hwssk]; rfl⟩

/-- The program waits for the standard input with three bytes in its send buffer. -/
def Waiting (s : State) : Prop :=
  s.pc = .on_event [(.fdin, EPOLLIN)] ∧ s.now = { tv_sec := 9, tv_nsec := 0 } ∧ s.c.done = false ∧
    (∃ sk ∈ s.c.fdin, sk.fd = 0 ∧ sk.close = false ∧ sk.close_on_write = false ∧ sk.recvbuf.rdpos = 0 ∧
      sk.recvbuf.wrpos = 0) ∧
    ∃ sk ∈ s.c.wssk, sk.sendbuf.rdpos = 0 ∧ sk.sendbuf.wrpos = 3 ∧ sk.ts_last_io = { tv_sec := 9, tv_nsec := 0 }

instance (s : State) : Decidable (Waiting s) :=
  inferInstanceAs (Decidable (_ ∧ _ ∧ _ ∧ (∃ sk ∈ s.c.fdin, _) ∧ ∃ sk ∈ s.c.wssk, _))

/-- Of a mebibyte which is read at once a part finds no room in the send buffer, and is lost
    when the input ends. -/
theorem stdin_tail_dropped :
    ¬ ∀ (no_handshake : Bool) (idle ping : Int) (fd : Int) (request : List UInt8), request.length ≤ SKB_SIZE →
      ∀ (broken : Bool) (path : List (Move State Env)) (s : State),
        (program (options false no_handshake idle ping (-1)) fd request broken).Path (fun _ _ => True) path s →
        (∀ wssk, s.c.wssk = some wssk → Delivers request path s wssk) ∧
          ∀ m ∈ path, DropsInput m → pending m.before.c = [] := by
  intro hall
  obtain ⟨path, s, hpath, hpc, hnow, hdone, ⟨sk, hsk, hfd, hclose, hwrite, hrd, hwr⟩, wssk, hwssk, hsrd, hswr, htime⟩ :=
    @System.exists_path _ _ _ (fun _ _ => True) (program (options false false (-1) (-1) (-1)) 3 (ascii "GET") false) _ _
      (fun _ s => Waiting s) _
      (connected ++ [{ clock := { tv_sec := 9, tv_nsec := 0 } }, { events := some [(.fdin, EPOLLIN)] }])
      (by decide +kernel)
  have hplain := reach_plain hpath.reach
  have hok : sk.recvbuf.Ok := ⟨by omega, by omega⟩
  have hsend : wssk.sendbuf.Ok := ⟨by omega, by rw [hswr]; exact Nat.le_of_ble_eq_true rfl⟩
  have hempty : sk.recvbuf.readable = [] := by
    rw [hok.readable_eq_nil_iff, hok.rdsz_eq, hwr, hrd]
  have hroom : skb_wrsz wssk.sendbuf = 1048573 := by
    rw [hsend.wrsz_eq, hswr]
    rfl
  obtain ⟨mebibyte, hsize⟩ : ∃ bytes : List UInt8, bytes.length = 1048576 :=
    ⟨List.replicate 1048576 104, List.length_replicate⟩
  have hspace : mebibyte.length ≤ skb_wrsz sk.recvbuf := by
    have hroom := hok.wrsz_eq
    rw [hwr, SKB_SIZE] at hroom
    omega
  have hne : mebibyte ≠ [] := List.length_pos_iff.mp (by omega)
  have hfits : InputFits (options false false (-1) (-1) (-1)).is_json
      ((sk.recvbuf.readable ++ mebibyte).length + 1) (skb_wrsz wssk.sendbuf) (sk.recvbuf.readable ++ mebibyte) := by
    rw [hempty, List.nil_append, hroom]
    exact inputFits_chunks (by omega) (by omega)
  have hkeeps : 0 < s.c.repeat_last_num → s.c.last_input.isSome = true := by
    rw [hplain.repeat_last_num]
    exact fun h => absurd h (by decide)
  obtain ⟨c1, frames, hstep, hpumped⟩ :=
    step_pumped hpc hsk hwssk (Int.le_of_eq hfd.symm) hclose hwrite hok hsend hne hspace hkeeps hfits
  have hvalid : Env.Valid s { read := .ok mebibyte } := by
    refine ⟨fun h => ?_, fun h => ?_, fun source h sk' hsk' => ?_⟩
    · rw [hpc] at h
      cases h
    · rw [hpc] at h
      cases h
    · rw [hpc] at h
      cases h
      cases hsk.symm.trans hsk'
      exact ⟨hspace, Nat.zero_le _⟩
  have hpath1 := hpath.step hvalid trivial hstep
  obtain ⟨last_input, recvbuf, sendbuf, events, e, hlast, hrok, hleft, hsok, hsread, hdata, hc1⟩ := hpumped.state
  have hfdin1 : c1.fdin = some { sk with recvbuf, ts_last_io := s.now } := by rw [hc1]
  have hwssk1 : c1.wssk = some { wssk with sendbuf, events } := by rw [hc1]
  have hdone1 : c1.done = false := by
    rw [hc1]
    exact hdone
  have hpending : pending c1 ≠ [] := by
    have hread := hok.readable_put hspace
    rw [hempty, List.nil_append] at hread
    have hread' : recvbuf.readable = inputLeft false (mebibyte.length + 1) 1048573 mebibyte := by
      rw [hleft, hroom]
      exact congrArg (fun bytes => inputLeft false (bytes.length + 1) 1048573 bytes) hread
    have hpending : pending c1 = recvbuf.readable := by
      rw [pending, hfdin1]
      rfl
    rw [hpending, hread', Ne, inputLeft_eq_nil_iff (Nat.lt_succ_self _), inputNeed, hsize]
    omega
  obtain ⟨path', s', m, hpath', hm, hbefore, hdrops⟩ :=
    exists_drop hpath1 rfl hnow hdone1 hfdin1 (Int.le_of_eq hfd.symm) hwssk1 htime
  have hnil := (hall false (-1) (-1) 3 (ascii "GET") (by decide) false path' s' hpath').2 m hm hdrops
  rw [hbefore] at hnil
  exact hpending hnil

end wscat

end wsd

import Wsd.Wscat.TlsPending

namespace wsd

open Transition

namespace wscat.tls

section Account

variable {opt : Options} {cfg : RequestConfig} {path : List (Move State Env)} {t t' : State} {env : Env}
  {pieces : List Piece} {unsent : List UInt8}

/-- The bytes which a step hands to `SSL_write`. -/
def handed (t : State) (env : Env) : List UInt8 :=
  match t.started, t.base.pc, t.base.c.wssk with
  | true, .on_event ((.wssk, events) :: _), some wssk => taken env t.ops events wssk.sendbuf
  | _, _, _ => []

def written (path : List (Move State Env)) : List UInt8 :=
  path.flatMap fun m => handed m.before m.input

/-- A step as one of the program without TLS. -/
def plain (m : Move State Env) : Move wscat.State wscat.Env :=
  ⟨m.before.base, m.input.base, m.after.base⟩

/-- A timer has put bytes into the send buffer before the response had been processed. -/
def Premature (m : Move State Env) : Prop :=
  m.before.started = true ∧ wscat.Premature (plain m)

instance (m : Move State Env) : Decidable (Premature m) :=
  inferInstanceAs (Decidable (_ ∧ _))

/-- What is sent over the TLS connection. -/
inductive Piece
  | request (text : List UInt8)
  | frame (f : Frame × UInt32)

def Piece.bytes : Piece → List UInt8
  | .request text => text
  | .frame f => f.1.masked f.2

def requests (pieces : List Piece) : List (List UInt8) :=
  pieces.filterMap fun piece =>
    match piece with
    | .request text => some text
    | .frame _ => none

def frames (pieces : List Piece) : List (Frame × UInt32) :=
  pieces.filterMap fun piece =>
    match piece with
    | .request _ => none
    | .frame f => some f

/-- The bytes which have been handed to the library and those which still wait are those of requests and whole
    frames. There is one request for each completed handshake, with what there was room for. Of the frames the
    same holds as without TLS. Nothing is handed over before the first handshake is completed, and unless a timer
    is ahead of it the first bytes are those of a request. -/
structure Outgoing (cfg : RequestConfig) (path : List (Move State Env)) (t : State) (pieces : List Piece)
    (unsent : List UInt8) : Prop where
  stream : written path ++ unsent = Framing.stream Piece.bytes pieces
  rest : ∀ wssk, t.base.c.wssk = some wssk → wssk.sendbuf.readable = unsent
  requests : requests pieces = (path.filter fun m => Completes m).map fun m => requestKept cfg (room m.before.base.c)
  control : (controls (frames pieces)).Pairwise fun f _ => NoClose f
  order : (∀ m ∈ path, ¬ FeedsClosing (plain m)) → (frames pieces).Pairwise fun f _ => NoClose f
  http : t.base.c.recv = .wssk_http_recv → (∀ m ∈ path, ¬ Premature m) → frames pieces = []
  silent : (∀ m ∈ path, ¬ Completes m) → written path = []
  first : (∀ m ∈ path, ¬ Premature m) → ∀ piece ∈ pieces.head?, ∃ text, piece = .request text

/-- The pieces which a step adds. -/
def told (cfg : RequestConfig) (t t' : State) (sendbuf : Skb) (said : List (Frame × UInt32)) : List Piece :=
  (if t.ops = .handshake ∧ t'.ops = .transfer then [.request (requestKept cfg (skb_wrsz sendbuf))] else []) ++
    said.map .frame

/-- What a step makes the websocket say. -/
structure Tells (cfg : RequestConfig) (t : State) (env : Env) (t' : State) : Prop where
  recv : t'.base.c.recv = .wssk_http_recv → t.base.c.recv = .wssk_http_recv
  gone : t.base.c.wssk = none → t'.base.c.wssk = none ∧ ¬ Completes ⟨t, env, t'⟩
  said : ∀ wssk, t.base.c.wssk = some wssk → ∃ said rest,
    handed t env ++ rest = wssk.sendbuf.readable ++
      (renewed cfg t.ops t'.ops wssk.sendbuf ++ maskedStream said) ∧
    (t.base.c.recv = .wssk_http_recv → t.started = true ∧ t.base.pc = .iteration ∨ said = []) ∧
    (t'.base.c.wssk = none → said = []) ∧
    ∀ wssk', t'.base.c.wssk = some wssk' → wssk'.sendbuf.readable = rest ∧ Follows t.base wssk said wssk'

theorem written_snoc (m : Move State Env) : written (path ++ [m]) = written path ++ handed m.before m.input := by
  simp [written]

theorem handed_handshake (h : t.ops = .handshake) : handed t env = [] := by
  unfold handed
  split
  · exact if_neg fun hboth => by rw [h] at hboth; exact nomatch hboth.1
  · rfl

theorem handed_none (h : t.base.c.wssk = none) : handed t env = [] := by
  simp [handed, h]

theorem handed_eq_nil (h : t.base.pc.source ≠ some .wssk) : handed t env = [] := by
  unfold handed
  split
  · rename_i hpc _
    rw [hpc] at h
    exact absurd rfl h
  · rfl

theorem stream_told (t t' : State) (sendbuf : Skb) (said : List (Frame × UInt32)) :
    Framing.stream Piece.bytes (told cfg t t' sendbuf said) = renewed cfg t.ops t'.ops sendbuf ++ maskedStream said := by
  have hframes : Framing.stream Piece.bytes (said.map .frame) = maskedStream said := by
    rw [Framing.stream, List.flatMap_map]
    rfl
  rw [told, Framing.stream_append, hframes, renewed]
  split
  · rw [Framing.stream_cons, Framing.stream_nil, List.append_nil]
    rfl
  · rw [Framing.stream_nil]

theorem requests_append (ps qs : List Piece) : requests (ps ++ qs) = requests ps ++ requests qs :=
  List.filterMap_append ..

theorem frames_append (ps qs : List Piece) : frames (ps ++ qs) = frames ps ++ frames qs :=
  List.filterMap_append ..

theorem requests_told (t t' : State) (sendbuf : Skb) (said : List (Frame × UInt32)) :
    requests (told cfg t t' sendbuf said) =
      if t.ops = .handshake ∧ t'.ops = .transfer then [requestKept cfg (skb_wrsz sendbuf)] else [] := by
  have hframes : requests (said.map .frame) = [] := by
    simp [requests]
  rw [told, requests_append, hframes, List.append_nil]
  split <;> rfl

theorem frames_told (t t' : State) (sendbuf : Skb) (said : List (Frame × UInt32)) :
    frames (told cfg t t' sendbuf said) = said := by
  have hframes : frames (said.map .frame) = said := by
    simp [frames, List.filterMap_map]
  rw [told, frames_append, hframes]
  split <;> rfl

/-- The requests of a run go on with that of a handshake which a step completes. -/
theorem requests_snoc {sendbuf : Skb} {said : List (Frame × UInt32)}
    (h : requests pieces = (path.filter fun m => Completes m).map fun m => requestKept cfg (room m.before.base.c))
    (hroom : room t.base.c = skb_wrsz sendbuf) :
    requests (pieces ++ told cfg t t' sendbuf said) =
      ((path ++ [(⟨t, env, t'⟩ : Move State Env)]).filter fun m => Completes m).map fun m =>
        requestKept cfg (room m.before.base.c) := by
  rw [requests_append, requests_told, h, List.filter_append, List.map_append]
  congr 1
  rw [List.filter_singleton]
  by_cases hcompletes : t.ops = .handshake ∧ t'.ops = .transfer
  · have hdecide : decide (Completes ⟨t, env, t'⟩) = true := decide_eq_true hcompletes
    rw [if_pos hcompletes, hdecide, cond_true, List.map_singleton, hroom]
  · have hdecide : decide (Completes ⟨t, env, t'⟩) = false := decide_eq_false hcompletes
    rw [if_neg hcompletes, hdecide, cond_false, List.map_nil]

theorem Outgoing.silent_next (h : Outgoing cfg path t pieces unsent) (hwaiting : (∀ m ∈ path, ¬ Completes m) → Waiting t)
    (hnone : ∀ m ∈ path ++ [⟨t, env, t'⟩], ¬ Completes m) : written (path ++ [⟨t, env, t'⟩]) = [] := by
  rw [List.forall_mem_append] at hnone
  rw [written_snoc, h.silent hnone.1, handed_handshake (hwaiting hnone.1).ops]
  rfl

/-- The account of a run whose connection is closed stays the same. -/
theorem Outgoing.gone (h : Outgoing cfg path t pieces unsent) (hwaiting : (∀ m ∈ path, ¬ Completes m) → Waiting t)
    (htells : Tells cfg t env t') (hwssk : t.base.c.wssk = none) :
    Outgoing cfg (path ++ [⟨t, env, t'⟩]) t' pieces unsent ∧ t'.base.c.wssk = none := by
  have hbefore {P : Move State Env → Prop} (hnone : ∀ m ∈ path ++ [⟨t, env, t'⟩], P m) : ∀ m ∈ path, P m :=
    (List.forall_mem_append.mp hnone).1
  obtain ⟨hwssk', hcompletes⟩ := htells.gone hwssk
  refine ⟨⟨?_, fun wssk hsk => ?_, ?_, h.control, fun hnone => h.order (hbefore hnone),
    fun hhttp hnone => h.http (htells.recv hhttp) (hbefore hnone), h.silent_next hwaiting,
    fun hnone => h.first (hbefore hnone)⟩, hwssk'⟩
  · rw [written_snoc, handed_none hwssk, List.append_nil, h.stream]
  · cases hwssk'.symm.trans hsk
  · rw [List.filter_append, List.filter_singleton, decide_eq_false hcompletes, h.requests]
    simp

/-- The account of a run goes on with the next step. -/
theorem Outgoing.next (h : Outgoing cfg path t pieces unsent) (hunclosed : Unclosed t.base (frames pieces))
    (hwaiting : (∀ m ∈ path, ¬ Completes m) → Waiting t) (htells : Tells cfg t env t') :
    ∃ pieces' unsent', Outgoing cfg (path ++ [⟨t, env, t'⟩]) t' pieces' unsent' ∧ Unclosed t'.base (frames pieces') := by
  have hfeeds (hnone : ∀ m ∈ path ++ [⟨t, env, t'⟩], ¬ FeedsClosing (plain m)) :
      (∀ m ∈ path, ¬ FeedsClosing (plain m)) ∧ ¬ FeedsClosing (plain ⟨t, env, t'⟩) := by
    rwa [List.forall_mem_append, List.forall_mem_singleton] at hnone
  have hearly (hnone : ∀ m ∈ path ++ [⟨t, env, t'⟩], ¬ Premature m) :
      (∀ m ∈ path, ¬ Premature m) ∧ ¬ Premature ⟨t, env, t'⟩ := by
    rwa [List.forall_mem_append, List.forall_mem_singleton] at hnone
  cases hwssk : t.base.c.wssk with
  | none =>
    obtain ⟨hout, hwssk'⟩ := h.gone hwaiting htells hwssk
    refine ⟨pieces, unsent, hout, fun wssk hsk => ?_⟩
    cases hwssk'.symm.trans hsk
  | some wssk =>
    obtain ⟨said, rest, hbytes, hhttp, hclosed, hopen⟩ := htells.said wssk hwssk
    have hframes : frames (pieces ++ told cfg t t' wssk.sendbuf said) = frames pieces ++ said := by
      rw [frames_append, frames_told]
    have hroom : room t.base.c = skb_wrsz wssk.sendbuf := by
      rw [room, hwssk]
      rfl
    -- Where nothing is handed over and the buffer is as before, nothing has been said.
    have hquiet {wssk' : Sk} (hwssk' : t'.base.c.wssk = some wssk') (hhanded : handed t env = [])
        (hsame : ¬ outgoing t'.base.c ≠ outgoing t.base.c) : said = [] := by
      have hequal := not_not.mp hsame
      rw [outgoing, outgoing, hwssk, hwssk', Option.map_some, Option.map_some, Option.some.injEq] at hequal
      rw [hhanded, List.nil_append, ← (hopen wssk' hwssk').1, hequal] at hbytes
      exact maskedStream_eq_nil (List.append_eq_nil_iff.mp (List.self_eq_append_right.mp hbytes)).2
    have hhttp' (hrecv : t.base.c.recv = .wssk_http_recv) (hnot : ¬ Premature ⟨t, env, t'⟩) : said = [] := by
      obtain ⟨hstarted, hpc⟩ | hnil := hhttp hrecv
      · cases hwssk' : t'.base.c.wssk with
        | none => exact hclosed hwssk'
        | some wssk' =>
          apply hquiet hwssk' (handed_eq_nil (by rw [hpc]; decide))
          exact fun hmore => hnot ⟨hstarted, hrecv, hpc, hmore⟩
      · exact hnil
    refine ⟨pieces ++ told cfg t t' wssk.sendbuf said, rest, ⟨?_, fun wssk' hwssk' => ?_, requests_snoc h.requests hroom,
      ?_, fun hnone => ?_, fun hrecv hnone => ?_, h.silent_next hwaiting, fun hnone => ?_⟩, fun wssk' hwssk' hnot => ?_⟩
    · rw [written_snoc, List.append_assoc, hbytes, h.rest wssk hwssk, ← List.append_assoc, h.stream,
        Framing.stream_append, stream_told]
    · exact (hopen wssk' hwssk').1
    · rw [hframes]
      cases hwssk' : t'.base.c.wssk with
      | none =>
        rw [hclosed hwssk', List.append_nil]
        exact h.control
      | some wssk' => exact (hopen wssk' hwssk').2.control (hunclosed wssk hwssk) h.control
    · obtain ⟨hbefore, hnot⟩ := hfeeds hnone
      rw [hframes]
      cases hwssk' : t'.base.c.wssk with
      | none =>
        rw [hclosed hwssk', List.append_nil]
        exact h.order hbefore
      | some wssk' =>
        refine (hopen wssk' hwssk').2.order (hunclosed wssk hwssk) (h.order hbefore) fun hsource hbegun => ?_
        apply hquiet hwssk' (handed_eq_nil (by rw [hsource]; decide))
        exact fun hmore => hnot ⟨hsource, ⟨wssk, hwssk, hbegun⟩, hmore⟩
    · obtain ⟨hbefore, hnot⟩ := hearly hnone
      have hrecv' := htells.recv hrecv
      rw [hframes, h.http hrecv' hbefore, hhttp' hrecv' hnot]
      rfl
    · obtain ⟨hbefore, hnot⟩ := hearly hnone
      cases hpieces : pieces with
      | cons piece pieces =>
        have hfirst := h.first hbefore
        rwa [hpieces] at hfirst
      | nil =>
        by_cases hcompletes : t.ops = .handshake ∧ t'.ops = .transfer
        · rw [told, if_pos hcompletes]
          rintro piece hpiece
          cases hpiece
          exact ⟨_, rfl⟩
        · -- Without a completed handshake there is no response yet, and thus no frame.
          have hnone' : ∀ m ∈ path, ¬ Completes m := by
            have hrequests := h.requests
            rw [hpieces] at hrequests
            have hnil := List.map_eq_nil_iff.mp hrequests.symm
            simpa [List.filter_eq_nil_iff] using hnil
          rw [told, if_neg hcompletes, hhttp' (hwaiting hnone').recv hnot]
          intro piece hpiece
          cases hpiece
    · rw [hframes]
      exact (hopen wssk' hwssk').2.unclosed (hunclosed wssk hwssk) hnot

end Account

section Run

variable {opt : Options} {cfg : RequestConfig} {fd : Int} {broken : Bool} {path : List (Move State Env)} {t t' : State}
  {env : Env}

/-- No frame of the input is written over the end of the send buffer. -/
def Within (opt : Options) (t : State) (env : Env) : Prop :=
  t.started = true → t.base.pc.source ≠ some .wssk → wscat.Within opt t.base env.base

instance (opt : Options) (t : State) (env : Env) : Decidable (Within opt t env) :=
  inferInstanceAs (Decidable (_ → _ → _))

/-- The first call of the handshake says nothing but the request. -/
theorem start_tells {sk sk1 : Sk} {rv : Int} {ops1 : TlsOps} (hsound : Sound t.base.c)
    (hfresh : t.ops = .handshake) (hget : t.base.c.wssk = some sk)
    (hcall : wssk_tls_handshake cfg env.SSL_do_handshake sk = .ok (rv, sk1, ops1)) :
    Sound { t.base.c with wssk := some sk1 } ∧
      Tells cfg t env { base := { t.base with c := { t.base.c with wssk := some sk1 } }, ops := ops1, started := true } := by
  obtain ⟨hok, hsteady⟩ := hsound.wssk sk hget
  have hpasses := wssk_tls_handshake_passes hok hcall
  refine ⟨hsound.session (.inl ⟨rfl, rfl⟩) rfl rfl fun wssk' hwssk' => ?_, id, fun hnone => ?_, fun wssk hwssk => ?_⟩
  · cases hwssk'
    exact ⟨hpasses.ok, hsteady.of_flags hpasses.closing hpasses.close hpasses.close_on_write⟩
  · cases hget.symm.trans hnone
  · cases hget.symm.trans hwssk
    refine ⟨[], sk1.sendbuf.readable, ?_, fun _ => .inr rfl, (fun hnone => nomatch hnone), fun wssk' hwssk' => ?_⟩
    · have hbytes := hpasses.bytes
      rw [handed_handshake hfresh, hbytes, hfresh, maskedStream_nil, List.append_nil]
    · cases hwssk'
      exact ⟨rfl, .inl (.of_flags hpasses.closing hpasses.close hpasses.close_on_write)⟩

theorem step_tells (hsound : Sound t.base.c) (hfresh : t.started = false → t.ops = .handshake) (hvalid : env.Valid t)
    (hwithin : Within opt t env) (hstep : step opt cfg env t = .ok t') : Sound t'.base.c ∧ Tells cfg t env t' := by
  cases step_inv hstep with
  | start sk sk1 rv ops1 hstarted hget hcall => exact start_tells hsound (hfresh hstarted) hget hcall
  | on_event events todo c' ops' hstarted hpc hevent =>
    have hanswers := hevent.answers hsound fun sk hsk => (hvalid.2 sk hsk).2
    refine ⟨hanswers.sound, hanswers.session, fun hnone => ?_, fun wssk hwssk => ?_⟩
    · obtain ⟨sk, hsk⟩ := hevent.exists
      cases hnone.symm.trans hsk
    · obtain ⟨said, rest, hbytes, hhttp, hclosed, hopen⟩ := hanswers.said wssk hwssk
      refine ⟨said, rest, ?_, fun hrecv => .inr (hhttp hrecv), hclosed, fun wssk' hwssk' => ?_⟩
      · rw [← hbytes]
        congr 1
        unfold handed
        rw [hstarted, hpc, hwssk]
      · obtain ⟨hrest, hordered⟩ := hopen wssk' hwssk'
        exact ⟨hrest, .inl hordered⟩
  | base s' hstarted hsource hplain =>
    obtain ⟨hsound', htells⟩ := wscat.step_tells hsound hvalid.1 (hwithin hstarted hsource) hplain
    have hnone : renewed cfg t.ops t.ops = fun _ => [] := by
      funext sendbuf
      exact if_neg fun h => by rw [h.1] at h; exact nomatch h.2
    refine ⟨hsound', htells.recv, fun hgone => ⟨?_, fun h => ?_⟩, fun wssk hwssk => ?_⟩
    · cases hwssk' : s'.c.wssk with
      | none => rfl
      | some wssk' =>
        obtain ⟨wssk, said, hwssk, -⟩ := htells.said wssk' hwssk'
        cases hgone.symm.trans hwssk
    · rw [Completes, h.1] at h
      exact nomatch h.2
    · have hhanded : wscat.handed t.base env.base = [] := wscat.handed_eq_nil hsource
      rw [handed_eq_nil hsource, hnone]
      cases hwssk' : s'.c.wssk with
      | none =>
        refine ⟨[], wssk.sendbuf.readable, ?_, fun _ => .inr rfl, fun _ => rfl, fun _ h => nomatch h⟩
        rw [maskedStream_nil, List.nil_append, List.append_nil, List.append_nil]
      | some wssk' =>
        obtain ⟨wssk1, said, hwssk1, hbytes, hfollows, hhttp⟩ := htells.said wssk' hwssk'
        cases hwssk.symm.trans hwssk1
        refine ⟨said, wssk'.sendbuf.readable, ?_, fun hrecv => (hhttp hrecv).imp_left fun hpc => ⟨hstarted, hpc⟩,
          (fun h => nomatch h), fun wssk2 hwssk2 => ?_⟩
        · rw [hhanded] at hbytes
          rw [hbytes, List.nil_append]
        · cases hwssk2
          exact ⟨rfl, hfollows⟩

theorem sound_init : Sound (program opt cfg fd broken).init.base.c := by
  refine ⟨⟨fun wssk hwssk => ?_, fun li hli => ?_, fun hnum => ?_⟩, fun _ => rfl, fun sk hsk => nomatch hsk⟩
  · cases hwssk
    exact ⟨Skb.ok_zero, rfl, fun h => nomatch h⟩
  · have hlast : (if 0 < opt.repeat_last_num then some Skb.zero else none) = some li := hli
    split at hlast
    · cases hlast
      exact Skb.ok_zero
    · cases hlast
  · have hset : 0 < opt.repeat_last_num := hnum
    exact congrArg Option.isSome (if_pos hset)

/-- What wscat sends over TLS is a request for each completed handshake and whole frames, for all options, all results of
    the TLS library and all orders of input, events and timeouts. -/
theorem connection_stream (opt : Options) (cfg : RequestConfig) (fd : Int) (broken : Bool) (path : List (Move State Env))
    (t : State) (h : (program opt cfg fd broken).Path (Within opt) path t) :
    ∃ pieces unsent, Outgoing cfg path t pieces unsent := by
  have haccount : Sound t.base.c ∧ ∃ pieces unsent, Outgoing cfg path t pieces unsent ∧
      Unclosed t.base (frames pieces) := by
    induction h with
    | init =>
      refine ⟨sound_init, [], [], ⟨rfl, fun wssk hwssk => ?_, rfl, .nil, fun _ => .nil, fun _ _ => rfl, fun _ => rfl,
        fun _ _ h => nomatch h⟩, ?_⟩
      · cases hwssk
        exact Skb.readable_zero
      · exact fun _ _ _ _ hf => nomatch hf
    | step hpath hvalid hwithin hstep ih =>
      obtain ⟨hsound, pieces, unsent, hout, hunclosed⟩ := ih
      obtain ⟨hstart, hwaiting⟩ := path_waiting hpath
      obtain ⟨hsound', htells⟩ := step_tells hsound (fun hnot => (hwaiting (by simp [hstart hnot])).ops) hvalid hwithin hstep
      exact ⟨hsound', hout.next hunclosed hwaiting htells⟩
  obtain ⟨-, pieces, unsent, hout, -⟩ := haccount
  exact ⟨pieces, unsent, hout⟩

end Run

namespace Connection

/-- The server asks for a second handshake when a part of the request has been sent. -/
def renegotiated : List Env :=
  {} :: (event EPOLLIN { SSL_do_handshake := .ok () } ++ event EPOLLOUT { SSL_write := .ok 10 } ++
    event EPOLLOUT { SSL_write := .error .SSL_ERROR_WANT_READ } ++ event EPOLLIN { SSL_do_handshake := .ok () })

end Connection

open Connection

/-- The request is put a second time behind the second handshake. -/
theorem connection_stream_renegotiated :
    ∃ (path : List (Move State Env)) (t : State), (path.filter fun m => Completes m).length = 2 ∧ written path ≠ [] ∧
      ∃ pieces unsent, Outgoing (default_config (ascii "example") (ascii "/") true) path t pieces unsent := by
  obtain ⟨path, t, hpath, hcompletes, hwritten⟩ :=
    @System.exists_path _ _ _ (Within (options false false (-1) (-1) (-1)))
      (program (options false false (-1) (-1) (-1)) (default_config (ascii "example") (ascii "/") true) 3 false) _ _
      (fun path _ => (path.filter fun m => Completes m).length = 2 ∧ written path ≠ []) _ renegotiated (by decide +kernel)
  exact ⟨path, t, hcompletes, hwritten, connection_stream _ _ 3 false path t hpath⟩

end wscat.tls

end wsd

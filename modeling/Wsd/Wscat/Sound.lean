import Wsd.Wscat.Conserve
import Wsd.Wscat.Repetition

namespace wsd

/-- What is kept for repeating is in order once it is saved. -/
theorem savedInput_ok {s : Stdin} {n : Nat} (hok : s.sk.recvbuf.Ok) (hn : n ≤ skb_rdsz s.sk.recvbuf)
    (hlast : ∀ li, s.last_input = some li → li.Ok) : ∀ li, savedInput s n = some li → li.Ok := by
  intro li hli
  by_cases hrepeat : 0 < s.repeat_last_num
  · cases hsome : s.last_input with
    | none =>
      rw [savedInput, if_pos hrepeat, hsome] at hli
      cases hli
    | some li1 =>
      obtain ⟨li', hsaved, hok', -⟩ := savedInput_readable hok hrepeat hsome hn
      cases hsaved.symm.trans hli
      exact hok'
  · rw [savedInput, if_neg hrepeat] at hli
    exact hlast li hli

/-- The loop over the input keeps what it saves for repeating in order. -/
theorem stdin_decode_loop_last {fuel k k' : Nat} {s s' : Stdin} {wssk : Sk} {rv : Int} (hok : s.sk.recvbuf.Ok)
    (hsend : wssk.sendbuf.Ok) (hkeeps : s.Keeps) (hwssk : s.wssk = some wssk)
    (hlast : ∀ li, s.last_input = some li → li.Ok)
    (hfits : InputFits s.is_json fuel (skb_wrsz wssk.sendbuf) s.sk.recvbuf.readable)
    (h : stdin_decode_loop fuel k s = .ok (rv, k', s')) : ∀ li, s'.last_input = some li → li.Ok := by
  induction fuel generalizing k s wssk with
  | zero => cases h
  | succ fuel ih =>
    unfold stdin_decode_loop at h
    cases hnext : nextLen s.is_json s.sk.recvbuf.readable with
    | none =>
      rw [stdin_decode_frame_none hok hnext, Except.ok_bind] at h
      cases h
      exact hlast
    | some n =>
      simp only [InputFits, hnext] at hfits
      have hbounds := nextLen_bounds hnext
      rw [hok.length_readable_eq] at hbounds
      have hsaved := savedInput_ok hok hbounds.2 hlast
      by_cases hroom : skb_wrsz wssk.sendbuf < frameLen n
      · rw [stdin_decode_frame_waits hok hkeeps hwssk hnext hroom, Except.ok_bind] at h
        cases h
        exact hsaved
      · obtain ⟨hfull, hfits⟩ := hfits.resolve_left hroom
        obtain ⟨hlen, hframe, hmasked⟩ := stdin_decode_frame_moves hok hsend hkeeps hwssk hnext hfull rfl
        rw [hframe, Except.ok_bind] at h
        have hforward := hok.rd_forward hbounds.2
        have hput : ((Frame.text _ hlen).masked DATA_KEY).length ≤ skb_wrsz wssk.sendbuf := by rwa [hmasked]
        refine @ih (k + 1) { s with
            last_input := savedInput s n
            sk := { s.sk with recvbuf := skb_compact (skb_rd_forward s.sk.recvbuf n) }
            wssk := some { wssk with sendbuf := skb_put wssk.sendbuf ((Frame.text _ hlen).masked DATA_KEY) } }
          { wssk with sendbuf := skb_put wssk.sendbuf ((Frame.text _ hlen).masked DATA_KEY) } hforward.compact
          (hsend.put hput) (fun hrepeat => (isSome_savedInput s n).trans (hkeeps hrepeat)) rfl hsaved ?_ h
        rw [hforward.readable_compact, hok.readable_rd_forward hbounds.2, hsend.wrsz_put hput, hmasked]
        exact hfits

/-- What is kept for repeating is in order behind a read of the standard input. -/
theorem wscat.post_stdin_last {opt : Options} {c c' : Wscat} {sk wssk : Sk} {rv : Int} (hwssk : c.wssk = some wssk)
    (hok : sk.recvbuf.Ok) (hsend : wssk.sendbuf.Ok) (hkeeps : 0 < c.repeat_last_num → c.last_input.isSome = true)
    (hlast : ∀ li, c.last_input = some li → li.Ok) (hclose : sk.close = false) (hwrite : sk.close_on_write = false)
    (hfits : InputFits opt.is_json (sk.recvbuf.readable.length + 1) (skb_wrsz wssk.sendbuf) sk.recvbuf.readable)
    (h : wscat.post_stdin opt c sk = .ok (rv, c')) : ∀ li, c'.last_input = some li → li.Ok := by
  obtain ⟨-, rfl, -⟩ | ⟨s, hrecv, rfl⟩ := wscat.post_stdin_inv h
  · exact hlast
  · unfold stdin_recv at hrecv
    obtain ⟨_, -, hrecv⟩ := Except.bind_eq_ok_iff.mp hrecv
    have hsome : (c.stdin opt sk).wssk = some wssk := hwssk
    rw [hsome, if_neg (by simp)] at hrecv
    obtain ⟨⟨rv1, frames, s1⟩, hloop, hret⟩ := Except.bind_eq_ok_iff.mp hrecv
    have hkept := stdin_decode_loop_kept hloop
    obtain ⟨recvbuf, hsk⟩ := hkept.sk
    simp only at hret
    rw [stdin_recv_leave_eq (by rw [hsk]; exact hclose) (by rw [hsk]; exact hwrite)] at hret
    cases hret
    have hfuel : skb_rdsz (c.stdin opt sk).sk.recvbuf + 1 = sk.recvbuf.readable.length + 1 := by
      rw [hok.length_readable_eq]
      rfl
    rw [hfuel] at hloop
    exact @stdin_decode_loop_last _ 0 _ (c.stdin opt sk) _ _ _ hok hsend hkeeps hsome hlast hfits hloop

section Gone

variable {s s' : Stdin} {rv : Int} {fuel : Nat}

/-- Without a websocket the handler of the standard input returns only where it has nothing to send. -/
theorem stdin_decode_frame_gone (hgone : s.wssk = none) (h : stdin_decode_frame s = .ok (rv, s')) :
    s'.wssk = none ∧ s'.last_input = s.last_input := by
  unfold stdin_decode_frame at h
  by_cases hempty : skb_rdsz s.sk.recvbuf = 0
  · rw [if_pos hempty] at h
    cases h
    exact ⟨hgone, rfl⟩
  rw [if_neg hempty] at h
  cases hlen : stdin_payload_len s with
  | none =>
    rw [hlen] at h
    cases h
    exact ⟨hgone, rfl⟩
  | some payload_len =>
    rw [hlen] at h
    obtain ⟨s1, hsave, hencode⟩ := Except.bind_eq_ok_iff.mp h
    obtain ⟨last_input, rfl⟩ := save_last_input_inv hsave
    simp only [wssk_ws_encode_frame, hgone] at hencode
    cases hencode

theorem repeat_loop_gone (hgone : s.wssk = none) (h : repeat_loop fuel s = .ok (rv, s')) :
    s'.wssk = none ∧ s'.last_input = s.last_input := by
  induction fuel generalizing s with
  | zero => cases h
  | succ fuel ih =>
    rw [repeat_loop] at h
    split at h
    · cases h
      exact ⟨hgone, rfl⟩
    split at h
    · cases h
    split at h
    · cases h
      exact ⟨hgone, rfl⟩
    rename_i li hlast hroom
    obtain ⟨⟨rv1, s1⟩, hframe, h⟩ := Except.bind_eq_ok_iff.mp h
    have hkept := stdin_decode_frame_gone (by exact hgone) hframe
    simp only at h hkept
    split at h <;> split at h <;>
      exact (ih (by exact hkept.1) h).imp_right fun hlast => hlast.trans hkept.2

end Gone

section Utter

variable {wssk wssk' : Sk} {fs : List (Frame × UInt32)}

/-- Frames have been put into the websocket's send buffer in order. -/
structure InTurn (wssk : Sk) (frames : List (Frame × UInt32)) (wssk' : Sk) : Prop where
  puts : Puts wssk frames wssk'
  order : Ordered wssk frames wssk'

/-- Frames which were put into the websocket's send buffer are in order, or are text frames
    behind the beginning of the closing. -/
structure Utters (wssk : Sk) (frames : List (Frame × UInt32)) (wssk' : Sk) : Prop where
  puts : Puts wssk frames wssk'
  order : Ordered wssk frames wssk' ∨ Begun wssk ∧ Begun wssk' ∧ ∀ f ∈ frames, f.1.opcode = WS_TEXT_FRAME

theorem InTurn.utters (h : InTurn wssk fs wssk') : Utters wssk fs wssk' :=
  ⟨h.puts, .inl h.order⟩

theorem noClose_of_text {f : Frame × UInt32} (h : f.1.opcode = WS_TEXT_FRAME) : NoClose f := by
  rw [NoClose, h]
  decide

/-- Text frames may be put before the closing has begun. -/
theorem Fed.ordered (h : Fed wssk fs wssk') (hopen : ¬ Begun wssk) : ¬ Begun wssk' ∧ Ordered wssk fs wssk' := by
  obtain ⟨sendbuf, events, rfl⟩ := h.sk
  have hall : ∀ f ∈ fs, NoClose f := fun f hf => noClose_of_text (h.text f hf)
  exact ⟨hopen, fun hbegun => absurd hbegun hopen, List.pairwise_of_forall_mem_list fun f hf _ _ => hall f hf, fun _ => hall⟩

theorem Fed.utters (h : Fed wssk fs wssk') : Utters wssk fs wssk' := by
  by_cases hbegun : Begun wssk
  · refine ⟨h.puts, .inr ⟨hbegun, ?_, h.text⟩⟩
    obtain ⟨sendbuf, events, rfl⟩ := h.sk
    exact hbegun
  · exact ⟨h.puts, .inl (h.ordered hbegun).2⟩

theorem Fed.steady (h : Fed wssk fs wssk') (hsteady : wscat.Steady wssk) : wscat.Steady wssk' := by
  obtain ⟨sendbuf, events, rfl⟩ := h.sk
  exact hsteady

end Utter

namespace wscat

variable {opt : Options} {read : ReadResult} {write : WriteResult} {now : Timespec} {events : EpollEvents}
  {c c' : Wscat} {wssk : Sk}

/-- The input which is kept for repeating. -/
def lastInput (c : Wscat) : List UInt8 :=
  (c.last_input.map fun li => li.readable).getD []

/-- No frame of a call of `repeat_last` is written over the end of the send buffer. -/
def RepeatContained (opt : Options) (c : Wscat) : Prop :=
  0 < c.repeat_last_num →
    RoundsFit opt.is_json (repeat_fuel c) c.repeat_last_num.toNat (room c) [] (lastInput c)

instance (opt : Options) (c : Wscat) : Decidable (RepeatContained opt c) :=
  inferInstanceAs (Decidable (_ → _))

/-- What holds of the websocket and of the kept input as long as no memory is overwritten. -/
structure Stored (c : Wscat) : Prop where
  wssk : ∀ wssk, c.wssk = some wssk → wssk.sendbuf.Ok ∧ Steady wssk
  last : ∀ li, c.last_input = some li → li.Ok
  keeps : 0 < c.repeat_last_num → c.last_input.isSome = true

/-- What holds of the program's memory between two steps as long as none is overwritten. -/
structure Sound (c : Wscat) : Prop extends Stored c where
  http : c.recv = .wssk_http_recv → c.fdin = none
  fdin : ∀ sk, c.fdin = some sk → sk.recvbuf.Ok ∧ sk.close = false ∧ sk.close_on_write = false

/-- What a part of a step makes of the program, in which the websocket utters frames and the
    standard input stays what it is. -/
structure Turns (U : Sk → List (Frame × UInt32) → Sk → Prop) (c c' : Wscat) : Prop where
  recv : c'.recv = c.recv
  fdin : c'.fdin = c.fdin
  keeps : 0 < c'.repeat_last_num → c'.last_input.isSome = true
  last : ∀ li, c'.last_input = some li → li.Ok
  utters : ∀ wssk', c'.wssk = some wssk' → ∃ wssk frames, c.wssk = some wssk ∧ wssk'.sendbuf.Ok ∧ Steady wssk' ∧
    U wssk frames wssk'

variable {U : Sk → List (Frame × UInt32) → Sk → Prop}

theorem Turns.stored (h : Turns U c c') : Stored c' := by
  refine ⟨fun wssk hwssk => ?_, h.last, h.keeps⟩
  obtain ⟨_, _, -, hok, hsteady, -⟩ := h.utters wssk hwssk
  exact ⟨hok, hsteady⟩

theorem Turns.sound (h : Turns U c c') (hsound : Sound c) : Sound c' :=
  ⟨h.stored, fun hhttp => h.fdin.trans (hsound.http (h.recv.symm.trans hhttp)),
    fun sk hsk => hsound.fdin sk (h.fdin.symm.trans hsk)⟩

theorem Turns.mono (h : Turns InTurn c c') : Turns Utters c c' := by
  refine ⟨h.recv, h.fdin, h.keeps, h.last, fun wssk' hwssk' => ?_⟩
  obtain ⟨wssk, frames, hwssk, hok, hsteady, hturn⟩ := h.utters wssk' hwssk'
  exact ⟨wssk, frames, hwssk, hok, hsteady, hturn.utters⟩

theorem Turns.trans {c1 : Wscat} (h : Turns InTurn c c1) (h' : Turns InTurn c1 c') : Turns InTurn c c' := by
  refine ⟨h'.recv.trans h.recv, h'.fdin.trans h.fdin, h'.keeps, h'.last, fun wssk' hwssk' => ?_⟩
  obtain ⟨wssk1, frames', hwssk1, hok, hsteady, hturn'⟩ := h'.utters wssk' hwssk'
  obtain ⟨wssk, frames, hwssk, -, -, hturn⟩ := h.utters wssk1 hwssk1
  exact ⟨wssk, _, hwssk, hok, hsteady, hturn.puts.trans hturn'.puts, hturn.order.trans hturn'.order⟩

/-- A call of `repeat_last` feeds the websocket, if it is open. -/
theorem repeat_last_fed (hstored : Stored c) (hnum : 0 < c.repeat_last_num) (hfits : RepeatContained opt c)
    (h : repeat_last opt c = .ok c') : c'.recv = c.recv ∧ c'.fdin = c.fdin ∧ c'.last_input.isSome = true ∧
      (∀ li, c'.last_input = some li → li.Ok) ∧
      ∀ wssk', c'.wssk = some wssk' → ∃ wssk frames, c.wssk = some wssk ∧ Fed wssk frames wssk' := by
  obtain ⟨li, hlast⟩ := Option.isSome_iff_exists.mp (hstored.keeps hnum)
  have hli := hstored.last li hlast
  unfold repeat_last at h
  split at h
  · rename_i hnone
    cases hlast.symm.trans hnone
  rename_i li' hsome
  cases hlast.symm.trans hsome
  by_cases hempty : skb_rdsz li = 0
  · rw [if_pos hempty] at h
    cases h
    refine ⟨rfl, rfl, hstored.keeps hnum, hstored.last, fun wssk' hwssk' => ⟨wssk', [], hwssk', .refl wssk'⟩⟩
  rw [if_neg hempty] at h
  obtain ⟨⟨rv, s⟩, hloop, hret⟩ := Except.bind_eq_ok_iff.mp h
  cases hret
  cases hwssk : c.wssk with
  | none =>
    obtain ⟨hgone, hkept⟩ := @repeat_loop_gone (c.stdin opt (sk_init (-1) 0)) _ _ _ hwssk hloop
    have hlast' : s.last_input = c.last_input := hkept
    refine ⟨rfl, rfl, ?_, fun li' hli' => hstored.last li' (hlast'.symm.trans hli'), fun wssk' hwssk' => ?_⟩
    · exact (congrArg Option.isSome hlast').trans (hstored.keeps hnum)
    · cases hgone.symm.trans hwssk'
  | some wssk =>
    have hroom : room c = skb_wrsz wssk.sendbuf := by
      rw [room, hwssk]
      rfl
    have hinput : lastInput c = li.readable := by
      rw [lastInput, hlast]
      rfl
    have hrounds := hfits hnum
    rw [hroom, hinput] at hrounds
    have hstart : Looping (c.stdin opt (sk_init (-1) 0)) wssk [] li.readable :=
      ⟨hwssk, (hstored.wssk wssk hwssk).1, Skb.ok_zero, Skb.readable_zero, Skb.wrsz_zero, li, hlast, hli, rfl⟩
    obtain ⟨wssk', frames, input', hfed, hget, li', hlast', hli', -⟩ :=
      repeat_loop_fed hstart (Int.toNat_of_nonneg (Int.le_of_lt hnum)).symm hrounds hloop
    refine ⟨rfl, rfl, ?_, fun li1 hli1 => ?_, fun wssk1 hwssk1 => ?_⟩
    · exact congrArg Option.isSome hlast'
    · cases hlast'.symm.trans hli1
      exact hli'
    · cases hget.symm.trans hwssk1
      exact ⟨wssk, frames, rfl, hfed⟩

theorem not_begun_of_steady (hsteady : Steady wssk) (hclosing : wssk.closing = false) : ¬ Begun wssk := by
  rintro (hbegun | hbegun | hbegun)
  · rw [hclosing] at hbegun
    cases hbegun
  · rw [hsteady.1] at hbegun
    cases hbegun
  · have hset := hsteady.2 hbegun
    rw [hclosing] at hset
    cases hset

/-- A closing handshake is started only before the closing has begun. -/
theorem start_turns (hsteady : ∀ wssk, c.wssk = some wssk → Steady wssk) (h : wssk_ws_start_closing_handshake c = .ok c') :
    Times c c' ∧ c'.last_input = c.last_input ∧ c'.repeat_last_num = c.repeat_last_num := by
  obtain ⟨sk, rv, sk1, e, hsk, hstart, hc⟩ := wssk_ws_start_closing_handshake_inv h
  have hclosing : sk.closing = false := by
    cases hfn : sk.proto.start_closing_handshake with
    | none =>
      rw [hfn] at hstart
      cases hstart
    | some fn =>
      rw [hfn] at hstart
      cases fn
      exact (ws_start_closing_handshake_inv hstart).1
  refine ⟨wssk_ws_start_closing_handshake_times (fun sk' hsk' => ?_) h, by rw [hc], by rw [hc]⟩
  cases hsk.symm.trans hsk'
  exact not_begun_of_steady (hsteady sk hsk) hclosing

theorem Times.turns (h : Times c c') (hstored : Stored c) (hlast : c'.last_input = c.last_input)
    (hnum : c'.repeat_last_num = c.repeat_last_num) : Turns InTurn c c' where
  recv := h.session.1
  fdin := h.session.2.1
  keeps := by
    rw [hnum, hlast]
    exact hstored.keeps
  last := by
    rw [hlast]
    exact hstored.last
  utters wssk' hwssk' := by
    have hsome : c.wssk.isSome = true := by
      have hsame := h.session.2.2
      rw [hwssk'] at hsame
      exact hsame.symm
    obtain ⟨wssk, hwssk⟩ := Option.isSome_iff_exists.mp hsome
    obtain ⟨⟨frames, hspeaks⟩, hsteady⟩ := h.speaks wssk wssk' hwssk hwssk'
    obtain ⟨hok, hset⟩ := hstored.wssk wssk hwssk
    exact ⟨wssk, frames, hwssk, (hspeaks.puts hok).1, hsteady hset, hspeaks.puts, hspeaks.order⟩

/-- The end of the standard input starts the closing, repeats input or does nothing. -/
theorem stdin_close_turns (hstored : Stored c) (hfits : RepeatContained opt c) (h : stdin_close opt c = .ok c') :
    ∃ c1, Turns Utters c c1 ∧ c' = { c1 with fdin := none } := by
  have hsame : Turns Utters c c := ((Times.refl c).turns hstored rfl rfl).mono
  unfold stdin_close at h
  split at h
  · split at h
    · obtain ⟨c1, hclose, hret⟩ := Except.bind_eq_ok_iff.mp h
      cases hret
      obtain ⟨htimes, hlast, hnum⟩ := start_turns (fun wssk hwssk => (hstored.wssk wssk hwssk).2) hclose
      exact ⟨c1, (htimes.turns hstored hlast hnum).mono, rfl⟩
    · cases h
      exact ⟨c, hsame, rfl⟩
  split at h
  · rename_i hnum
    obtain ⟨c1, hclose, hret⟩ := Except.bind_eq_ok_iff.mp h
    cases hret
    obtain ⟨hrecv, hfdin, hkeeps, hlast, hfed⟩ :=
      @repeat_last_fed opt { c with repeat_last_armed := true } c1 ⟨hstored.1, hstored.2, hstored.3⟩ hnum
        hfits hclose
    refine ⟨c1, ⟨hrecv, hfdin, fun _ => hkeeps, hlast, fun wssk' hwssk' => ?_⟩, rfl⟩
    obtain ⟨wssk, frames, hwssk, hframes⟩ := hfed wssk' hwssk'
    obtain ⟨hok, hsteady⟩ := hstored.wssk wssk hwssk
    exact ⟨wssk, frames, hwssk, (hframes.puts hok).1, hframes.steady hsteady, hframes.utters⟩
  · cases h
    exact ⟨c, hsame, rfl⟩

end wscat

end wsd

import Wsd.Wscat.Talk

namespace wsd

namespace wscat

variable {opt : Options} {read : ReadResult} {write : WriteResult} {now : Timespec} {events : EpollEvents}
  {c c' : Wscat} {sk sk' : Sk}

/-- Between two steps a socket whose closing has begun waits for the other side's close frame. -/
def Steady (sk : Sk) : Prop :=
  sk.close = false ∧ (sk.close_on_write = true → sk.closing = true)

theorem Steady.of_flags (h : Steady sk) (hclosing : sk'.closing = sk.closing) (hclose : sk'.close = sk.close)
    (hwrite : sk'.close_on_write = sk.close_on_write) : Steady sk' := by
  unfold Steady
  rw [hclosing, hclose, hwrite]
  exact h

theorem steady_of_receiving (h : Receiving sk) (hclose : sk.close = false) : Steady sk := by
  refine ⟨hclose, fun hwrite => ?_⟩
  obtain hclosing | ⟨-, hopen⟩ | ⟨hclosed, -⟩ := h
  · exact hclosing
  · rw [hopen] at hwrite
    cases hwrite
  · rw [hclose] at hclosed
    cases hclosed

/-- What has become of the response and of the standard input. -/
def SameSession (c c' : Wscat) : Prop :=
  c'.recv = c.recv ∧ c'.fdin = c.fdin ∨
    c.recv = .wssk_http_recv ∧ c'.recv = .wssk_ws_recv ∧ c'.fdin = some (sk_init 0 0)

/-- What the websocket says in a step other than a write, and that it says nothing before
    the response has been processed. -/
structure Replies (c : Wscat) (sk : Sk) (c' : Wscat) (sk' : Sk) : Prop where
  speaks : ∃ frames, Speaks sk frames sk' ∧ (c.recv = .wssk_http_recv → frames = [])
  steady : Steady sk → Steady sk'

/-- What the handlers of the websocket's bytes do. -/
theorem recv_wssk_replies {rv : Int} {c1 : Wscat} (hclose : sk.close = false) (hwrite : sk.close_on_write = false)
    (hget : c.wssk = some sk) (h : wscat.post_read opt c sk = .ok (rv, c1)) (hget1 : c1.wssk = some sk')
    (hclose' : sk'.close = false) : SameSession c c1 ∧ Replies c sk c1 sk' := by
  have hsame {sk2 : Sk} (hsk : sk' = sk2) (hsend : sk2.sendbuf = sk.sendbuf) (hclosing : sk2.closing = sk.closing)
      (hclose2 : sk2.close = sk.close) (hwrite2 : sk2.close_on_write = sk.close_on_write) : Replies c sk c1 sk' := by
    subst hsk
    exact ⟨⟨[], .quiet hsend hclosing hclose2 hwrite2, fun _ => rfl⟩, fun h => h.of_flags hclosing hclose2 hwrite2⟩
  obtain ⟨-, rfl, -⟩ | ⟨hhttp, h⟩ | ⟨hws, w, hrecv, rfl⟩ := post_read_inv h
  · cases hget.symm.trans hget1
    exact ⟨.inl ⟨rfl, rfl⟩, hsame rfl rfl rfl rfl rfl⟩
  · obtain ⟨-, rfl⟩ | ⟨prev, ⟨-, rfl⟩ | ⟨e, -, -, rfl⟩⟩ := wssk_http_recv_inv h
    · cases hget.symm.trans hget1
      exact ⟨.inl ⟨rfl, rfl⟩, hsame rfl rfl rfl rfl rfl⟩
    · cases hget1
      exact ⟨.inl ⟨rfl, rfl⟩, hsame rfl rfl rfl rfl rfl⟩
    · cases hget1
      exact ⟨.inr ⟨hhttp, rfl, rfl⟩, hsame rfl rfl rfl rfl rfl⟩
  · cases hget1
    obtain ⟨hreceiving, said, hspeaks⟩ := wssk_ws_recv_speaks hclose hwrite hrecv
    refine ⟨.inl ⟨rfl, rfl⟩, ⟨said, hspeaks, fun hhttp => ?_⟩, fun _ => steady_of_receiving hreceiving hclose'⟩
    rw [hws] at hhttp
    cases hhttp

/-- An event on the websocket, after which it is still open, is a write or makes it reply. -/
theorem on_event_wssk_replies (h : OnEvent opt read write now c .wssk events c') (hget' : c'.wssk = some sk') :
    ∃ sk, c.wssk = some sk ∧ SameSession c c' ∧
      ((Readable events ∨ events.EPOLLOUT = false) ∧ Replies c sk c' sk' ∨
        ¬ Readable events ∧ events.EPOLLOUT = true ∧ ∃ rv sk1 wsd_errno,
          sk_write write sk c.wsd_errno = (rv, sk1, wsd_errno) ∧ sk' = { sk1 with ts_last_io := now }) := by
  cases h with
  | read sk c' hevents hget hwrite hclose hread =>
    refine ⟨sk, hget, ?_⟩
    cases hread with
    | failed rv sk1 e c' hsk hrv herrno hleft =>
      cases hleft
      cases hget'
    | refused rv rv1 sk1 e c1 c' hsk hrv hrecv hrefused hleft =>
      cases hleft
      cases hget'
    | received rv rv1 sk1 e c1 c' sk2 hsk hrv hrecv hrefused hget2 hleft =>
      cases hclose2 : sk2.close with
      | true =>
        rw [hclose2, if_pos rfl] at hleft
        cases hleft
        cases hget'
      | false =>
        rw [hclose2, if_neg (by decide)] at hleft
        cases hleft
        cases hget2.symm.trans hget'
        obtain ⟨hclose1, hwrite1, hclosing1⟩ := sk_read_flags hsk
        obtain ⟨hsame, hreplies⟩ := @recv_wssk_replies opt (c.noted .wssk sk1 now e) { sk1 with ts_last_io := now } sk'
          rv1 c' (hclose1.trans hclose) (hwrite1.trans hwrite) rfl hrecv hget' hclose2
        have hsend : sk1.sendbuf = sk.sendbuf := by
          obtain ⟨_, -, -, -, -, rfl⟩ | ⟨-, -, rfl⟩ | ⟨-, -, rfl, -⟩ := sk_read_cases hsk <;> rfl
        obtain ⟨⟨frames, hspeaks, hhttp⟩, hsteady⟩ := hreplies
        have hquiet : Speaks sk [] { sk1 with ts_last_io := now } := .quiet hsend hclosing1 hclose1 hwrite1
        refine ⟨hsame, .inl ⟨.inl hevents, ⟨frames, hquiet.trans hspeaks, hhttp⟩, fun hsk => ?_⟩⟩
        exact hsteady (hsk.of_flags hclosing1 hclose1 hwrite1)
  | write sk rv sk1 e c' hevents hout hget hwrite hleft =>
    refine ⟨sk, hget, ?_⟩
    obtain hleft | rfl := hleft
    · cases hleft
      cases hget'
    · cases hget'
      exact ⟨.inl ⟨rfl, rfl⟩, .inr ⟨hevents, hout, rv, sk1, e, hwrite, rfl⟩⟩
  | hangup c' hevents hout hopen hleft =>
    cases hleft
    cases hget'
  | nothing hevents hout hopen =>
    exact ⟨sk', hget', .inl ⟨rfl, rfl⟩, .inl ⟨.inr hout, ⟨[], .quiet rfl rfl rfl rfl, fun _ => rfl⟩, id⟩⟩

/-- An event on the websocket opens the standard input or leaves it alone. -/
theorem on_event_wssk_session (h : OnEvent opt read write now c .wssk events c') : SameSession c c' := by
  have hrecv {c0 c1 : Wscat} {sk1 : Sk} {rv : Int} (h : wscat.post_read opt c0 sk1 = .ok (rv, c1)) :
      SameSession c0 c1 := by
    obtain ⟨-, rfl, -⟩ | ⟨hhttp, h⟩ | ⟨-, w, -, rfl⟩ := post_read_inv h
    · exact .inl ⟨rfl, rfl⟩
    · obtain ⟨-, rfl⟩ | ⟨prev, ⟨-, rfl⟩ | ⟨e, -, -, rfl⟩⟩ := wssk_http_recv_inv h
      · exact .inl ⟨rfl, rfl⟩
      · exact .inl ⟨rfl, rfl⟩
      · exact .inr ⟨hhttp, rfl, rfl⟩
    · exact .inl ⟨rfl, rfl⟩
  cases h with
  | read sk c' hevents hget hwrite hclose hread =>
    cases hread with
    | failed rv sk1 e c' hsk hrv herrno hleft =>
      cases hleft
      exact .inl ⟨rfl, rfl⟩
    | refused rv rv1 sk1 e c1 c' hsk hrv hpost hrefused hleft =>
      cases hleft
      have hsame := hrecv hpost
      exact hsame
    | received rv rv1 sk1 e c1 c' sk2 hsk hrv hpost hrefused hget2 hleft =>
      have hsame := hrecv hpost
      split at hleft
      · cases hleft
        exact hsame
      · cases hleft
        exact hsame
  | write sk rv sk1 e c' hevents hout hget hwrite hleft =>
    obtain hleft | rfl := hleft
    · cases hleft
      exact .inl ⟨rfl, rfl⟩
    · exact .inl ⟨rfl, rfl⟩
  | hangup c' hevents hout hopen hleft =>
    cases hleft
    exact .inl ⟨rfl, rfl⟩
  | nothing hevents hout hopen => exact .inl ⟨rfl, rfl⟩

/-- What a timer makes the websocket say. -/
structure Times (c : Wscat) (c' : Wscat) : Prop where
  session : c'.recv = c.recv ∧ c'.fdin = c.fdin ∧ c'.wssk.isSome = c.wssk.isSome
  speaks : ∀ sk sk', c.wssk = some sk → c'.wssk = some sk' →
    (∃ frames, Speaks sk frames sk') ∧ (Steady sk → Steady sk')

theorem Times.refl (c : Wscat) : Times c c := by
  refine ⟨⟨rfl, rfl, rfl⟩, fun sk sk' hsk hsk' => ?_⟩
  cases hsk.symm.trans hsk'
  exact ⟨⟨[], .quiet rfl rfl rfl rfl⟩, id⟩

theorem Times.trans {c1 : Wscat} (h : Times c c1) (h' : Times c1 c') : Times c c' := by
  refine ⟨⟨h'.session.1.trans h.session.1, h'.session.2.1.trans h.session.2.1,
    h'.session.2.2.trans h.session.2.2⟩, fun sk sk' hsk hsk' => ?_⟩
  have hsome : c1.wssk.isSome = true := by
    rw [h.session.2.2, hsk]
    rfl
  obtain ⟨sk1, hsk1⟩ := Option.isSome_iff_exists.mp hsome
  obtain ⟨⟨frames, hspeaks⟩, hsteady⟩ := h.speaks sk sk1 hsk hsk1
  obtain ⟨⟨frames', hspeaks'⟩, hsteady'⟩ := h'.speaks sk1 sk' hsk1 hsk'
  exact ⟨⟨_, hspeaks.trans hspeaks'⟩, fun hsk => hsteady' (hsteady hsk)⟩

theorem not_begun_of_timeout {timeout : Int} (h : wsd.check_timeout sk now timeout = true) : ¬ Begun sk := by
  obtain ⟨hclosing, hclose, hwrite⟩ := check_timeout_flags h
  simp [Begun, hclosing, hclose, hwrite]

theorem ping_timeout_times (h : ping_timeout opt now c = .ok c') : Times c c' := by
  obtain ⟨sk, hsk, ⟨htimeout, h⟩ | ⟨-, rfl⟩⟩ := ping_timeout_inv h
  · obtain ⟨sk1, hsk1, rfl | ⟨rv, sk2, e, hping, rfl⟩⟩ := wssk_ws_ping_inv h
    · exact .refl _
    · cases hsk.symm.trans hsk1
      obtain ⟨hspeaks, hclosing, hclose, hwrite, -, -⟩ := ws_ping_speaks (not_begun_of_timeout htimeout) hping
      refine ⟨⟨rfl, rfl, by rw [hsk]; rfl⟩, fun sk' sk2' hsk' hsk2' => ?_⟩
      cases hsk.symm.trans hsk'
      cases hsk2'
      exact ⟨hspeaks, fun h => h.of_flags hclosing hclose hwrite⟩
  · exact .refl _

theorem wssk_ws_start_closing_handshake_times (hopen : ∀ sk, c.wssk = some sk → ¬ Begun sk)
    (h : wssk_ws_start_closing_handshake c = .ok c') : Times c c' := by
  obtain ⟨sk, rv, sk1, e, hsk, hstart, rfl⟩ := wssk_ws_start_closing_handshake_inv h
  obtain ⟨hspeaks, hclose, hwrite, -⟩ := start_closing_handshake_speaks (hopen sk hsk) hstart
  refine ⟨⟨rfl, rfl, by rw [hsk]; rfl⟩, fun sk' sk1' hsk' hsk1' => ?_⟩
  cases hsk.symm.trans hsk'
  cases hsk1'
  refine ⟨hspeaks, fun hsteady => ⟨hclose.trans hsteady.1, fun hset => ?_⟩⟩
  rw [hwrite] at hset
  exact absurd (.inr (.inr hset)) (hopen sk hsk)

theorem idle_timeout_times (h : idle_timeout opt now c = .ok c') : Times c c' := by
  obtain ⟨sk, hsk, ⟨htimeout, -, h⟩ | rfl⟩ := idle_timeout_inv h
  · refine wssk_ws_start_closing_handshake_times (fun sk' hsk' => ?_) h
    cases hsk.symm.trans hsk'
    exact not_begun_of_timeout htimeout
  · exact .refl _

end wscat

end wsd

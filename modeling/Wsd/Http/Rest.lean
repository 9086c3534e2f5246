import Wsd.Http.Sound
import Wsd.Wscat.World

namespace wsd

/-- The bytes end with the first two line ends in a row. -/
def EndsHead (head : List UInt8) : Prop :=
  [CR, LF, CR, LF] <:+ head ∧ ∀ k, k < head.length - 4 → ¬ [CR, LF, CR, LF] <+: head.drop k

instance (head : List UInt8) : Decidable (EndsHead head) :=
  inferInstanceAs (Decidable (_ ∧ _))

/-- An accepted request empties the receive buffer. -/
theorem http_recv_drained {cfg : Config} {ssl : Openssl} {sk sk' : Sk} {st st' : Statics} {wsd_errno : Errno}
    (h : http_recv cfg ssl sk st = .ok (0, sk', st', wsd_errno)) : sk'.recvbuf.readable = [] := by
  obtain ⟨hneg, -⟩ | hfailed | hdone := http_recv_cases h
  · cases hneg
  · cases hfailed.rv_eq
  · exact hdone.recvbuf_ok.readable_eq_nil_iff.mpr hdone.rdsz_eq

/-- So does an accepted response. -/
theorem wssk_http_recv_drained {c c' : Wscat} {sk : Sk} (h : wssk_http_recv c sk = .ok (0, c')) :
    ∃ sk', c'.wssk = some sk' ∧ sk'.recvbuf.readable = [] := by
  unfold wssk_http_recv at h
  by_cases hrnrn : (!has_rnrn_termination sk.recvbuf) = true
  · rw [if_pos hrnrn] at h
    cases h
  rw [if_neg hrnrn] at h
  obtain ⟨⟨rv, tok, prev, e⟩, -, h⟩ := Except.bind_eq_ok_iff.mp h
  by_cases hrv : rv < 0
  · simp only [if_pos hrv] at h
    cases h
  simp only [if_neg hrv] at h
  obtain ⟨⟨parsed, hreq, prev, e⟩, -, h⟩ := Except.bind_eq_ok_iff.mp h
  cases parsed with
  | false => cases h
  | true =>
    cases h
    exact ⟨_, rfl, Skb.readable_reset _⟩

/-- After a handshake whose message is read along with further bytes, these are what is readable if
    and only if there are none. -/
theorem handshake_rest_iff (head rest : List UInt8) :
    (∀ (cfg : Config) (ssl : Openssl) (sk sk' : Sk) (st st' : Statics) (wsd_errno : Errno),
      sk.recvbuf.readable = head ++ rest → http_recv cfg ssl sk st = .ok (0, sk', st', wsd_errno) →
        (sk'.recvbuf.readable = rest ↔ rest = [])) ∧
    ∀ (c c' : Wscat) (sk : Sk), sk.recvbuf.readable = head ++ rest → wssk_http_recv c sk = .ok (0, c') →
      ∃ sk', c'.wssk = some sk' ∧ (sk'.recvbuf.readable = rest ↔ rest = []) := by
  constructor
  · intro cfg ssl sk sk' st st' e _ h
    rw [http_recv_drained h]
    exact eq_comm
  · intro c c' sk _ h
    obtain ⟨sk', hsk, hdrained⟩ := wssk_http_recv_drained h
    refine ⟨sk', hsk, ?_⟩
    rw [hdrained]
    exact eq_comm

namespace Sample

/-- A server's response. -/
def switching : List UInt8 :=
  ascii "HTTP/1.1 101 Switching Protocols\r\nUpgrade: websocket\r\n\r\n"

/-- A text frame of one byte. -/
def greeting : List UInt8 := [129, 1, 97]

/-- The websocket's socket after one read. -/
def answered (bytes : List UInt8) : Sk :=
  { sk_init 5 0 with recvbuf := Skb.ofBytes bytes }

/-- The client while it waits for the response. -/
def upgrading (sk : Sk) : Wscat where
  wssk := some sk
  recv := .wssk_http_recv
  fdin := none
  last_input := none
  repeat_last_num := -1
  repeat_last_armed := false
  http_header_tok := none
  stdout := { printed := [], broken := false }
  wsd_errno := .WSD_CHECKERRNO
  done := false

end Sample

theorem handshake_rest_iff_sample :
    (∃ sk' st' e, http_recv Sample.cfg Sample.digest Sample.chatting {} = .ok (0, sk', st', e) ∧
      sk'.recvbuf.readable = []) ∧
    ∃ c' sk', wssk_http_recv (Sample.upgrading (Sample.answered Sample.switching)) (Sample.answered Sample.switching) =
      .ok (0, c') ∧ c'.wssk = some sk' ∧ sk'.recvbuf.readable = [] := by
  constructor
  · obtain ⟨⟨sk', st', e⟩, hrecv⟩ := Sample.chatting_accepted
    have hrest := (handshake_rest_iff Sample.chatting.recvbuf.readable []).1 Sample.cfg Sample.digest Sample.chatting sk'
      {} st' e (List.append_nil _).symm hrecv
    exact ⟨sk', st', e, hrecv, hrest.mpr rfl⟩
  · obtain ⟨c', hrecv⟩ := Except.exists_ok_fst (a := 0)
      (x := wssk_http_recv (Sample.upgrading (Sample.answered Sample.switching)) (Sample.answered Sample.switching))
      (by decide +kernel)
    obtain ⟨sk', hsk, hrest⟩ := (handshake_rest_iff (Sample.answered Sample.switching).recvbuf.readable []).2 _ _ _
      (List.append_nil _).symm hrecv
    exact ⟨c', sk', hrecv, hsk, hrest.mpr rfl⟩

/-- A frame which is read along with the response is lost. -/
theorem coalesced_frame_lost :
    ¬ ∀ (head rest : List UInt8) (c c' : Wscat) (sk : Sk), EndsHead head → sk.recvbuf.readable = head ++ rest →
      wssk_http_recv c sk = .ok (0, c') → ∃ sk', c'.wssk = some sk' ∧ sk'.recvbuf.readable = rest := by
  intro hall
  have hread : (Sample.answered (Sample.switching ++ Sample.greeting)).recvbuf.readable =
      Sample.switching ++ Sample.greeting := Skb.readable_ofBytes (by decide)
  obtain ⟨c', hrecv⟩ := Except.exists_ok_fst (a := 0)
    (x := wssk_http_recv (Sample.upgrading (Sample.answered (Sample.switching ++ Sample.greeting)))
      (Sample.answered (Sample.switching ++ Sample.greeting))) (by decide +kernel)
  obtain ⟨sk', hsk, hkept⟩ := hall Sample.switching Sample.greeting _ _ _ (by decide) hread hrecv
  obtain ⟨sk'', hsk', hdrained⟩ := wssk_http_recv_drained hrecv
  rw [hsk] at hsk'
  cases hsk'
  rw [hkept] at hdrained
  cases hdrained

end wsd

import Wsd.Http.Ending
import Wsd.Wschild.Recv

namespace wsd

/-- What is left of an unfinished response is taken back. -/
theorem prepare_handshake_restores {ssl : Openssl} {data : Memory UInt8} {b b' : Skb} {req req' : HttpReq} {rv : Int}
    (h : prepare_handshake ssl data b req = .ok (rv, b', req')) (hrv : rv < 0) : b'.wrpos = b.wrpos := by
  unfold prepare_handshake at h
  by_cases h101 : skb_wrsz b < HTTP_101.length
  · rw [if_pos h101] at h
    cases h
    rfl
  rw [if_neg h101] at h
  by_cases hkey : skb_wrsz (skb_strcpy b HTTP_101) < WS_ACCEPT_KEY_LEN + 2
  · simp only [if_pos hkey] at h
    cases h
    rfl
  simp only [if_neg hkey] at h
  obtain ⟨⟨rv2, b2, req2⟩, -, h⟩ := Except.bind_eq_ok_iff.mp h
  by_cases hver : skb_wrsz b2 < WS_VER.length + FLD_SEC_WS_VER_VAL.length + 2
  · simp only [if_pos hver] at h
    cases h
    rfl
  simp only [if_neg hver] at h
  obtain ⟨proto, -, h⟩ := Except.bind_eq_ok_iff.mp h
  split at h
  · cases h
    rfl
  split at h
  · cases h
    rfl
  · cases h
    exact absurd hrv (by decide)

/-- A client which has been refused without an answer is closed. -/
theorem Dropped.try_recv_result {sk sk' : Sk} {rv : Int} {wsd_errno : Errno} (h : Dropped sk sk' rv wsd_errno) {w : World}
    {id : Nat} (hderef : w.deref id = .ok sk') (herrno : w.wsd_errno = wsd_errno) :
    try_recv_result w id rv = close { w with work_list := w.work_list.erase id } id := by
  have hbad : w.wsd_errno = .WSD_EBADREQ := herrno.trans h.errno_eq
  have hclose := h.close_on_write
  rw [h.rv_eq]
  unfold wsd.try_recv_result
  rw [hderef, hbad]
  simp only [hclose, Except.ok_bind]
  rfl

/-- The outcome of a handshake is all or nothing unless the response to an accepted request fills the send
    buffer to its last byte. A client which has not been answered is closed, and what has been put of a
    response which does not fit is taken back. -/
theorem handshake_all_or_nothing_iff (cfg : Config) (ssl : Openssl) (sk : Sk) (st : Statics) (h : Requesting sk st) :
    (AllOrNothing cfg ssl sk st ↔ ¬ ∃ tok line hreq, Overfills cfg sk st tok line hreq) ∧
    (∀ r, http_recv cfg ssl sk st = .ok r → Ends cfg ssl sk st r .dropped → ∀ (w : World) (id : Nat),
      w.deref id = .ok r.2.1 → w.wsd_errno = r.2.2.2 →
      try_recv_result w id r.1 = close { w with work_list := w.work_list.erase id } id) ∧
    ∀ data b req rv b' req', prepare_handshake ssl data b req = .ok (rv, b', req') → rv < 0 → b'.wrpos = b.wrpos :=
  ⟨h.all_or_nothing_iff, fun _ _ hdropped _ _ => Dropped.try_recv_result hdropped,
    fun _ _ _ _ _ _ => prepare_handshake_restores⟩

/-- Whether every line of a header block contains a colon. -/
def lines_have_colon (data : Memory UInt8) : Nat → Option Nat → Bool
  | 0, _ => false
  | fuel + 1, prev =>
    match http_header_tok data none prev with
    | .error _ => true
    | .ok r => if 0 < r.1 then (r.2.1.bytes data).contains COLON && lines_have_colon data fuel r.2.2.1 else true

theorem HeaderToken.has_colon {data : Memory UInt8} {prev : Option Nat} {tok : Chunk} (h : HeaderToken data prev tok)
    {fuel : Nat} (hlines : lines_have_colon data fuel prev = true) : ¬ tok.NameOnly data := by
  induction h generalizing fuel with
  | @next prev prev' rv tok e htok hrv =>
    cases fuel with
    | zero => cases hlines
    | succ fuel =>
      obtain ⟨start, len, rfl, -⟩ := (HeaderToken.next htok hrv).tokenised
      unfold lines_have_colon at hlines
      rw [htok] at hlines
      simp only [if_pos hrv, Bool.and_eq_true, List.contains_iff_mem] at hlines
      intro hname
      obtain ⟨i, hi, hat⟩ := List.mem_iff_getElem.1 hlines.1
      simp only [Chunk.bytes, Memory.getElem_window, Option.getD_some] at hat
      simp only [Chunk.bytes, Memory.length_window] at hi
      have hclass := hname start rfl i hi
      rw [hat] at hclass
      exact absurd hclass (by decide)
  | @later prev prev' rv first tok e hfirst hrv hlater ih =>
    cases fuel with
    | zero => cases hlines
    | succ fuel =>
      unfold lines_have_colon at hlines
      rw [hfirst] at hlines
      simp only [if_pos hrv, Bool.and_eq_true] at hlines
      exact ih hlines.2

namespace Sample

/-- The complete handshake fits the receive buffer. -/
theorem chatting_received : chatting.recvbuf.Ok ∧ 0 < skb_rdsz chatting.recvbuf := by
  have hlen : 0 < chatting.recvbuf.wrpos ∧ chatting.recvbuf.wrpos ≤ SKB_SIZE := by decide +kernel
  have hrdpos : chatting.recvbuf.rdpos = 0 := rfl
  have hok : chatting.recvbuf.Ok := ⟨hrdpos.trans_le (Nat.zero_le _), hlen.2⟩
  rw [hok.rdsz_eq, hrdpos, Nat.sub_zero]
  exact ⟨hok, hlen.1⟩

/-- The client of the complete handshake, with another send buffer. -/
theorem chatting_requesting {sendbuf : Skb} (hok : sendbuf.Ok) (hroom : http.HTTP_400.length ≤ skb_wrsz sendbuf) :
    Requesting { chatting with sendbuf } {} where
  recvbuf_ok := chatting_received.1
  sendbuf_ok := hok
  rdsz_ne_zero := Nat.ne_of_gt chatting_received.2
  decode_handshake := rfl
  close_on_write := rfl
  room := ⟨http.HTTP_400, by simp [error_responses], hroom⟩
  colon := by
    rintro tok ⟨st, rv, line, prev, e, htok, -, hheader⟩
    obtain ⟨r, hfirst, hlines⟩ := Except.exists_ok
      (x := http_header_tok chatting.recvbuf.data (some chatting.recvbuf.rdpos) none)
      (P := fun r => lines_have_colon chatting.recvbuf.data 16 r.2.2.1 = true) (by decide +kernel)
    have hsame : http_header_tok chatting.recvbuf.data (some chatting.recvbuf.rdpos) none = .ok (rv, line, prev, e) :=
      htok
    rw [hsame] at hfirst
    cases hfirst
    exact hheader.has_colon hlines
  key := by
    intro tok line hreq hparsed key htrim
    obtain ⟨key', hkey, hshort⟩ := Except.exists_ok (x := trimmed_key chatting) (P := fun key => key.len ≤ 27)
      (by decide +kernel)
    have hparsed' : Parsed chatting {} tok line hreq := hparsed
    rw [hparsed'.trimmed_key] at hkey
    have hsame := htrim.symm.trans hkey
    cases hsame
    exact hshort

/-- A send buffer with as much room as the response to the handshake takes. -/
def filled : Skb :=
  { rdpos := 0, wrpos := SKB_SIZE - 186, data := fun _ => 0 }

end Sample

/-- The complete handshake, with an empty send buffer. -/
theorem handshake_all_or_nothing_chat : Requesting Sample.chatting {} ∧
    (AllOrNothing Sample.cfg Sample.digest Sample.chatting {} ↔
      ¬ ∃ tok line hreq, Overfills Sample.cfg Sample.chatting {} tok line hreq) := by
  have hrequesting : Requesting Sample.chatting {} := Sample.chatting_requesting Skb.ok_zero (by decide)
  exact ⟨hrequesting, (handshake_all_or_nothing_iff Sample.cfg Sample.digest Sample.chatting {} hrequesting).1⟩

/-- A response which fills the send buffer ends the process. -/
theorem full_response_aborts : ¬ ∀ (cfg : Config) (ssl : Openssl) (sk : Sk) (st : Statics), Requesting sk st →
    AllOrNothing cfg ssl sk st := by
  intro h
  have hfault : http_recv Sample.cfg Sample.digest { Sample.chatting with sendbuf := Sample.filled } {} =
      .error (.assertion .ws_decode_handshake_sendbuf_wrsz) := Except.eq_error (by decide +kernel)
  obtain ⟨r, hrecv, -⟩ := h Sample.cfg Sample.digest { Sample.chatting with sendbuf := Sample.filled } {}
    (Sample.chatting_requesting ⟨by decide, by decide⟩ (by decide))
  rw [hfault] at hrecv
  cases hrecv

end wsd

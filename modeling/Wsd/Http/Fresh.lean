import Wsd.Http.Recv
import Wsd.TwoRuns

namespace wsd

section Fresh

variable (data : Memory UInt8)

/-- A call with an input does not look at the tokeniser's static pointer. -/
theorem http_header_tok_fresh (s : Nat) (prev prev' : Option Nat) :
    http_header_tok data (some s) prev = http_header_tok data (some s) prev' := by
  unfold http_header_tok
  simp only [Option.isNone_some, Bool.false_eq_true, if_false]

theorem http_field_value_tok_fresh (s : Chunk) (prev prev' : Option Chunk) (wsd_errno : Errno) :
    http_field_value_tok data (some s) prev wsd_errno = http_field_value_tok data (some s) prev' wsd_errno := by
  unfold http_field_value_tok
  simp only [Option.isNone_some, Bool.false_eq_true, if_false]

/-- Every round of the loop passes the field value. -/
theorem is_valid_upgrade_header_field_fresh (hreq : HttpReq) (prev prev' : Option Chunk) (wsd_errno : Errno) :
    is_valid_upgrade_header_field data hreq { prev, wsd_errno } =
      is_valid_upgrade_header_field data hreq { prev := prev', wsd_errno } := by
  unfold is_valid_upgrade_header_field upgrade_loop
  rw [http_field_value_tok_fresh data hreq.upgrade prev prev' wsd_errno]

end Fresh

/-- What a call of `http_recv` leaves apart from the tokenisers' static variables: the socket with
    what it has queued and its flags, and `wsd_errno`. -/
def dropStatics (s : Sk × Statics × Errno) : Sk × Errno :=
  (s.1, s.2.2)

/-- Two calls of `http_recv` differ in the static variables at most. -/
abbrev SameOutcome : Except Fault (Int × Sk × Statics × Errno) → Except Fault (Int × Sk × Statics × Errno) → Prop :=
  TwoRuns.Agree dropStatics dropStatics

theorem bad_request_sameOutcome (sk : Sk) (st st' : Statics) :
    SameOutcome (pure (bad_request sk st)) (pure (bad_request sk st')) :=
  .ok rfl fun _ => rfl

theorem http_recv_sameOutcome (cfg : Config) (ssl : Openssl) (sk : Sk) (st st' : Statics) :
    SameOutcome (http_recv cfg ssl sk st) (http_recv cfg ssl sk st') := by
  have hbad (sk : Sk) (st st' : Statics) := bad_request_sameOutcome sk st st'
  unfold http_recv
  apply TwoRuns.Agree.bind_same
  intro _
  apply TwoRuns.Agree.ite
  · exact .ok rfl fun _ => rfl
  simp only [http_header_tok_fresh sk.recvbuf.data sk.recvbuf.rdpos st.http_header_tok st'.http_header_tok]
  apply TwoRuns.Agree.bind_same
  intro ⟨rv, tok, prev, e⟩
  apply TwoRuns.Agree.ite (hbad _ _ _)
  apply TwoRuns.Agree.bind_same
  intro ⟨rv, hreq, _⟩
  apply TwoRuns.Agree.ite (hbad _ _ _)
  apply TwoRuns.Agree.bind_same
  intro ⟨valid, hreq⟩
  apply TwoRuns.Agree.ite (hbad _ _ _)
  apply TwoRuns.Agree.bind_same
  intro ⟨parsed, hreq, prev, e⟩
  apply TwoRuns.Agree.ite (hbad _ _ _)
  apply TwoRuns.Agree.ite (hbad _ _ _)
  simp only [is_valid_upgrade_header_field_fresh sk.recvbuf.data hreq st.http_field_value_tok st'.http_field_value_tok e]
  apply TwoRuns.Agree.bind_same
  intro ⟨valid, tok⟩
  apply TwoRuns.Agree.ite (hbad _ _ _)
  apply TwoRuns.Agree.bind_same
  intro ⟨valid, tok⟩
  apply TwoRuns.Agree.ite (hbad _ _ _)
  apply TwoRuns.Agree.bind_same
  intro _
  exact .ok rfl fun _ => rfl

/-- A call of `http_recv` does the same whatever earlier calls of the two tokenisers, for other
    sockets, have left in their static pointers. -/
theorem http_recv_statics (cfg : Config) (ssl : Openssl) (sk : Sk) (st st' : Statics) :
    (http_recv cfg ssl sk st).map (fun r => (r.1, dropStatics r.2)) =
      (http_recv cfg ssl sk st').map fun r => (r.1, dropStatics r.2) :=
  (http_recv_sameOutcome cfg ssl sk st st').map_eq

end wsd

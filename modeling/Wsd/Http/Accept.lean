import Wsd.Http.Fault
import Wsd.Http.Line

namespace wsd

/-- The request line of a client's request, its tokens, and where the header block
    starts. -/
def RequestLine (sk : Sk) (st : Statics) (tok : Chunk) (line : HttpReq) (prev : Option Nat) : Prop :=
  ∃ rv wsd_errno rv' line' errno',
    http_header_tok sk.recvbuf.data (some sk.recvbuf.rdpos) st.http_header_tok = .ok (rv, tok, prev, wsd_errno) ∧
      ¬ rv < 0 ∧ parse_request_line sk.recvbuf.data tok {} wsd_errno = .ok (rv', line', errno') ∧ ¬ rv' < 0 ∧
      is_valid_req_line sk.recvbuf.data line' = .ok (true, line)

/-- How the loop over the header fields ends: where the last call of the tokeniser
    starts, its results, and the request which was collected before. -/
structure WalkEnd where
  start : Option Nat
  rv : Int
  prev : Option Nat
  wsd_errno : Errno
  hreq : HttpReq

/-- The walk of `http_recv` over the header block. -/
inductive HeaderWalk (data : Memory UInt8) : HttpReq → Option Nat → WalkEnd → Prop
  | stop {hreq : HttpReq} {prev prev' : Option Nat} {rv : Int} {tok : Chunk} {wsd_errno : Errno}
      (htok : http_header_tok data none prev = .ok (rv, tok, prev', wsd_errno)) (hrv : ¬ 0 < rv) :
      HeaderWalk data hreq prev { start := prev, rv, prev := prev', wsd_errno, hreq }
  | field {hreq hreq' : HttpReq} {prev prev' : Option Nat} {rv rv' : Int} {tok : Chunk} {wsd_errno : Errno} {e : WalkEnd}
      (htok : http_header_tok data none prev = .ok (rv, tok, prev', wsd_errno)) (hrv : 0 < rv)
      (hparse : parse_header_field data tok hreq = .ok (rv', hreq')) (hrv' : ¬ rv' < 0)
      (hrest : HeaderWalk data hreq' prev' e) : HeaderWalk data hreq prev e

/-- The three checks of the collected header fields in `http_recv`. -/
def valid_fields (data : Memory UInt8) (hreq : HttpReq) (st : FieldTok) : Except Fault (Bool × FieldTok) := do
  if !is_valid_host_header_field hreq then
    return (false, st)
  else
    let (valid, st) ← is_valid_upgrade_header_field data hreq st
    if !valid then
      return (false, st)
    else
      is_valid_connection_header_field data hreq st

section Walk

variable {data : Memory UInt8} {hreq : HttpReq} {prev : Option Nat} {e : WalkEnd}

/-- Each line takes at least one byte, so that the loop has enough rounds. -/
theorem rounds_left {fuel : Nat} {prev' : Option Nat} {rv : Int} {tok : Chunk} {wsd_errno : Errno}
    (htok : http_header_tok data none prev = .ok (rv, tok, prev', wsd_errno)) (hrv : 0 < rv)
    (hfuel : ∀ p, prev = some p → SKB_SIZE < p + (fuel + 1)) :
    0 < fuel ∧ ∀ p, prev' = some p → SKB_SIZE < p + fuel := by
  cases prev with
  | none =>
    have hneg := http_header_tok_none htok
    omega
  | some start =>
    have hstart := hfuel start rfl
    obtain ⟨hneg, -⟩ | ⟨len, hlen, rfl, rfl, hline⟩ := http_header_tok_inv htok
    · omega
    · have hlt := hline.lt
      refine ⟨by omega, fun p hp => ?_⟩
      cases hp
      omega

theorem HeaderWalk.header_loop {fuel : Nat} (h : HeaderWalk data hreq prev e) (hpos : 0 < fuel)
    (hfuel : ∀ p, prev = some p → SKB_SIZE < p + fuel) :
    header_loop data fuel hreq prev = .ok (true, e.hreq, e.prev, e.wsd_errno) := by
  induction h generalizing fuel with
  | stop htok hrv =>
    obtain ⟨fuel, rfl⟩ := Nat.exists_eq_succ_of_ne_zero (Nat.ne_of_gt hpos)
    rw [wsd.header_loop, htok]
    simp only [Except.ok_bind, if_neg hrv, Except.pure_eq_ok]
  | @field hreq hreq' prev prev' rv rv' tok wsd_errno e htok hrv hparse hrv' hrest ih =>
    obtain ⟨fuel, rfl⟩ := Nat.exists_eq_succ_of_ne_zero (Nat.ne_of_gt hpos)
    rw [wsd.header_loop, htok]
    simp only [Except.ok_bind, if_pos hrv, hparse, if_neg hrv']
    obtain ⟨hpos', hfuel'⟩ := rounds_left htok hrv hfuel
    exact ih hpos' hfuel'

/-- A loop which returns has walked. -/
theorem header_loop_walk {fuel : Nat} {hreq' : HttpReq} {prev' : Option Nat} {wsd_errno : Errno}
    (h : header_loop data fuel hreq prev = .ok (true, hreq', prev', wsd_errno)) :
    ∃ start rv, HeaderWalk data hreq prev { start, rv, prev := prev', wsd_errno, hreq := hreq' } := by
  induction fuel generalizing hreq prev with
  | zero => cases h
  | succ fuel ih =>
    unfold header_loop at h
    obtain ⟨⟨rv, tok, prev1, e1⟩, htok, h⟩ := Except.bind_eq_ok_iff.mp h
    by_cases hrv : 0 < rv
    · simp only [if_pos hrv] at h
      obtain ⟨⟨rv', hreq1⟩, hparse, h⟩ := Except.bind_eq_ok_iff.mp h
      by_cases hrv' : rv' < 0
      · simp only [if_pos hrv'] at h
        cases h
      · simp only [if_neg hrv'] at h
        obtain ⟨start, rv2, hwalk⟩ := ih h
        exact ⟨start, rv2, .field htok hrv hparse hrv' hwalk⟩
    · simp only [if_neg hrv] at h
      cases h
      exact ⟨prev, rv, .stop htok hrv⟩

/-- The walk ends at the empty line or at a line which is not tokenised. -/
theorem HeaderWalk.end_cases (h : HeaderWalk data hreq prev e) :
    e.rv = -1 ∨ e.rv = 0 ∧ ∃ start, e.start = some start ∧ data start = CR ∧ data (start + 1) = LF := by
  induction h with
  | @stop hreq prev prev' rv tok wsd_errno htok hrv =>
    cases prev with
    | none => exact Or.inl (http_header_tok_none htok)
    | some start =>
      obtain ⟨hneg, -⟩ | ⟨len, hlen, -, -, hline⟩ := http_header_tok_inv htok
      · exact Or.inl hneg
      · have hzero : len = 0 := by omega
        subst hzero
        exact Or.inr ⟨hlen, start, rfl, hline.cr, hline.lf⟩
  | field htok hrv hparse hrv' hrest ih => exact ih

/-- The tokeniser's return value at the end of the walk. -/
def walk_rv (data : Memory UInt8) : Nat → Option Nat → Int
  | 0, _ => 0
  | fuel + 1, prev =>
    match http_header_tok data none prev with
    | .error _ => 0
    | .ok (rv, _, prev, _) => if 0 < rv then walk_rv data fuel prev else rv

theorem HeaderWalk.walk_rv {fuel : Nat} (h : HeaderWalk data hreq prev e) (hpos : 0 < fuel)
    (hfuel : ∀ p, prev = some p → SKB_SIZE < p + fuel) : walk_rv data fuel prev = e.rv := by
  induction h generalizing fuel with
  | stop htok hrv =>
    obtain ⟨fuel, rfl⟩ := Nat.exists_eq_succ_of_ne_zero (Nat.ne_of_gt hpos)
    rw [wsd.walk_rv, htok]
    simp only [if_neg hrv]
  | @field hreq hreq' prev prev' rv rv' tok wsd_errno e htok hrv hparse hrv' hrest ih =>
    obtain ⟨fuel, rfl⟩ := Nat.exists_eq_succ_of_ne_zero (Nat.ne_of_gt hpos)
    rw [wsd.walk_rv, htok]
    simp only [if_pos hrv]
    obtain ⟨hpos', hfuel'⟩ := rounds_left htok hrv hfuel
    exact ih hpos' hfuel'

end Walk

section Recv

variable {cfg : Config} {ssl : Openssl} {sk : Sk} {st : Statics} {tok : Chunk} {line : HttpReq} {prev : Option Nat}
  {e : WalkEnd}

variable (cfg ssl) in
/-- A request whose header block was walked over goes to the handshake if the
    collected fields are valid, and is answered with an error otherwise. -/
theorem http_recv_walked (hrdsz : skb_rdsz sk.recvbuf ≠ 0) (hrnrn : has_rnrn_termination sk.recvbuf = true)
    (hline : RequestLine sk st tok line prev) (hwalk : HeaderWalk sk.recvbuf.data line prev e) :
    http_recv cfg ssl sk st = (do
      let (valid, field) ←
        valid_fields sk.recvbuf.data e.hreq { prev := st.http_field_value_tok, wsd_errno := e.wsd_errno }
      let st : Statics := { http_header_tok := e.prev, http_field_value_tok := field.prev }
      if !valid then
        return bad_request (put_response sk http.HTTP_400) st
      else
        let sk := { sk with recvbuf := skb_reset sk.recvbuf }
        let (rv, sk, wsd_errno) ← decode_handshake sk.proto.decode_handshake cfg ssl sk e.hreq field.wsd_errno
        return (rv, sk, st, wsd_errno)) := by
  obtain ⟨rv, e1, rv', line', e2, htok, hrv, hparse, hrv', hvalid⟩ := hline
  have hloop := @HeaderWalk.header_loop _ _ _ _ (SKB_SIZE + 1) hwalk (by decide) (fun p _ => by omega)
  unfold http_recv valid_fields
  simp only [hrdsz, ne_eq, not_false_eq_true, decide_true, assert_true, Except.ok_bind, hrnrn, Bool.not_true,
    Bool.false_eq_true, if_false, htok, if_neg hrv, hparse, if_neg hrv', hvalid, hloop]
  cases hhost : is_valid_host_header_field e.hreq with
  | false => rfl
  | true =>
    simp only [Bool.not_true, Bool.false_eq_true, if_false]
    cases hupgrade : is_valid_upgrade_header_field sk.recvbuf.data e.hreq
        { prev := st.http_field_value_tok, wsd_errno := e.wsd_errno } with
    | error fault => rfl
    | ok r =>
      obtain ⟨valid, field⟩ := r
      cases valid with
      | false => rfl
      | true =>
        simp only [Except.ok_bind, Bool.not_true, Bool.false_eq_true, if_false]

theorem handshake_error_rv (sk : Sk) : (handshake_error sk).1 = -1 := by
  unfold handshake_error
  simp only
  split <;> rfl

theorem bad_request_rv (sk : Sk) (st : Statics) : (bad_request sk st).1 = -1 :=
  handshake_error_rv sk

/-- The call returns -1, or ends with a fault of its own. -/
def Refused (x : Except Fault (Int × Sk × Statics × Errno)) : Prop :=
  (∀ r, x = .ok r → r.1 = -1) ∧ x ≠ .error .null_function

namespace Refused

theorem ok {r : Int × Sk × Statics × Errno} (h : r.1 = -1) : Refused (.ok r) := by
  refine ⟨fun r' h' => ?_, by simp⟩
  cases h'
  exact h

theorem bind {α : Type} {x : Except Fault α} {f : α → Except Fault (Int × Sk × Statics × Errno)} (hx : Unguarded x)
    (hf : ∀ a, x = .ok a → Refused (f a)) : Refused (x >>= f) := by
  refine ⟨fun r h => ?_, fun h => ?_⟩
  · obtain ⟨a, ha, h⟩ := Except.bind_eq_ok_iff.mp h
    exact (hf a ha).1 r h
  · obtain hfault | ⟨a, ha, h⟩ := Except.bind_eq_error_iff.mp h
    · exact hx _ hfault (by decide)
    · exact (hf a ha).2 h

theorem ite {b : Prop} [Decidable b] {x y : Except Fault (Int × Sk × Statics × Errno)} (hx : b → Refused x)
    (hy : ¬ b → Refused y) : Refused (if b then x else y) := by
  split
  · rename_i hb
    exact hx hb
  · rename_i hb
    exact hy hb

end Refused

/-- A call which is not refused has walked over the header block. -/
theorem http_recv_walk (h : ¬ Refused (http_recv cfg ssl sk st)) :
    skb_rdsz sk.recvbuf ≠ 0 ∧ has_rnrn_termination sk.recvbuf = true ∧
      ∃ tok line prev e, RequestLine sk st tok line prev ∧ HeaderWalk sk.recvbuf.data line prev e := by
  by_contra hnot
  apply h
  unfold http_recv
  by_cases hrdsz : skb_rdsz sk.recvbuf = 0
  · simp only [hrdsz, ne_eq, not_true_eq_false, decide_false, assert_false, Except.error_bind]
    refine ⟨fun r hr => ?_, fun hr => ?_⟩
    · cases hr
    · cases hr
  simp only [hrdsz, ne_eq, not_false_eq_true, decide_true, assert_true, Except.ok_bind]
  cases hrnrn : has_rnrn_termination sk.recvbuf with
  | false => exact .ok rfl
  | true =>
    simp only [Bool.not_true, Bool.false_eq_true, if_false]
    refine .bind http_header_tok_unguarded fun r htok => .ite (fun _ => .ok (bad_request_rv _ _)) fun hrv => ?_
    refine .bind parse_request_line_unguarded fun r' hparse => .ite (fun _ => .ok (bad_request_rv _ _)) fun hrv' => ?_
    refine .bind is_valid_req_line_unguarded fun r'' hvalid => .ite (fun _ => .ok (bad_request_rv _ _)) fun hget => ?_
    refine .bind (header_loop_unguarded _ _ _ _) fun r3 hloop => .ite (fun _ => .ok (bad_request_rv _ _)) fun hparsed => ?_
    obtain ⟨rv, tok, prev, e1⟩ := r
    obtain ⟨rv', line', e2⟩ := r'
    obtain ⟨valid, line⟩ := r''
    obtain ⟨parsed, hreq, prev', e3⟩ := r3
    simp only [Bool.not_eq_true', Bool.not_eq_false] at hget hparsed
    subst hget hparsed
    obtain ⟨start, rv3, hwalk⟩ := header_loop_walk hloop
    exact absurd ⟨hrdsz, hrnrn, tok, line, prev, _, ⟨rv, e1, rv', line', e2, htok, hrv, hparse, hrv', hvalid⟩, hwalk⟩ hnot

/-- The indirect call through the protocol's `decode_handshake` is made: without a
    handler it fails. -/
def ReachesDecode (cfg : Config) (ssl : Openssl) (sk : Sk) (st : Statics) : Prop :=
  http_recv cfg ssl { sk with proto := { sk.proto with decode_handshake := none } } st = .error .null_function

/-- The fields which the loop has collected do not pass the checks. -/
def Rejected (data : Memory UInt8) (st : Statics) (e : WalkEnd) : Prop :=
  ∃ field, valid_fields data e.hreq { prev := st.http_field_value_tok, wsd_errno := e.wsd_errno } = .ok (false, field)

theorem valid_fields_unguarded (data : Memory UInt8) (hreq : HttpReq) (field : FieldTok) :
    Unguarded (valid_fields data hreq field) := by
  unfold valid_fields
  refine .ite (fun _ => .ok _) fun _ => .bind (upgrade_loop_unguarded _ _ _ _) fun _ _ => ?_
  exact .ite (fun _ => .ok _) fun _ => is_valid_connection_header_field_unguarded

theorem http_recv_rejected (hrdsz : skb_rdsz sk.recvbuf ≠ 0) (hrnrn : has_rnrn_termination sk.recvbuf = true)
    (hline : RequestLine sk st tok line prev) (hwalk : HeaderWalk sk.recvbuf.data line prev e)
    (h : Rejected sk.recvbuf.data st e) : ∃ sk' st' wsd_errno, http_recv cfg ssl sk st = .ok (-1, sk', st', wsd_errno) := by
  obtain ⟨field, hfields⟩ := h
  rw [http_recv_walked cfg ssl hrdsz hrnrn hline hwalk, hfields]
  have hrv := bad_request_rv (put_response sk http.HTTP_400)
    { http_header_tok := e.prev, http_field_value_tok := field.prev }
  exact ⟨_, _, _, congrArg Except.ok (Prod.ext hrv rfl)⟩

variable (cfg ssl) in
/-- The call through the handler is made exactly if the collected fields are valid. -/
theorem reachesDecode_iff (hrdsz : skb_rdsz sk.recvbuf ≠ 0) (hrnrn : has_rnrn_termination sk.recvbuf = true)
    (hline : RequestLine sk st tok line prev) (hwalk : HeaderWalk sk.recvbuf.data line prev e) :
    ReachesDecode cfg ssl sk st ↔ ∃ field, valid_fields sk.recvbuf.data e.hreq
      { prev := st.http_field_value_tok, wsd_errno := e.wsd_errno } = .ok (true, field) := by
  have hrecv : http_recv cfg ssl { sk with proto := { sk.proto with decode_handshake := none } } st = _ :=
    http_recv_walked cfg ssl hrdsz hrnrn hline hwalk
  have hunwatched := valid_fields_unguarded sk.recvbuf.data e.hreq
    { prev := st.http_field_value_tok, wsd_errno := e.wsd_errno }
  unfold ReachesDecode
  rw [hrecv]
  cases hfields : valid_fields sk.recvbuf.data e.hreq
      { prev := st.http_field_value_tok, wsd_errno := e.wsd_errno } with
  | error fault =>
    refine iff_of_false (fun h => ?_) (by simp)
    cases h
    exact hunwatched _ hfields (by decide)
  | ok r =>
    obtain ⟨valid, field⟩ := r
    cases valid with
    | false => exact iff_of_false (fun h => by cases h) (by simp)
    | true => exact iff_of_true rfl ⟨field, rfl⟩

end Recv

/-- A header block is accepted as a whole: the handler is called only if the walk has
    ended at the empty line, and a line which is not tokenised fails the request. -/
def AcceptedWhole (cfg : Config) (ssl : Openssl) (sk : Sk) (st : Statics) (e : WalkEnd) : Prop :=
  (ReachesDecode cfg ssl sk st → e.rv = 0 ∧ ∃ start, e.start = some start ∧ sk.recvbuf.data start = CR ∧
    sk.recvbuf.data (start + 1) = LF) ∧
  (e.rv < 0 → ∃ sk' st' wsd_errno, http_recv cfg ssl sk st = .ok (-1, sk', st', wsd_errno))

/-- The handler is called only after a walk over the header block, which was accepted
    as a whole if and only if the walk ended at the empty line or the fields which stand
    before the line that ended it do not pass the checks. -/
theorem header_block_whole_iff (cfg : Config) (ssl : Openssl) (sk : Sk) (st : Statics)
    (hrdsz : skb_rdsz sk.recvbuf ≠ 0) (hrnrn : has_rnrn_termination sk.recvbuf = true) :
    (ReachesDecode cfg ssl sk st →
      ∃ tok line prev e, RequestLine sk st tok line prev ∧ HeaderWalk sk.recvbuf.data line prev e) ∧
    ∀ tok line prev e, RequestLine sk st tok line prev → HeaderWalk sk.recvbuf.data line prev e →
      (AcceptedWhole cfg ssl sk st e ↔ e.rv = 0 ∨ Rejected sk.recvbuf.data st e) := by
  constructor
  · intro h
    have hwalk := @http_recv_walk cfg ssl { sk with proto := { sk.proto with decode_handshake := none } } st fun
        hrefused => hrefused.2 h
    exact hwalk.2.2
  · intro tok line prev e hline hwalk
    have hreaches := reachesDecode_iff cfg ssl hrdsz hrnrn hline hwalk
    obtain hbad | ⟨hzero, hend⟩ := hwalk.end_cases
    · constructor
      · rintro ⟨hreach, hfails⟩
        obtain ⟨sk', st', e', hrecv⟩ := hfails (by omega)
        have hnot : ¬ ReachesDecode cfg ssl sk st := fun h => by
          obtain ⟨hzero, -⟩ := hreach h
          omega
        rw [hreaches] at hnot
        rw [http_recv_walked cfg ssl hrdsz hrnrn hline hwalk] at hrecv
        obtain ⟨⟨valid, field⟩, hfields, -⟩ := Except.bind_eq_ok_iff.mp hrecv
        cases valid with
        | false => exact Or.inr ⟨field, hfields⟩
        | true => exact absurd ⟨field, hfields⟩ hnot
      · intro h
        obtain hzero | hrejected := h
        · omega
        · refine ⟨fun hreach => ?_, fun _ => http_recv_rejected hrdsz hrnrn hline hwalk hrejected⟩
          obtain ⟨field, hvalid⟩ := hreaches.mp hreach
          obtain ⟨field', hinvalid⟩ := hrejected
          rw [hvalid] at hinvalid
          cases hinvalid
    · refine iff_of_true ⟨fun _ => ⟨hzero, hend⟩, fun hneg => ?_⟩ (Or.inl hzero)
      omega

namespace Sample

/-- The digest of the key "dGhlIHNhbXBsZSBub25jZQ==" and the GUID. -/
def digest : Openssl where
  base64_sha1 _ := ascii "s3pPLMBiTxaQ9kYGzzhZRbK+xOo="
  length _ := rfl

def cfg : Config where
  lfd := 3
  fhostname_num := 1
  idle_timeout := -1
  ping_interval := -1
  closing_handshake_timeout := 8000
  sec_ws_proto := some (ascii "chat")

/-- The header fields which `http_recv` checks. -/
def checked : String :=
  "Host: a\r\nUpgrade: websocket\r\nConnection: Upgrade\r\n"

theorem checked_reaches : ReachesDecode cfg digest (requesting checked) {} :=
  Except.eq_error (by decide +kernel)

/-- A line which is not tokenised stands behind the header fields. -/
def malformed : String :=
  checked ++ "X: \"a\"\r\n"

theorem malformed_reaches : ReachesDecode cfg digest (requesting malformed) {} :=
  Except.eq_error (by decide +kernel)

end Sample

/-- A request whose header block is well formed. -/
theorem header_block_whole_checked :
    ∃ tok line prev e, RequestLine (Sample.requesting Sample.checked) {} tok line prev ∧
      HeaderWalk (Sample.requesting Sample.checked).recvbuf.data line prev e ∧
      (AcceptedWhole Sample.cfg Sample.digest (Sample.requesting Sample.checked) {} e ↔
        e.rv = 0 ∨ Rejected (Sample.requesting Sample.checked).recvbuf.data {} e) := by
  have hwhole := header_block_whole_iff Sample.cfg Sample.digest (Sample.requesting Sample.checked) {}
    (by decide +kernel) (by decide +kernel)
  obtain ⟨tok, line, prev, e, hline, hwalk⟩ := hwhole.1 Sample.checked_reaches
  exact ⟨tok, line, prev, e, hline, hwalk, hwhole.2 tok line prev e hline hwalk⟩

/-- A malformed line behind the checked fields ends the walk like the empty line. -/
theorem malformed_line_accepted :
    ¬ ∀ (cfg : Config) (ssl : Openssl) (sk : Sk) (st : Statics) (tok : Chunk) (line : HttpReq) (prev : Option Nat)
      (e : WalkEnd), RequestLine sk st tok line prev → HeaderWalk sk.recvbuf.data line prev e →
        AcceptedWhole cfg ssl sk st e := by
  intro h
  obtain ⟨-, -, tok, line, prev, e, hline, hwalk⟩ := @http_recv_walk Sample.cfg Sample.digest
      (Sample.requesting Sample.malformed) {} fun hrefused => hrefused.2 Sample.malformed_reaches
  obtain ⟨hzero, -⟩ := (h Sample.cfg Sample.digest _ {} tok line prev e hline hwalk).1 Sample.malformed_reaches
  have hrv := @HeaderWalk.walk_rv _ _ _ _ (SKB_SIZE + 1) hwalk (by decide) (fun p _ => by omega)
  obtain ⟨rv, e1, rv', line', e2, htok, -⟩ := hline
  obtain ⟨⟨rv3, tok3, prev3, e3⟩, hfirst, hprev⟩ := Except.exists_ok
    (x := http_header_tok (Sample.requesting Sample.malformed).recvbuf.data (some 0) none)
    (P := fun a => a.2.2.1 = some 16) (by decide +kernel)
  have hsame := Except.ok.inj (hfirst.symm.trans htok)
  cases hsame
  simp only at hprev
  subst hprev
  have hneg : walk_rv (Sample.requesting Sample.malformed).recvbuf.data (SKB_SIZE + 1) (some 16) = -1 := by
    decide +kernel
  rw [hneg] at hrv
  omega

end wsd

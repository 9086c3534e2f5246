import Wsd.Http.Response

namespace wsd

/-- The responses to a request which is refused. -/
def error_responses : List (List UInt8) :=
  [http.HTTP_400, ws_wsd.HTTP_400, HTTP_500]

/-- The requested protocol as `trim` leaves it, which has been called before if a protocol is configured. -/
def Echoed (cfg : Config) (data : Memory UInt8) (value proto : Chunk) : Prop :=
  match cfg.sec_ws_proto with
  | none => trim data value = .ok proto
  | some _ => ∃ once, trim data value = .ok once ∧ trim data once = .ok proto

/-- The socket is in websocket mode, and one complete response has been put. -/
structure Switched (cfg : Config) (ssl : Openssl) (data : Memory UInt8) (hreq : HttpReq) (sk sk' : Sk) (rv : Int) :
    Prop where
  rv_eq : rv = 0
  proto_eq : sk'.proto = (upgrade sk).proto
  ops_eq : sk'.ops = (upgrade sk).ops
  epollout : sk'.events.EPOLLOUT = true
  response : ∃ key proto, trim data hreq.sec_ws_key = .ok key ∧ Echoed cfg data hreq.sec_ws_proto proto ∧
    sk'.sendbuf.readable = sk.sendbuf.readable ++
      handshake_response (ssl.base64_sha1 (key.bytes data ++ WS_GUID)) (proto.bytes data)

/-- One complete error response has been put, after whose delivery the socket is closed. -/
structure Responded (sk sk' : Sk) (rv : Int) (wsd_errno : Errno) : Prop where
  rv_eq : rv = -1
  errno_eq : wsd_errno = .WSD_EBADREQ
  close_on_write : sk'.close_on_write = true
  epollin : sk'.events.EPOLLIN = false
  epollout : sk'.events.EPOLLOUT = true
  proto_eq : sk'.proto = sk.proto
  ops_eq : sk'.ops = sk.ops
  response : ∃ response ∈ error_responses, sk'.sendbuf.readable = sk.sendbuf.readable ++ response

/-- Nothing has been put, and nothing waits to be delivered. -/
structure Dropped (sk sk' : Sk) (rv : Int) (wsd_errno : Errno) : Prop where
  rv_eq : rv = -1
  errno_eq : wsd_errno = .WSD_EBADREQ
  close_on_write : sk'.close_on_write = false
  sendbuf_eq : sk'.sendbuf.readable = sk.sendbuf.readable

inductive Ending
  | switched
  | responded
  | dropped
  deriving DecidableEq, Repr

/-- How a handshake has ended. -/
def Ends (cfg : Config) (ssl : Openssl) (sk : Sk) (st : Statics) (r : Int × Sk × Statics × Errno) : Ending → Prop
  | .switched => ∃ tok line hreq, Parsed sk st tok line hreq ∧ Switched cfg ssl sk.recvbuf.data hreq sk r.2.1 r.1
  | .responded => Responded sk r.2.1 r.1 r.2.2.2
  | .dropped => Dropped sk r.2.1 r.1 r.2.2.2

/-- The call returns, and unless it waits for input the handshake has ended in one way. -/
def AllOrNothing (cfg : Config) (ssl : Openssl) (sk : Sk) (st : Statics) : Prop :=
  ∃ r, http_recv cfg ssl sk st = .ok r ∧ (r.1 < 0 ∧ r.2.2.2 = .WSD_EINPUT ∨ ∃! ending, Ends cfg ssl sk st r ending)

/-- Version and protocol are accepted, and the response fills the buffer to its last byte. -/
structure FillsExactly (cfg : Config) (data : Memory UInt8) (hreq : HttpReq) (sendbuf : Skb) : Prop where
  accepted : ∃ hreq1 hreq2, is_valid_ver data hreq = .ok (true, hreq1) ∧ check_proto cfg data hreq1 = .ok (true, hreq2)
  full : ∃ proto, Echoed cfg data hreq.sec_ws_proto proto ∧ skb_wrsz sendbuf = 182 + proto.len

/-- The request is accepted as a whole, and the response to it fills the send buffer. -/
structure Overfills (cfg : Config) (sk : Sk) (st : Statics) (tok : Chunk) (line hreq : HttpReq) : Prop where
  rnrn : has_rnrn_termination sk.recvbuf = true
  parsed : Parsed sk st tok line hreq
  fields : ∃ field field', valid_fields sk.recvbuf.data hreq field = .ok (true, field')
  fills : FillsExactly cfg sk.recvbuf.data hreq sk.sendbuf

section Error

variable {sk : Sk} {sendbuf recvbuf : Skb} {response : List UInt8}

theorem put_response_cases (hok : sk.sendbuf.Ok) (response : List UInt8) :
    put_response sk response = sk ∨
      ∃ sendbuf, put_response sk response = { sk with sendbuf, close_on_write := true } ∧
        sk.sendbuf.Extended response sendbuf := by
  unfold put_response
  obtain ⟨-, hput⟩ | ⟨sendbuf, hput, hext⟩ := Skb.put_strn_cases hok response
  · rw [hput]
    exact .inl rfl
  · rw [hput]
    exact .inr ⟨sendbuf, rfl, hext⟩

/-- The end of a failing path on which nothing has been put. -/
theorem handshake_error_dropped (hok : sk.sendbuf.Ok) (hopen : sk.close_on_write = false)
    (hext : sk.sendbuf.Extended [] sendbuf) :
    Dropped sk (handshake_error { sk with sendbuf, recvbuf }).2.1 (handshake_error { sk with sendbuf, recvbuf }).1
      (handshake_error { sk with sendbuf, recvbuf }).2.2 := by
  have hsame := hext.readable hok
  rw [List.append_nil] at hsame
  unfold handshake_error
  simp only [hopen, Bool.false_eq_true, if_false]
  exact ⟨rfl, rfl, rfl, hsame⟩

/-- The end of a failing path which tries to put a response. -/
theorem handshake_error_ends (hok : sk.sendbuf.Ok) (hopen : sk.close_on_write = false)
    (hext : sk.sendbuf.Extended [] sendbuf) (hmem : response ∈ error_responses) {r : Int × Sk × Errno}
    (hr : r = handshake_error (put_response { sk with sendbuf, recvbuf } response)) :
    Responded sk r.2.1 r.1 r.2.2 ∨ Dropped sk r.2.1 r.1 r.2.2 := by
  subst hr
  obtain hput | ⟨sendbuf', hput, hext'⟩ := @put_response_cases { sk with sendbuf, recvbuf } (hext.ok hok) response
  · rw [hput]
    exact .inr (handshake_error_dropped hok hopen hext)
  · rw [hput]
    have hput' := (hext.trans hext').readable hok
    rw [List.nil_append] at hput'
    unfold handshake_error
    simp only [if_true, turn_on_out]
    have hoff : (((sk.events.diff EPOLLIN).union EPOLLOUT).EPOLLIN) = false := by
      simp [EpollEvents.diff, EpollEvents.union, EPOLLIN, EPOLLOUT]
    have hon : (((sk.events.diff EPOLLIN).union EPOLLOUT).EPOLLOUT) = true := by
      simp [EpollEvents.union, EPOLLOUT]
    exact .inl ⟨rfl, rfl, rfl, hoff, hon, rfl, rfl, response, hmem, hput'⟩

end Error

section Fields

variable {cfg : Config} {data : Memory UInt8} {hreq : HttpReq}

/-- The checks of the collected fields return. -/
theorem valid_fields_ok (hvalues : ∀ chk ∈ hreq.values, FieldValue data chk) (field : FieldTok) :
    ∃ valid field', valid_fields data hreq field = .ok (valid, field') := by
  obtain ⟨upgrade, field1, hupgrade, -⟩ :=
    @is_valid_upgrade_found data hreq (hvalues _ (by simp [HttpReq.values])) field
  obtain ⟨conn, field2, hconn, -⟩ := @is_valid_connection_found data hreq (hvalues _ (by simp [HttpReq.values]))
    (hvalues _ (by simp [HttpReq.values])) field1
  unfold valid_fields
  split
  · exact ⟨_, _, rfl⟩
  · rw [hupgrade]
    simp only [Except.ok_bind]
    split
    · exact ⟨_, _, rfl⟩
    · exact ⟨_, _, hconn⟩

/-- Whether the fields are valid does not depend on the tokeniser's static variable. -/
theorem valid_fields_same (hvalues : ∀ chk ∈ hreq.values, FieldValue data chk) {field field' other other' : FieldTok}
    {valid : Bool} (h : valid_fields data hreq field = .ok (true, field'))
    (hother : valid_fields data hreq other = .ok (valid, other')) : valid = true := by
  have hupgrade : FieldValue data hreq.upgrade := hvalues _ (by simp [HttpReq.values])
  have hconn : FieldValue data hreq.conn := hvalues _ (by simp [HttpReq.values])
  have hconn2 : FieldValue data hreq.conn2 := hvalues _ (by simp [HttpReq.values])
  unfold valid_fields at h hother
  by_cases hhost : (!is_valid_host_header_field hreq) = true
  · rw [if_pos hhost] at h
    cases h
  rw [if_neg hhost] at h hother
  obtain ⟨found, field1, hfound, hiff⟩ := is_valid_upgrade_found hupgrade field
  obtain ⟨found', other1, hfound', hiff'⟩ := is_valid_upgrade_found hupgrade other
  rw [hfound] at h
  rw [hfound'] at hother
  simp only [Except.ok_bind] at h hother
  cases found with
  | false => cases h
  | true =>
    have htrue : found' = true := hiff'.2 (hiff.1 rfl)
    subst htrue
    simp only [Bool.not_true, Bool.false_eq_true, if_false] at h hother
    obtain ⟨found, field2, hfound, hiff⟩ := is_valid_connection_found hconn hconn2 field1
    obtain ⟨found', other2, hfound', hiff'⟩ := is_valid_connection_found hconn hconn2 other1
    rw [hfound] at h
    rw [hfound'] at hother
    cases h
    cases hother
    exact hiff'.2 (hiff.1 rfl)

theorem is_valid_ver_ok (h : FieldValue data hreq.sec_ws_ver) :
    ∃ valid sec_ws_ver, is_valid_ver data hreq = .ok (valid, { hreq with sec_ws_ver }) := by
  obtain ⟨chk, htrim, htrimmed⟩ := h.trimmable.trim
  obtain ⟨same, hcompare⟩ := htrimmed.compare (strncmp_eq data) FLD_SEC_WS_VER_VAL
  unfold is_valid_ver
  rw [htrim]
  simp only [Except.ok_bind, hcompare]
  exact ⟨_, _, rfl⟩

/-- A collected value holds no terminator. -/
theorem Collected.ne_zero {chk chk' : Chunk} (h : Collected data chk) (htrim : wsd.trim data chk = .ok chk') :
    ∀ c ∈ chk'.bytes data, c ≠ 0 :=
  fun c hc => field_value_ne_zero (h.trim_class htrim c hc)

/-- The check of the protocol leaves a value which is trimmed once more for the response. -/
theorem check_proto_ok (h : FieldValue data hreq.sec_ws_proto) (hcollected : Collected data hreq.sec_ws_proto) :
    ∃ valid sec_ws_proto proto, check_proto cfg data hreq = .ok (valid, { hreq with sec_ws_proto }) ∧
      trim data sec_ws_proto = .ok proto ∧ Echoed cfg data hreq.sec_ws_proto proto ∧ ∀ c ∈ proto.bytes data, c ≠ 0 := by
  obtain ⟨once, htrim, htrimmed⟩ := h.trimmable.trim
  unfold check_proto Echoed
  cases hcfg : cfg.sec_ws_proto with
  | none => exact ⟨true, hreq.sec_ws_proto, once, rfl, htrim, htrim, hcollected.ne_zero htrim⟩
  | some configured =>
    obtain ⟨same, hcompare⟩ := htrimmed.compare (strncmp_eq data) configured
    obtain ⟨proto, hagain, -⟩ := htrimmed.trim
    refine ⟨same, once, proto, ?_, hagain, ⟨once, htrim, hagain⟩, (hcollected.trim htrim).ne_zero hagain⟩
    unfold is_valid_proto
    rw [htrim]
    simp only [Except.ok_bind, hcompare, Except.pure_eq_ok]

theorem Echoed.unique {value proto proto' : Chunk} (h : Echoed cfg data value proto) (h' : Echoed cfg data value proto') :
    proto = proto' := by
  unfold Echoed at h h'
  cases hcfg : cfg.sec_ws_proto with
  | none =>
    rw [hcfg] at h h'
    rw [h] at h'
    exact Except.ok.inj h'
  | some configured =>
    rw [hcfg] at h h'
    obtain ⟨once, hfirst, hagain⟩ := h
    obtain ⟨once', hfirst', hagain'⟩ := h'
    rw [hfirst] at hfirst'
    cases hfirst'
    rw [hagain] at hagain'
    exact Except.ok.inj hagain'

end Fields

section Decode

variable {cfg : Config} {ssl : Openssl} {sk : Sk} {hreq : HttpReq}

/-- The handshake ends in one of the three ways unless its response fills the send buffer. -/
theorem ws_decode_handshake_ends (hok : sk.sendbuf.Ok) (hopen : sk.close_on_write = false)
    (hroom : skb_wrsz sk.sendbuf ≠ 0) (hvalues : ∀ chk ∈ hreq.values, FieldValue sk.recvbuf.data chk)
    (hcollected : ∀ chk ∈ hreq.values, Collected sk.recvbuf.data chk)
    (hkey : ∀ key, trim sk.recvbuf.data hreq.sec_ws_key = .ok key → key.len ≤ 27) (wsd_errno : Errno) :
    (FillsExactly cfg sk.recvbuf.data hreq sk.sendbuf ∧ ∃ fault,
      ws_decode_handshake cfg ssl { sk with recvbuf := skb_reset sk.recvbuf } hreq wsd_errno = .error fault) ∨
    (¬ FillsExactly cfg sk.recvbuf.data hreq sk.sendbuf ∧
      ∃ r, ws_decode_handshake cfg ssl { sk with recvbuf := skb_reset sk.recvbuf } hreq wsd_errno = .ok r ∧
        ((Responded sk r.2.1 r.1 r.2.2 ∨ Dropped sk r.2.1 r.1 r.2.2) ∨
          Switched cfg ssl sk.recvbuf.data hreq sk r.2.1 r.1)) := by
  have hext := Skb.Extended.refl hok
  obtain ⟨valid, ver, hver⟩ := is_valid_ver_ok (hvalues hreq.sec_ws_ver (by simp [HttpReq.values]))
  obtain ⟨valid', once, proto, hcheck, htrim, hechoed, hclass⟩ :=
    @check_proto_ok cfg sk.recvbuf.data { hreq with sec_ws_ver := ver }
      (hvalues hreq.sec_ws_proto (by simp [HttpReq.values])) (hcollected hreq.sec_ws_proto (by simp [HttpReq.values]))
  have hdata : (skb_reset sk.recvbuf).data = sk.recvbuf.data := rfl
  unfold ws_decode_handshake
  simp only [hdata, hver, Except.ok_bind]
  cases valid with
  | false =>
    refine .inr ⟨?_, _, rfl, .inl (handshake_error_ends hok hopen hext (by simp [error_responses]) rfl)⟩
    rintro ⟨⟨hreq1, hreq2, hver', -⟩, -⟩
    rw [hver] at hver'
    cases hver'
  | true =>
    simp only [Bool.not_true, Bool.false_eq_true, if_false, hcheck, Except.ok_bind]
    cases valid' with
    | false =>
      refine .inr ⟨?_, _, rfl, .inl (handshake_error_ends hok hopen hext (by simp [error_responses]) rfl)⟩
      rintro ⟨⟨hreq1, hreq2, hver', hcheck'⟩, -⟩
      rw [hver] at hver'
      cases hver'
      rw [hcheck] at hcheck'
      cases hcheck'
    | true =>
      simp only [Bool.not_true, Bool.false_eq_true, if_false, hroom, ne_eq, not_false_eq_true, decide_true, assert_true,
        Except.ok_bind]
      obtain ⟨key, hkeytrim, -⟩ := (hvalues hreq.sec_ws_key (by simp [HttpReq.values])).trimmable.trim
      have haccept := ssl.length (key.bytes sk.recvbuf.data ++ WS_GUID)
      obtain ⟨hshort, sendbuf, req', hprepare, hundone⟩ | ⟨sendbuf, req', hprepare, hput⟩ :=
        @prepare_handshake_cases ssl sk.recvbuf.data sk.sendbuf { hreq with sec_ws_ver := ver, sec_ws_proto := once } key
          proto hok (hcollected _ (by simp [HttpReq.values])) hkeytrim (hkey key hkeytrim) htrim
          hclass
      · rw [hprepare]
        refine .inr ⟨?_, _, rfl, .inl (handshake_error_ends hok hopen hundone (by simp [error_responses]) rfl)⟩
        rintro ⟨-, proto', hechoed', hfull⟩
        cases hechoed.unique hechoed'
        omega
      · rw [hprepare]
        have hleft := hput.wrsz hok
        have hin := hput.room
        have hfree := hok.wrsz_eq
        rw [length_handshake_response haccept] at hleft hin
        rw [Chunk.length_bytes] at hleft hin
        have hrdsz : skb_rdsz (upgrade { sk with recvbuf := skb_reset sk.recvbuf, sendbuf }).recvbuf = 0 := Skb.rdsz_reset _
        simp only [Except.ok_bind, show ¬ ((0 : Int) < 0) by decide, if_false, hrdsz, decide_true, assert_true]
        by_cases hfull : skb_wrsz sk.sendbuf = 182 + proto.len
        · have hzero : skb_wrsz sendbuf = 0 := by omega
          refine .inl ⟨⟨⟨_, _, hver, hcheck⟩, proto, hechoed, hfull⟩, .assertion .ws_decode_handshake_sendbuf_wrsz, ?_⟩
          have hassert : skb_wrsz (upgrade { sk with recvbuf := skb_reset sk.recvbuf, sendbuf }).sendbuf = 0 := hzero
          rw [hassert]
          rfl
        · have hmore : skb_wrsz (upgrade { sk with recvbuf := skb_reset sk.recvbuf, sendbuf }).sendbuf ≠ 0 := by
            change skb_wrsz sendbuf ≠ 0
            omega
          simp only [hmore, not_false_eq_true, decide_true, assert_true, Except.ok_bind]
          have hout := turn_on_out { upgrade { sk with sendbuf } with recvbuf := skb_compact (skb_reset sk.recvbuf) }
          have hon : (sk.events.union EPOLLOUT).EPOLLOUT = true := by
            simp [EpollEvents.union, EPOLLOUT]
          refine .inr ⟨fun h => ?_, _, congrArg (fun sk => Except.ok (0, sk, wsd_errno)) hout,
            .inr ⟨rfl, rfl, rfl, hon, key, proto, hkeytrim, hechoed, hput.readable hok⟩⟩
          obtain ⟨proto', hechoed', hfull'⟩ := h.full
          cases hechoed.unique hechoed'
          exact hfull hfull'

end Decode

section Recv

variable {cfg : Config} {ssl : Openssl} {sk : Sk} {st : Statics}

/-- A request is parsed in one way. -/
theorem Parsed.unique {tok tok' : Chunk} {line line' hreq hreq' : HttpReq} (h : Parsed sk st tok line hreq)
    (h' : Parsed sk st tok' line' hreq') : hreq = hreq' := by
  obtain ⟨prev, e, ⟨rv, e1, rv', line1, e2, htok, -, hparse, -, hvalid⟩, hwalk, rfl⟩ := h
  obtain ⟨prev', e', ⟨rv3, e3, rv4, line4, e4, htok', -, hparse', -, hvalid'⟩, hwalk', rfl⟩ := h'
  rw [htok] at htok'
  cases htok'
  rw [hparse] at hparse'
  cases hparse'
  rw [hvalid] at hvalid'
  cases hvalid'
  have hloop := @HeaderWalk.header_loop _ _ _ _ (SKB_SIZE + 1) hwalk (by decide) (fun p _ => by omega)
  have hloop' := @HeaderWalk.header_loop _ _ _ _ (SKB_SIZE + 1) hwalk' (by decide) (fun p _ => by omega)
  rw [hloop] at hloop'
  simp only [Except.ok.injEq, Prod.mk.injEq, true_and] at hloop'
  exact hloop'.1

/-- The three endings exclude each other. -/
theorem exists_unique_ending {r : Int × Sk × Statics × Errno} {ending : Ending} (h : Ends cfg ssl sk st r ending) :
    ∃! ending, Ends cfg ssl sk st r ending := by
  have hrv (ending : Ending) (h : Ends cfg ssl sk st r ending) : r.1 = if ending = .switched then 0 else -1 := by
    cases ending with
    | switched =>
      obtain ⟨tok, line, hreq, -, hswitched⟩ := h
      exact hswitched.rv_eq
    | responded => exact Responded.rv_eq h
    | dropped => exact Dropped.rv_eq h
  refine ⟨ending, h, fun other hother => ?_⟩
  have hsame := (hrv ending h).symm.trans (hrv other hother)
  cases ending with
  | switched =>
    cases other with
    | switched => rfl
    | responded => cases hsame
    | dropped => cases hsame
  | responded =>
    cases other with
    | switched => cases hsame
    | responded => rfl
    | dropped =>
      have hclose := (Responded.close_on_write h).symm.trans (Dropped.close_on_write hother)
      cases hclose
  | dropped =>
    cases other with
    | switched => cases hsame
    | responded =>
      have hclose := (Responded.close_on_write hother).symm.trans (Dropped.close_on_write h)
      cases hclose
    | dropped => rfl

theorem AllOrNothing.of_ends {r : Int × Sk × Statics × Errno} {ending : Ending} (hrecv : http_recv cfg ssl sk st = .ok r)
    (h : Ends cfg ssl sk st r ending) : AllOrNothing cfg ssl sk st :=
  ⟨r, hrecv, .inr (exists_unique_ending h)⟩

/-- A refused request ends with an answer or without. -/
theorem AllOrNothing.of_refused {r : Int × Sk × Statics × Errno} (hrecv : http_recv cfg ssl sk st = .ok r)
    (h : Responded sk r.2.1 r.1 r.2.2.2 ∨ Dropped sk r.2.1 r.1 r.2.2.2) : AllOrNothing cfg ssl sk st := by
  obtain hresponded | hdropped := h
  · exact .of_ends hrecv (show Ends cfg ssl sk st r .responded from hresponded)
  · exact .of_ends hrecv (show Ends cfg ssl sk st r .dropped from hdropped)

/-- What `http_recv` is called with: a client which has not been answered before, with room for at
    least one of the error responses, whose header lines all contain a colon and whose key is not
    longer than the scratch array allows. -/
structure Requesting (sk : Sk) (st : Statics) : Prop where
  recvbuf_ok : sk.recvbuf.Ok
  sendbuf_ok : sk.sendbuf.Ok
  rdsz_ne_zero : skb_rdsz sk.recvbuf ≠ 0
  decode_handshake : sk.proto.decode_handshake = some .ws_decode_handshake
  close_on_write : sk.close_on_write = false
  room : ∃ response ∈ error_responses, response.length ≤ skb_wrsz sk.sendbuf
  colon : ∀ tok, HeaderTokenOf sk tok → ¬ tok.NameOnly sk.recvbuf.data
  key : ∀ tok line hreq, Parsed sk st tok line hreq → ∀ key, trim sk.recvbuf.data hreq.sec_ws_key = .ok key →
    key.len ≤ 27

theorem Requesting.wrsz_ne_zero (h : Requesting sk st) : skb_wrsz sk.sendbuf ≠ 0 := by
  obtain ⟨response, hmem, hroom⟩ := h.room
  have hpos : ∀ response ∈ error_responses, response.length ≠ 0 := by decide +kernel
  have hne := hpos response hmem
  omega

/-- The end of `http_recv` behind a request which is not well formed. -/
theorem Requesting.bad_request_ends (h : Requesting sk st) (st' : Statics) :
    Responded sk (bad_request (put_response sk http.HTTP_400) st').2.1
      (bad_request (put_response sk http.HTTP_400) st').1 (bad_request (put_response sk http.HTTP_400) st').2.2.2 ∨
    Dropped sk (bad_request (put_response sk http.HTTP_400) st').2.1
      (bad_request (put_response sk http.HTTP_400) st').1 (bad_request (put_response sk http.HTTP_400) st').2.2.2 :=
  @handshake_error_ends sk sk.sendbuf sk.recvbuf http.HTTP_400 h.sendbuf_ok h.close_on_write (.refl h.sendbuf_ok)
    (by simp [error_responses]) _ rfl

theorem parse_request_line_zero {data : Memory UInt8} {p : Option Nat} {line : HttpReq} {rv : Int} {e e' : Errno}
    (h : parse_request_line data { p, len := 0 } {} e = .ok (rv, line, e')) : rv < 0 := by
  cases h
  decide

/-- The header block is walked over, or the request is refused because of its first line. -/
theorem Requesting.walk_cases (h : Requesting sk st) (hrnrn : has_rnrn_termination sk.recvbuf = true) :
    (∃ r, http_recv cfg ssl sk st = .ok r ∧ (Responded sk r.2.1 r.1 r.2.2.2 ∨ Dropped sk r.2.1 r.1 r.2.2.2) ∧
      ∀ tok line hreq, ¬ Parsed sk st tok line hreq) ∨
    ∃ tok line prev e, RequestLine sk st tok line prev ∧ HeaderWalk sk.recvbuf.data line prev e ∧
      ∀ chk ∈ e.hreq.values, FieldValue sk.recvbuf.data chk := by
  obtain ⟨r, hle, -, hterminated⟩ := has_rnrn_inv h.recvbuf_ok hrnrn
  unfold http_recv
  simp only [h.rdsz_ne_zero, ne_eq, not_false_eq_true, decide_true, assert_true, Except.ok_bind, hrnrn, Bool.not_true,
    Bool.false_eq_true, if_false]
  obtain ⟨prev, e, htok⟩ | ⟨len, htok, hnext⟩ :=
    @http_header_tok_cases sk.recvbuf.data r sk.recvbuf.rdpos (some sk.recvbuf.rdpos) st.http_header_tok rfl (.inl hle)
      hterminated
  · -- The line is not tokenised.
    simp only [htok, Except.ok_bind, show (-1 : Int) < 0 by decide, if_true]
    refine .inl ⟨_, rfl, .inr (handshake_error_dropped h.sendbuf_ok h.close_on_write (.refl h.sendbuf_ok)), ?_⟩
    rintro tok line hreq ⟨prev', e', ⟨rv, e1, rv', line', e2, htok', hrv, -⟩, -⟩
    rw [htok] at htok'
    cases htok'
    exact hrv (by decide)
  have hpos : ¬ (len : Int) < 0 := by omega
  simp only [htok, Except.ok_bind, hpos, if_false]
  obtain ⟨rv, line, e, hparse, hpointers⟩ :=
    @parse_request_line_cases sk.recvbuf.data { p := some sk.recvbuf.rdpos, len } _ {} .WSD_CHECKERRNO rfl
  simp only [hparse, Except.ok_bind]
  by_cases hrv : rv < 0
  · simp only [hrv, if_true]
    refine .inl ⟨_, rfl, h.bad_request_ends _, ?_⟩
    rintro tok line' hreq ⟨prev', e', ⟨rv1, e1, rv', line'', e2, htok', -, hparse', hrv', -⟩, -⟩
    rw [htok] at htok'
    cases htok'
    rw [hparse] at hparse'
    cases hparse'
    exact hrv' hrv
  simp only [hrv, if_false]
  obtain ⟨hmethod, htarget⟩ := hpointers hrv
  obtain ⟨valid, line', hvalid⟩ := @is_valid_req_line_ok sk.recvbuf.data line hmethod htarget
  simp only [hvalid, Except.ok_bind]
  cases valid with
  | false =>
    refine .inl ⟨_, rfl, h.bad_request_ends _, ?_⟩
    rintro tok line1 hreq ⟨prev', e', ⟨rv1, e1, rv', line2, e2, htok', -, hparse', -, hvalid'⟩, -⟩
    rw [htok] at htok'
    cases htok'
    rw [hparse] at hparse'
    cases hparse'
    rw [hvalid] at hvalid'
    cases hvalid'
  | true =>
    have hlen : len ≠ 0 := by
      rintro rfl
      exact hrv (parse_request_line_zero hparse)
    have hline : RequestLine sk st { p := some sk.recvbuf.rdpos, len } line' (some (sk.recvbuf.rdpos + len + 2)) :=
      ⟨_, _, rv, line, e, htok, hpos, hparse, hrv, hvalid⟩
    obtain ⟨e', hwalk, hvalues⟩ := @exists_headerWalk sk.recvbuf.data r hterminated SKB_SIZE _ line'
      (fun start hstart => by
        cases hstart
        have hlt := hterminated.lt
        exact ⟨hnext hlen, by omega⟩)
      (fun tok htoken => h.colon tok ⟨_, _, _, _, _, htok, by omega, htoken⟩)
    refine .inr ⟨_, line', _, e', hline, hwalk, hvalues fun chk hchk => ?_⟩
    rw [(is_valid_req_line_inv hvalid).1] at hchk
    replace hchk : chk ∈ line.values := hchk
    rw [parse_request_line_values hparse] at hchk
    simp only [HttpReq.values, List.mem_cons, List.not_mem_nil, or_false, or_self] at hchk
    rw [hchk]
    exact .absent

/-- A call for a request ends in one of the three ways, unless the response to an accepted request fills
    the send buffer to its last byte. -/
theorem Requesting.all_or_nothing_iff (h : Requesting sk st) :
    AllOrNothing cfg ssl sk st ↔ ¬ ∃ tok line hreq, Overfills cfg sk st tok line hreq := by
  cases hrnrn : has_rnrn_termination sk.recvbuf with
  | false =>
    refine iff_of_true ⟨(-1, sk, st, .WSD_EINPUT), ?_, .inl ⟨show (-1 : Int) < 0 by decide, rfl⟩⟩ ?_
    · unfold http_recv
      simp only [h.rdsz_ne_zero, ne_eq, not_false_eq_true, decide_true, assert_true, Except.ok_bind, hrnrn]
      rfl
    · rintro ⟨tok, line, hreq, hover⟩
      have htrue := hover.rnrn
      rw [hrnrn] at htrue
      cases htrue
  | true =>
    obtain ⟨r, hrecv, hends, hnone⟩ | ⟨tok, line, prev, e, hline, hwalk, hvalues⟩ :=
      @Requesting.walk_cases cfg ssl sk st h hrnrn
    · apply iff_of_true (.of_refused hrecv hends)
      rintro ⟨tok, line, hreq, hover⟩
      exact hnone tok line hreq hover.parsed
    have hparsed : Parsed sk st tok line e.hreq := ⟨prev, e, hline, hwalk, rfl⟩
    have hrecv := http_recv_walked cfg ssl h.rdsz_ne_zero hrnrn hline hwalk
    obtain ⟨valid, field, hfields⟩ :=
      valid_fields_ok hvalues { prev := st.http_field_value_tok, wsd_errno := e.wsd_errno }
    rw [hfields] at hrecv
    simp only [Except.ok_bind] at hrecv
    cases valid with
    | false =>
      apply iff_of_true (.of_refused hrecv (h.bad_request_ends _))
      rintro ⟨tok', line', hreq, hover⟩
      obtain ⟨field1, field2, hvalid⟩ := hover.fields
      cases hparsed.unique hover.parsed
      exact Bool.false_ne_true (valid_fields_same hvalues hvalid hfields)
    | true =>
      simp only [Bool.not_true, Bool.false_eq_true, if_false, h.decode_handshake] at hrecv
      obtain ⟨hfills, fault, hdecode⟩ | ⟨hfree, r, hdecode, hends⟩ :=
        @ws_decode_handshake_ends cfg ssl sk e.hreq h.sendbuf_ok h.close_on_write h.wrsz_ne_zero hvalues hparsed.collected
          (h.key tok line e.hreq hparsed) field.wsd_errno
      · refine iff_of_false ?_ (not_not.2 ⟨tok, line, e.hreq, hrnrn, hparsed, ⟨_, field, hfields⟩, hfills⟩)
        rintro ⟨r, hok, -⟩
        rw [hrecv] at hok
        obtain ⟨r', hdecode', -⟩ := Except.bind_eq_ok_iff.mp hok
        have hfault := hdecode.symm.trans hdecode'
        cases hfault
      · have hrecv' : http_recv cfg ssl sk st =
            .ok (r.1, r.2.1, { http_header_tok := e.prev, http_field_value_tok := field.prev }, r.2.2) :=
          hrecv.trans (Except.bind_eq_ok_iff.mpr ⟨r, hdecode, rfl⟩)
        refine iff_of_true ?_ ?_
        · obtain hrefused | hswitched := hends
          · exact .of_refused hrecv' hrefused
          · exact @AllOrNothing.of_ends cfg ssl sk st _ .switched hrecv' ⟨tok, line, e.hreq, hparsed, hswitched⟩
        · rintro ⟨tok', line', hreq, hover⟩
          cases hparsed.unique hover.parsed
          exact hfree hover.fills

end Recv

end wsd

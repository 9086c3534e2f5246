import Wsd.Http.Walk

namespace wsd

/-- The fields which the lines of a block set, where every name is looked up as a whole. -/
def gather : Nat → List (List UInt8 × List UInt8) → HttpReq → HttpReq
  | _, [], req => req
  | p, (name, value) :: lines, req =>
    gather (p + (name.length + (value.length + 1)) + 2) lines
      (match fieldOf name with
        | some F => F.assign (lineValue p name value) req
        | none => req)

section Gather

variable {data : Memory UInt8} {p : Nat} {lines : List (List UInt8 × List UInt8)}

theorem Block.collect_eq (h : Block data p lines) (req : HttpReq) : collect data p lines req = gather p lines req := by
  induction lines generalizing p req with
  | nil => rfl
  | cons line lines ih =>
    obtain ⟨name, value⟩ := line
    obtain ⟨hline, -, -, hrest⟩ := h.head
    cases hname : fieldOf name with
    | none => simp only [collect, gather, hline.field_at_eq, hname, ih hrest]
    | some F => simp only [collect, gather, hline.field_at_eq, hname, ih hrest]

theorem gather_append (lines' : List (List UInt8 × List UInt8)) (req : HttpReq) :
    gather p (lines ++ lines') req = gather (p + (lines.flatMap lineBytes).length) lines' (gather p lines req) := by
  induction lines generalizing p req with
  | nil => rfl
  | cons line lines ih =>
    obtain ⟨name, value⟩ := line
    have hlen : (lineBytes (name, value)).length = name.length + (value.length + 1) + 2 := by
      simp [lineBytes]
      omega
    rw [List.cons_append, gather, gather, ih, List.flatMap_cons, List.length_append, hlen]
    congr 1
    omega

/-- The values which a block sets stand in front of line ends. -/
theorem Block.collect_values (h : Block data p lines) {req : HttpReq} (hreq : ∀ chk ∈ req.values, FieldValue data chk) :
    ∀ chk ∈ (collect data p lines req).values, FieldValue data chk := by
  induction lines generalizing p req with
  | nil => exact hreq
  | cons line lines ih =>
    obtain ⟨name, value⟩ := line
    obtain ⟨hline, hcr, hlf, hrest⟩ := h.head
    rw [collect]
    apply ih hrest
    cases field_at data p with
    | none => exact hreq
    | some F =>
      refine mem_of_forall₂ (F.assign_values _ req) fun old hold new hnew => ?_
      obtain rfl | rfl := hnew
      · exact hreq _ hold
      · have hle := hrest.le
        have hend : p + (name.length + 1) + value.length = p + (name.length + (value.length + 1)) := by omega
        refine .line (by omega) ?_ ?_
        · rwa [hend]
        · rwa [hend]

/-- Lines of the user agent set no other field. -/
theorem gather_user_agent (h : ∀ line ∈ lines, fieldOf line.1 = some .user_agent) (req : HttpReq) :
    ∃ user_agent, gather p lines req = { req with user_agent } := by
  induction lines generalizing p req with
  | nil => exact ⟨req.user_agent, rfl⟩
  | cons line lines ih =>
    obtain ⟨name, value⟩ := line
    have hname : fieldOf name = some .user_agent := h _ List.mem_cons_self
    obtain ⟨agent, hrest⟩ := ih (fun line hmem => h line (List.mem_cons_of_mem _ hmem))
      (Field.assign (lineValue p name value) req .user_agent)
      (p := p + (name.length + (value.length + 1)) + 2)
    refine ⟨agent, ?_⟩
    rw [gather, hname]
    exact hrest

end Gather

section Line

variable {data : Memory UInt8} {p : Nat} {target : List UInt8}

theorem strncmp_eq_of_window {lit : List UInt8} (h : data.window p lit.length = lit) :
    strncmp_eq data p lit lit.length = true := by
  induction lit generalizing p with
  | nil => rfl
  | cons c lit ih =>
    rw [List.length_cons, Memory.window_succ] at h
    obtain ⟨hfirst, hrest⟩ := List.cons.inj h
    rw [List.length_cons, strncmp_eq, hfirst, ih hrest, beq_self_eq_true, Bool.and_self]

/-- A request line of the method GET and a target which does not start with an asterisk is parsed, and is valid. -/
theorem request_line_valid {len : Nat} {c : UInt8} (hlen : len < SKB_SIZE)
    (htext : RequestText (ascii "GET") (c :: target) (data.window p len)) (hc : c ≠ 42) :
    ∃ line' line, parse_request_line data { p := some p, len } {} .WSD_CHECKERRNO = .ok (0, line', .WSD_CHECKERRNO) ∧
      is_valid_req_line data line' = .ok (true, line) ∧ line.req_target.bytes data = c :: target ∧
      line = { requestLine p (ascii "GET") (c :: target) {} with is_uri_abs := line.is_uri_abs } := by
  obtain ⟨method', target', htext', hparse⟩ | ⟨hno, -⟩ :=
    @parse_request_line_spec data p len {} .WSD_CHECKERRNO (by unfold SKB_SIZE at hlen; omega)
  · obtain ⟨rfl, rfl⟩ := htext'.unique htext
    obtain ⟨hmethod, htarget, -⟩ := requestLine_bytes {} htext
    have hget : compare_at (strncmp_eq data) (some p) (ascii "GET") 3 = .ok true :=
      congrArg Except.ok (strncmp_eq_of_window hmethod)
    have hfirst : data (p + (ascii "GET").length + 1) = c := by
      have hwindow : data.window (p + (ascii "GET").length + 1) (target.length + 1) = c :: target := htarget
      rw [Memory.window_succ] at hwindow
      exact (List.cons.inj hwindow).1
    have hany : compare_at (strncmp_eq data) (some (p + (ascii "GET").length + 1)) (ascii "*") (target.length + 1) =
        .ok false := by
      have hne : (c == 42) = false := beq_eq_false_iff_ne.mpr hc
      have hstar : ascii "*" = [42] := rfl
      rw [compare_at, if_neg (Nat.succ_ne_zero _), hstar]
      simp only [strncmp_eq, hfirst, hne, Bool.false_and]
    obtain ⟨abs, habs⟩ : ∃ abs, compare_at (strncasecmp_eq data) (some (p + (ascii "GET").length + 1))
        (ascii "http://") 7 = .ok abs := ⟨_, rfl⟩
    refine ⟨requestLine p (ascii "GET") (c :: target) {},
      { requestLine p (ascii "GET") (c :: target) {} with is_uri_abs := abs }, hparse, ?_, htarget, rfl⟩
    have hthree : (requestLine p (ascii "GET") (c :: target) {}).method.len = 3 := rfl
    unfold is_valid_req_line
    rw [if_pos hthree]
    simp only [requestLine, List.length_cons, hget, hany, habs, Except.ok_bind, Bool.not_true, Bool.false_eq_true, if_false]
    cases abs with
    | true => rfl
    | false => rfl
  · exact absurd ⟨_, _, htext⟩ hno

/-- A request line which is accepted at the start of a method and of a target without a space holds the target,
    the version and a line end. -/
theorem RequestLine.target_eq {sk : Sk} {st : Statics} {tok : Chunk} {line : HttpReq} {prev : Option Nat}
    {tail : List UInt8} (h : RequestLine sk st tok line prev) (hrdpos : sk.recvbuf.rdpos = 0)
    (hend : EndsWith sk.recvbuf.data 0 (ascii "GET" ++ SPACE :: (target ++ SPACE :: tail))) (hspace : SPACE ∉ target) :
    ∃ (p : Nat) (rest : List UInt8), tail = HTTP_version ++ CR :: LF :: rest ∧ prev = some p ∧
      EndsWith sk.recvbuf.data p rest ∧ (∀ c ∈ target, is_rfc7230_start_line c = true) ∧
      line.req_target.bytes sk.recvbuf.data = target ∧ line.sec_ws_key = .null ∧ line.sec_ws_ver = .null := by
  obtain ⟨rv, e1, rv', line', e2, htok, hrv, hparse, hrv', hvalid⟩ := h
  rw [hrdpos] at htok
  obtain ⟨len, rfl, rfl, hlt, hclass, hcr, hlf⟩ := http_header_tok_start_inv htok hrv
  obtain ⟨method, target', htext, hparse'⟩ | ⟨-, req', errno', hparse'⟩ :=
    @parse_request_line_spec sk.recvbuf.data 0 len {} e1 (by unfold SKB_SIZE at hlt; omega)
  swap
  · rw [hparse'] at hparse
    cases hparse
    exact absurd (by decide) hrv'
  rw [hparse'] at hparse
  cases hparse
  obtain ⟨hmethod, htarget, -⟩ := requestLine_bytes {} htext
  obtain ⟨huri, -⟩ := is_valid_req_line_inv hvalid
  -- The line and its end are the front of the bytes.
  have hin : len + 2 ≤ (ascii "GET" ++ SPACE :: (target ++ SPACE :: tail)).length := by
    have hlast := hend.lt (i := 0 + len + 1) (by rw [hlf]; decide)
    omega
  have hfront : (ascii "GET" ++ SPACE :: (target ++ SPACE :: tail)).take (len + 2) =
      sk.recvbuf.data.window 0 len ++ [CR, LF] := by
    have hbytes := congrArg (List.take (len + 2)) hend.bytes
    rw [Memory.take_window _ hin, Memory.window_add, Memory.window_succ, Memory.window_succ, Memory.window_zero, hcr,
      hlf] at hbytes
    exact hbytes.symm
  have hwhole : ascii "GET" ++ SPACE :: (target ++ SPACE :: tail) = method ++ SPACE :: (target' ++ SPACE ::
      (HTTP_version ++ CR :: LF :: (ascii "GET" ++ SPACE :: (target ++ SPACE :: tail)).drop (len + 2))) := by
    conv_lhs => rw [← List.take_append_drop (len + 2) (ascii "GET" ++ SPACE :: (target ++ SPACE :: tail)), hfront, htext.text_eq]
    simp only [List.append_assoc, List.cons_append, List.nil_append]
  have hupper : ∀ c ∈ ascii "GET", (!isupper c) = false := by decide +kernel
  obtain ⟨rfl, -, hrest⟩ := split_unique (fun c => !isupper c) hupper (by decide) htext.upper_stop (by decide) hwhole
  have hstop : ∀ c ∈ target, (c == SPACE) = false := by
    intro c hc
    rw [beq_eq_false_iff_ne]
    rintro rfl
    exact hspace hc
  obtain ⟨rfl, -, htail⟩ := split_unique (· == SPACE) hstop (by decide) htext.space_stop (by decide) hrest
  refine ⟨_, _, htail, rfl, by simpa only [Nat.zero_add] using hend.drop hin, ?_, ?_, ?_, ?_⟩
  · intro c hc
    have hmem : c ∈ sk.recvbuf.data.window 0 len := by
      rw [htext.text_eq]
      exact List.mem_append_right _ (List.mem_cons_of_mem _ (List.mem_append_left _ hc))
    obtain ⟨i, hi, rfl⟩ := List.mem_iff_getElem.mp hmem
    rw [Memory.length_window] at hi
    rw [Memory.getElem_window]
    exact hclass i hi
  · rw [huri]
    exact htarget
  · rw [huri]
    rfl
  · rw [huri]
    rfl

end Line

section Decode

variable {cfg : Config} {ssl : Openssl} {sk : Sk} {hreq : HttpReq}

/-- A request of the version 13 which asks for no protocol is answered by the switching response. -/
theorem ws_decode_handshake_switches (hok : sk.sendbuf.Ok) (hopen : sk.close_on_write = false)
    (hroom : 182 < skb_wrsz sk.sendbuf) (hvalues : ∀ chk ∈ hreq.values, FieldValue sk.recvbuf.data chk)
    (hcollected : ∀ chk ∈ hreq.values, Collected sk.recvbuf.data chk) (hproto : hreq.sec_ws_proto = .null) {key ver : Chunk}
    (hkey : trim sk.recvbuf.data hreq.sec_ws_key = .ok key) (hfits : key.len ≤ 27)
    (hver : trim sk.recvbuf.data hreq.sec_ws_ver = .ok ver) (hthirteen : ver.bytes sk.recvbuf.data = FLD_SEC_WS_VER_VAL)
    (wsd_errno : Errno) :
    ∃ r, ws_decode_handshake cfg ssl { sk with recvbuf := skb_reset sk.recvbuf } hreq wsd_errno = .ok r ∧
      Switched cfg ssl sk.recvbuf.data hreq sk r.2.1 r.1 := by
  have hnull : trim sk.recvbuf.data .null = .ok .null := rfl
  have hdata : (skb_reset sk.recvbuf).data = sk.recvbuf.data := rfl
  have hvalid : is_valid_ver sk.recvbuf.data hreq = .ok (true, { hreq with sec_ws_ver := ver }) := by
    have hlen : ver.len = FLD_SEC_WS_VER_VAL.length := by
      rw [← hthirteen, Chunk.length_bytes]
    have hsame : compare_at (strncmp_eq sk.recvbuf.data) ver.p FLD_SEC_WS_VER_VAL ver.len = .ok true := by
      obtain hzero | ⟨-, q, -, hq, -⟩ := trim_inv hver
      · rw [hzero] at hlen
        cases hlen
      · rw [Chunk.bytes, hq, Option.getD_some, hlen] at hthirteen
        rw [hq, hlen, compare_at, if_neg (by decide)]
        exact congrArg Except.ok (strncmp_eq_of_window hthirteen)
    unfold is_valid_ver
    rw [hver]
    simp only [Except.ok_bind, hsame, Except.pure_eq_ok]
  have hcheck : check_proto cfg sk.recvbuf.data { hreq with sec_ws_ver := ver } =
      .ok (true, { hreq with sec_ws_ver := ver }) := by
    unfold check_proto
    cases cfg.sec_ws_proto with
    | none => rfl
    | some proto =>
      have hnone : compare_at (strncmp_eq sk.recvbuf.data) Chunk.null.p proto Chunk.null.len = .ok true := rfl
      have hsame : ({ hreq with sec_ws_ver := ver, sec_ws_proto := .null } : HttpReq) = { hreq with sec_ws_ver := ver } := by
        rw [← hproto]
      unfold is_valid_proto
      simp only [hproto, hnull, Except.ok_bind, hnone, hsame, Except.pure_eq_ok]
  have hechoed : Echoed cfg sk.recvbuf.data hreq.sec_ws_proto .null := by
    unfold Echoed
    rw [hproto]
    cases cfg.sec_ws_proto with
    | none => exact hnull
    | some proto => exact ⟨.null, hnull, hnull⟩
  have hprepare : ∃ b' req', prepare_handshake ssl sk.recvbuf.data sk.sendbuf { hreq with sec_ws_ver := ver } =
      .ok (0, b', req') := by
    obtain ⟨hshort, -⟩ | ⟨b', req', hprepare, -⟩ :=
      @prepare_handshake_cases ssl sk.recvbuf.data sk.sendbuf { hreq with sec_ws_ver := ver } key .null hok
        (hcollected _ (by simp [HttpReq.values])) hkey hfits (by rw [hproto]; exact hnull) (by simp [Chunk.bytes, Chunk.null])
    · simp only [Chunk.null] at hshort
      omega
    · exact ⟨b', req', hprepare⟩
  obtain ⟨b', req', hprepare⟩ := hprepare
  obtain ⟨hfills, -⟩ | ⟨-, r, hdecode, hends⟩ := @ws_decode_handshake_ends cfg ssl sk hreq hok hopen (by omega) hvalues
    hcollected (fun key' hkey' => by rw [hkey] at hkey'; cases hkey'; exact hfits) wsd_errno
  · exfalso
    obtain ⟨proto, hechoed', hfull⟩ := hfills.full
    cases hechoed.unique hechoed'
    simp only [Chunk.null] at hfull
    omega
  · refine ⟨r, hdecode, ?_⟩
    -- A refusal returns -1, but none of the checks fails.
    have hrv : r.1 = 0 := by
      unfold ws_decode_handshake at hdecode
      simp only [hdata, hvalid, Except.ok_bind, Bool.not_true, Bool.false_eq_true, if_false, hcheck, hprepare] at hdecode
      obtain ⟨-, -, hdecode⟩ := Except.bind_eq_ok_iff.mp hdecode
      rw [if_neg (by decide)] at hdecode
      obtain ⟨-, -, hdecode⟩ := Except.bind_eq_ok_iff.mp hdecode
      obtain ⟨-, -, hdecode⟩ := Except.bind_eq_ok_iff.mp hdecode
      cases hdecode
      rfl
    obtain (hresponded | hdropped) | hswitched := hends
    · have hneg := hresponded.rv_eq
      omega
    · have hneg := hdropped.rv_eq
      omega
    · exact hswitched

end Decode

end wsd

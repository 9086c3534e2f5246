import Wsd.Http.Accepted
import Wsd.Wscat.Request

namespace wsd

/-- Trimmed, a chunk holds the bytes. -/
def Trims (data : Memory UInt8) (chk : Chunk) (bytes : List UInt8) : Prop :=
  ∃ chk', trim data chk = .ok chk' ∧ chk'.bytes data = bytes

/-- A client of the daemon in front of its handshake, which has received the bytes. -/
structure Awaiting (sk : Sk) (text : List UInt8) : Prop where
  recvbuf_ok : sk.recvbuf.Ok
  readable : sk.recvbuf.readable = text
  sendbuf_ok : sk.sendbuf.Ok
  room : 182 < skb_wrsz sk.sendbuf
  close_on_write : sk.close_on_write = false
  decode_handshake : sk.proto.decode_handshake = some .ws_decode_handshake

/-- The daemon switches to websocket mode, and has found the target, the host, the key and the version. -/
def Understood (cfg : Config) (ssl : Openssl) (sk : Sk) (st : Statics) (target host key ver : List UInt8) : Prop :=
  ∃ tok line hreq r, Parsed sk st tok line hreq ∧ http_recv cfg ssl sk st = .ok r ∧
    Switched cfg ssl sk.recvbuf.data hreq sk r.2.1 r.1 ∧ hreq.req_target.bytes sk.recvbuf.data = target ∧
    Trims sk.recvbuf.data hreq.host host ∧ Trims sk.recvbuf.data hreq.sec_ws_key key ∧
    Trims sk.recvbuf.data hreq.sec_ws_ver ver

/-- The request which wscat writes for a URI is understood by the daemon, whichever client it comes from. -/
def HandshakeCompletes (s : CString) (cfg : RequestConfig) : Prop :=
  hostText s.chars ≠ [] ∧ ∀ fd, ∃ wssk, create_http_req cfg (sk_init fd 0) = .ok (0, wssk) ∧
    ∀ cfg' ssl sk st, Awaiting sk wssk.sendbuf.readable →
      Understood cfg' ssl sk st (pathAndQuery s.chars) (hostText s.chars) cfg.sec_ws_key cfg.sec_ws_ver

/-- The request fits the send buffer, for a target and a host of the given lengths, or what does not fit is
    something at which the daemon does not look: the host of the origin, the value of the user agent, or all
    of the user agent's line. -/
def RequestFits (target host : Nat) : Prop :=
  let origin := if 79 + target + 2 * host ≤ SKB_SIZE then host else 0
  let used := 196 + target + host + origin
  used ≤ SKB_SIZE ∧ (SKB_SIZE - used = 4 ∨ SKB_SIZE - used = 16 ∨ 21 ≤ SKB_SIZE - used)

/-- What the daemon's tokeniser demands of a URI. -/
structure Conforms (text : List UInt8) : Prop where
  direct : DirectPath text
  front : frontText text = hostText text
  host_ne : hostText text ≠ []
  target_class : ∀ c ∈ pathAndQuery text, is_rfc7230_start_line c = true
  host_class : ∀ c ∈ hostText text, is_rfc7230_field_value c = true
  fits : RequestFits (pathAndQuery text).length (hostText text).length

instance (target host : Nat) : Decidable (RequestFits target host) :=
  inferInstanceAs (Decidable (_ ∧ _))

instance (text : List UInt8) : Decidable (Conforms text) :=
  decidable_of_iff (DirectPath text ∧ frontText text = hostText text ∧ hostText text ≠ [] ∧
      (pathAndQuery text).all is_rfc7230_start_line = true ∧ (hostText text).all is_rfc7230_field_value = true ∧
      RequestFits (pathAndQuery text).length (hostText text).length)
    ⟨fun ⟨direct, front, host_ne, target_class, host_class, fits⟩ =>
      ⟨direct, front, host_ne, List.all_eq_true.mp target_class, List.all_eq_true.mp host_class, fits⟩,
      fun h => ⟨h.direct, h.front, h.host_ne, List.all_eq_true.mpr h.target_class, List.all_eq_true.mpr h.host_class,
        h.fits⟩⟩

/-- The key and the version which wscat sends by default. -/
def defaultKey : List UInt8 := ascii "B9Pc1t39Tqoj+fidr/bzeg=="

def defaultVer : List UInt8 := ascii "13"

def requestStart (target : List UInt8) : List UInt8 :=
  ascii "GET" ++ SPACE :: (target ++ SPACE :: HTTP_version)

/-- The header lines up to the version, with what has been put of the host and of the origin's. -/
def requestFields (host origin : List UInt8) : List (List UInt8 × List UInt8) :=
  [(ascii "Upgrade", ascii " websocket"), (ascii "Connection", ascii " Upgrade"), (ascii "Host", SPACE :: host),
    (ascii "Origin", ascii " http://" ++ origin), (ascii "Pragma", ascii " no-cache"),
    (ascii "Cache-Control", ascii " no-cache"), (ascii "Sec-WebSocket-Key", SPACE :: defaultKey),
    (ascii "Sec-WebSocket-Version", SPACE :: defaultVer)]

section Fields

theorem fieldOf_names :
    fieldOf (ascii "Upgrade") = some .upgrade ∧ fieldOf (ascii "Connection") = some .connection ∧
      fieldOf (ascii "Host") = some .host ∧ fieldOf (ascii "Origin") = some .origin ∧ fieldOf (ascii "Pragma") = none ∧
      fieldOf (ascii "Cache-Control") = none ∧ fieldOf (ascii "Sec-WebSocket-Key") = some .sec_ws_key ∧
      fieldOf (ascii "Sec-WebSocket-Version") = some .sec_ws_ver ∧ fieldOf (ascii "User-Agent") = some .user_agent := by
  decide +kernel

/-- A start line consists of the characters of its target, and of others which the tokeniser lets pass. -/
theorem requestStart_class {target : List UInt8} (h : ∀ x ∈ target, is_rfc7230_start_line x = true) :
    ∀ x ∈ requestStart target, is_rfc7230_start_line x = true := by
  have hget : ∀ x ∈ ascii "GET", is_rfc7230_start_line x = true := by decide +kernel
  have hversion : ∀ x ∈ HTTP_version, is_rfc7230_start_line x = true := by decide +kernel
  have hspace : is_rfc7230_start_line SPACE = true := by decide
  intro x hx
  simp only [requestStart, List.mem_append, List.mem_cons] at hx
  obtain hx | rfl | hx | rfl | hx := hx
  · exact hget x hx
  · exact hspace
  · exact h x hx
  · exact hspace
  · exact hversion x hx

/-- A start line and header lines, as lines. -/
theorem textLines_fields (start : List UInt8) (fields : List (List UInt8 × List UInt8)) :
    textLines (start :: fields.map fun field => field.1 ++ COLON :: field.2) =
      start ++ CR :: LF :: fields.flatMap lineBytes := by
  rw [textLines, List.flatMap_cons, List.flatMap_map, List.append_assoc]
  have hline : (fun field : List UInt8 × List UInt8 => field.1 ++ COLON :: field.2 ++ [CR, LF]) = lineBytes := by
    funext field
    simp only [lineBytes, List.append_assoc, List.cons_append]
  rw [hline]
  rfl

theorem requestFields_names {host origin : List UInt8} :
    ∀ line ∈ requestFields host origin, ∀ c ∈ line.1, is_rfc7230_header_field c = true := by
  simp only [requestFields, List.forall_mem_cons]
  decide +kernel

theorem requestFields_values {host origin : List UInt8} (hhost : ∀ c ∈ host, is_rfc7230_field_value c = true)
    (horigin : ∀ c ∈ origin, is_rfc7230_field_value c = true) :
    ∀ line ∈ requestFields host origin, ∀ c ∈ line.2, is_rfc7230_field_value c = true := by
  have hspace : is_rfc7230_field_value SPACE = true := by decide
  have hscheme : ∀ c ∈ ascii " http://", is_rfc7230_field_value c = true := by decide +kernel
  simp only [requestFields, List.forall_mem_cons, List.forall_mem_append]
  refine ⟨by decide +kernel, by decide +kernel, ⟨hspace, hhost⟩, ⟨hscheme, horigin⟩, by decide +kernel, by decide +kernel,
    by decide +kernel, by decide +kernel, ?_⟩
  intro line hline
  cases hline

end Fields

/-- What the daemon has collected of a request. -/
structure Holding (data : Memory UInt8) (hreq : HttpReq) (target host : List UInt8) : Prop where
  target_bytes : hreq.req_target.bytes data = target
  host_trims : Trims data hreq.host host
  host_len : hreq.host.len ≠ 0
  key_trims : Trims data hreq.sec_ws_key defaultKey
  ver_trims : Trims data hreq.sec_ws_ver defaultVer
  upgrade_bytes : hreq.upgrade.bytes data = ascii " websocket"
  conn_bytes : hreq.conn.bytes data = ascii " Upgrade"
  proto_null : hreq.sec_ws_proto = .null
  values : ∀ chk ∈ hreq.values, FieldValue data chk

section Request

variable {sk : Sk} {st : Statics} {c : UInt8} {target host origin junk : List UInt8}
  {agent : List (List UInt8 × List UInt8)}

/-- What is collected from the lines of a request. -/
theorem request_holding {data : Memory UInt8} {p : Nat} {line hreq : HttpReq} {target : List UInt8}
    (hblock : Block data p (requestFields host origin ++ agent))
    (hreq_eq : hreq = collect data p (requestFields host origin ++ agent) line)
    (htarget : line.req_target.bytes data = target) (hvalues : ∀ chk ∈ line.values, FieldValue data chk)
    (hconn : line.conn = .null) (hproto : line.sec_ws_proto = .null)
    (hblank : ∀ x ∈ host, is_blank x = false) (hagent : ∀ line ∈ agent, fieldOf line.1 = some .user_agent) :
    Holding data hreq target host := by
  have hall := hblock.collect_values hvalues
  rw [← hreq_eq] at hall
  rw [hblock.collect_eq, gather_append] at hreq_eq
  obtain ⟨user_agent, hgather⟩ := gather_user_agent hagent (gather p (requestFields host origin) line)
  rw [hgather] at hreq_eq
  obtain ⟨hUpgrade, hConnection, hHost, hOrigin, hPragma, hCache, hKey, hVer, -⟩ := fieldOf_names
  simp only [requestFields, gather, hUpgrade, hConnection, hHost, hOrigin, hPragma, hCache, hKey, hVer, Field.assign,
    hconn, Chunk.null, if_true] at hreq_eq
  simp only [requestFields, List.cons_append, List.nil_append] at hblock
  obtain ⟨hupgrade, -, -, hblock⟩ := hblock.head
  obtain ⟨hconnection, -, -, hblock⟩ := hblock.head
  obtain ⟨hhost, hhostcr, -, hblock⟩ := hblock.head
  obtain ⟨-, -, -, hblock⟩ := hblock.head
  obtain ⟨-, -, -, hblock⟩ := hblock.head
  obtain ⟨-, -, -, hblock⟩ := hblock.head
  obtain ⟨hkey, hkeycr, -, hblock⟩ := hblock.head
  obtain ⟨hver, hvercr, -, -⟩ := hblock.head
  have hkeyblank : ∀ x ∈ defaultKey, is_blank x = false := by decide +kernel
  have hverblank : ∀ x ∈ defaultVer, is_blank x = false := by decide +kernel
  subst hreq_eq
  exact {
    target_bytes := htarget
    host_trims := hhost.trim hblank hhostcr
    host_len := Nat.succ_ne_zero _
    key_trims := hkey.trim hkeyblank hkeycr
    ver_trims := hver.trim hverblank hvercr
    upgrade_bytes := hupgrade.value_bytes
    conn_bytes := hconnection.value_bytes
    proto_null := hproto
    values := hall }

/-- A request whose lines consist of the characters which the tokeniser lets pass is parsed as it is meant. -/
theorem request_parsed (hok : sk.recvbuf.Ok) (hread : sk.recvbuf.readable =
      requestStart (c :: target) ++ CR :: LF :: (blockBytes (requestFields host origin ++ agent) ++ junk))
    (hstar : c ≠ 42) (hspace : SPACE ∉ c :: target) (htarget : ∀ x ∈ c :: target, is_rfc7230_start_line x = true)
    (hhost : ∀ x ∈ host, is_rfc7230_field_value x = true) (hblank : ∀ x ∈ host, is_blank x = false)
    (horigin : ∀ x ∈ origin, is_rfc7230_field_value x = true)
    (hnames : ∀ line ∈ agent, (∀ x ∈ line.1, is_rfc7230_header_field x = true) ∧ fieldOf line.1 = some .user_agent)
    (hvalues : ∀ line ∈ agent, ∀ x ∈ line.2, is_rfc7230_field_value x = true) :
    ∃ tok line prev e, RequestLine sk st tok line prev ∧ HeaderWalk sk.recvbuf.data line prev e ∧
      Holding sk.recvbuf.data e.hreq (c :: target) host := by
  have hget : ∀ x ∈ ascii "GET", isupper x = true := by decide +kernel
  let m : HeaderMessage := {
    startLine := requestStart (c :: target)
    fields := requestFields host origin ++ agent
    start_class := requestStart_class htarget
    names := by
      intro line hline
      obtain hline | hline := List.mem_append.mp hline
      · exact requestFields_names line hline
      · exact (hnames line hline).1
    values := by
      intro line hline
      obtain hline | hline := List.mem_append.mp hline
      · exact requestFields_values hhost horigin line hline
      · exact hvalues line hline }
  have hmessage : sk.recvbuf.readable = m.text ++ junk := by
    rw [hread, HeaderMessage.text, List.append_assoc]
    rfl
  have hlen := sk.recvbuf.length_readable
  have hle := hok.rdpos_le
  have hsize := hok.wrpos_le
  rw [hmessage, List.length_append] at hlen
  have hbytes : sk.recvbuf.data.window sk.recvbuf.rdpos m.text.length = m.text := by
    have htake := congrArg (List.take m.text.length) hmessage
    rwa [List.take_left, Skb.readable, Memory.take_window _ (by omega)] at htake
  obtain ⟨hline, hcr, hlf, hblock⟩ := HeaderMessage.split hbytes (by omega)
  have hlt : sk.recvbuf.rdpos + m.startLine.length < SKB_SIZE := by
    have hblockle := hblock.le
    omega
  have htok := http_header_tok_start st.http_header_tok hline m.start_class hcr hlf hlt
  have htext : RequestText (ascii "GET") (c :: target)
      (sk.recvbuf.data.window sk.recvbuf.rdpos m.startLine.length) := ⟨hget, hspace, hline⟩
  obtain ⟨line', line, hparse, hvalid, hbytes', hline'⟩ := request_line_valid (by omega) htext hstar
  obtain ⟨e, hwalk, -, hreq⟩ := hblock.walk line
  refine ⟨_, line, _, e, ⟨_, _, _, _, _, htok, by omega, hparse, by decide, hvalid⟩, hwalk, ?_⟩
  obtain ⟨abs, rfl⟩ : ∃ abs, line = { requestLine sk.recvbuf.rdpos (ascii "GET") (c :: target) {} with is_uri_abs := abs } :=
    ⟨_, hline'⟩
  exact request_holding hblock hreq hbytes' (fun chk hchk => by
    simp only [HttpReq.values, requestLine, List.mem_cons, List.not_mem_nil, or_false, or_self] at hchk
    rw [hchk]
    exact .absent) rfl rfl hblank (fun line hmem => (hnames line hmem).2)

/-- The daemon switches to websocket mode for what it has collected of a request. -/
theorem Awaiting.understood {text target : List UInt8} {tok : Chunk} {line : HttpReq} {prev : Option Nat} {e : WalkEnd}
    (h : Awaiting sk text) (hrnrn : has_rnrn_termination sk.recvbuf = true) (hline : RequestLine sk st tok line prev)
    (hwalk : HeaderWalk sk.recvbuf.data line prev e) (hold : Holding sk.recvbuf.data e.hreq target host) (cfg : Config)
    (ssl : Openssl) : Understood cfg ssl sk st target host defaultKey defaultVer := by
  have hparsed : Parsed sk st tok line e.hreq := ⟨prev, e, hline, hwalk, rfl⟩
  have hrdsz : skb_rdsz sk.recvbuf ≠ 0 := by
    obtain ⟨r, hle, -, hterminated⟩ := has_rnrn_inv h.recvbuf_ok hrnrn
    intro hzero
    unfold has_rnrn_termination at hrnrn
    rw [hzero] at hrnrn
    cases hrnrn
  have hrecv := http_recv_walked cfg ssl hrdsz hrnrn hline hwalk
  -- The three checks of the fields.
  have hfields : ∃ field, valid_fields sk.recvbuf.data e.hreq { prev := st.http_field_value_tok, wsd_errno := e.wsd_errno } =
      .ok (true, field) := by
    obtain ⟨found, field1, hupgrade, hfound⟩ :=
      @is_valid_upgrade_found sk.recvbuf.data e.hreq (hold.values _ (by simp [HttpReq.values]))
        { prev := st.http_field_value_tok, wsd_errno := e.wsd_errno }
    obtain ⟨found', field2, hconn, hfound'⟩ :=
      @is_valid_connection_found sk.recvbuf.data e.hreq (hold.values _ (by simp [HttpReq.values]))
        (hold.values _ (by simp [HttpReq.values])) field1
    obtain rfl : found = true := by
      apply hfound.mpr
      rw [hold.upgrade_bytes]
      exact ⟨_, List.mem_cons_self, ascii " websocket", by decide +kernel, by decide +kernel⟩
    obtain rfl : found' = true := by
      apply hfound'.mpr
      rw [hold.conn_bytes]
      exact ⟨_, List.mem_cons_self, ascii " Upgrade", by decide +kernel, by decide +kernel⟩
    have hhost : is_valid_host_header_field e.hreq = true := decide_eq_true hold.host_len
    refine ⟨field2, ?_⟩
    unfold valid_fields
    rw [hhost, hupgrade]
    exact hconn
  obtain ⟨field, hfields⟩ := hfields
  obtain ⟨key, hkey, hkeybytes⟩ := hold.key_trims
  obtain ⟨ver, hver, hverbytes⟩ := hold.ver_trims
  have hfits : key.len ≤ 27 := by
    rw [← Chunk.length_bytes sk.recvbuf.data key, hkeybytes]
    decide
  obtain ⟨r, hdecode, hswitched⟩ := @ws_decode_handshake_switches cfg ssl sk e.hreq h.sendbuf_ok h.close_on_write h.room
    hold.values hparsed.collected hold.proto_null key ver hkey hfits hver hverbytes field.wsd_errno
  rw [hfields] at hrecv
  simp only [Except.ok_bind, Bool.not_true, Bool.false_eq_true, if_false, h.decode_handshake] at hrecv
  refine ⟨tok, line, e.hreq, _, hparsed, hrecv.trans (Except.bind_eq_ok_iff.mpr ⟨r, hdecode, rfl⟩), hswitched,
    hold.target_bytes, hold.host_trims, ⟨key, hkey, hkeybytes⟩, ⟨ver, hver, hverbytes⟩⟩

end Request

end wsd

import Wsd.Http.Token

namespace wsd

/-- The text of the eight bytes `HTTP_version`. -/
def HTTP_version : List UInt8 := ascii "HTTP/1.1"

def isupper (c : UInt8) : Bool :=
  65 ≤ c && c ≤ 90

/-- `while (i++ < len) if (stop(*cur++)) break;` where `n` rounds are left. -/
def scan_until (stop : UInt8 → Bool) (data : Memory UInt8) : Nat → Nat → Nat → Nat × Nat
  | 0, i, cur => (i + 1, cur)
  | n + 1, i, cur => if stop (data cur) then (i + 1, cur + 1) else scan_until stop data n (i + 1) (cur + 1)

/-- Parses the HTTP 1.1 request line. -/
def parse_request_line (data : Memory UInt8) (tok : Chunk) (req : HttpReq) (wsd_errno : Errno) :
    Except Fault (Int × HttpReq × Errno) :=
  if tok.len = 0 then
    .ok (-1, req, .WSD_EINPUT)
  else
    match tok.p with
    | none => .error .null_pointer
    | some p =>
      let (i, cur) := scan_until (fun c => !isupper c) data tok.len 0 p
      let len := cur - p
      if len = 0 ∨ data (cur - 1) ≠ SPACE then
        .ok (-1, req, .WSD_ECHAR)
      else
        let req := { req with method := { p := some p, len := len - 1 } }
        let start := cur
        let (i, cur) := scan_until (fun c => c == SPACE) data (tok.len - i) i cur
        let len := cur - start
        if len = 0 ∨ i = len then
          .ok (-1, req, .WSD_ECHAR)
        else
          let req := { req with req_target := { p := some start, len := len - 1 } }
          if u32 (tok.len + 4294967296 - i) ≠ 8 ∨ data.window cur 8 ≠ HTTP_version then
            .ok (-1, req, .WSD_ECHAR)
          else
            .ok (0, { req with http_ver := { p := some start, len := 8 } }, wsd_errno)

/-- The macro `CMP`. -/
def CMP (data : Memory UInt8) (tok : Chunk) (name : String) (name_len : Nat) : Except Fault Bool :=
  compare_at (strncasecmp_eq data) tok.p (ascii name) name_len

def parse_header_field (data : Memory UInt8) (tok : Chunk) (req : HttpReq) : Except Fault (Int × HttpReq) :=
  match tok.p with
  | none => .error .null_pointer
  | some p => do
    let cur ← skip_while (fun c => c != COLON) data (SKB_SIZE - p) p
    let len := cur - p
    let value : Chunk := { p := some (p + len), len := u32 (tok.len + 4294967296 - len) }
    if ← CMP data tok "Host" 4 then
      return (1, { req with host := value })
    else if ← CMP data tok "Upgrade" 7 then
      return (1, { req with upgrade := value })
    else if ← CMP data tok "Connection" 10 then
      if req.conn.len = 0 then
        return (1, { req with conn := value })
      else
        return (1, { req with conn2 := value })
    else if ← CMP data tok "Sec-WebSocket-Key" 17 then
      return (1, { req with sec_ws_key := value })
    else if ← CMP data tok "Sec-WebSocket-Version" 21 then
      return (1, { req with sec_ws_ver := value })
    else if ← CMP data tok "Sec-WebSocket-Protocol" 22 then
      return (1, { req with sec_ws_proto := value })
    else if ← CMP data tok "Sec-WebSocket-Extensions" 24 then
      return (1, { req with sec_ws_ext := value })
    else if ← CMP data tok "Origin" 6 then
      return (1, { req with origin := value })
    else if ← CMP data tok "User-Agent" 10 then
      return (1, { req with user_agent := value })
    else
      return (0, req)

def is_valid_req_line (data : Memory UInt8) (hreq : HttpReq) : Except Fault (Bool × HttpReq) := do
  let is_get ←
    if hreq.method.len = 3 then compare_at (strncmp_eq data) hreq.method.p (ascii "GET") 3 else pure true
  if !is_get then
    return (false, hreq)
  else if ← compare_at (strncmp_eq data) hreq.req_target.p (ascii "*") hreq.req_target.len then
    return (false, hreq)
  else if ← compare_at (strncasecmp_eq data) hreq.req_target.p (ascii "http://") 7 then
    return (true, { hreq with is_uri_abs := true })
  else
    return (true, hreq)

def is_valid_host_header_field (hreq : HttpReq) : Bool :=
  hreq.host.len ≠ 0

/-- The static variable of `http_field_value_tok`, and `wsd_errno`. -/
structure FieldTok where
  prev : Option Chunk
  wsd_errno : Errno

/-- The loop of `is_valid_upgrade_header_field`: each round passes the field
    value, of which the tokeniser has cut off the elements before. -/
def upgrade_loop (data : Memory UInt8) : Nat → Chunk → FieldTok → Except Fault (Bool × FieldTok)
  | 0, _, _ => .error .unfinished
  | fuel + 1, upgrade, st => do
    let (rv, result, prev, wsd_errno) ← http_field_value_tok data (some upgrade) st.prev st.wsd_errno
    if 0 < rv then
      let result ← trim data result
      if ← compare_at (strncasecmp_eq data) result.p (ascii "websocket") 9 then
        return (true, { prev, wsd_errno })
      else
        upgrade_loop data fuel (prev.getD .null) { prev, wsd_errno }
    else
      return (false, { prev, wsd_errno })

def is_valid_upgrade_header_field (data : Memory UInt8) (hreq : HttpReq) (st : FieldTok) :
    Except Fault (Bool × FieldTok) :=
  upgrade_loop data (SKB_SIZE + 1) hreq.upgrade st

def has_upgrade (data : Memory UInt8) (result : Chunk) : Except Fault Bool := do
  let result ← trim data result
  compare_at (strncasecmp_eq data) result.p (ascii "Upgrade") 7

/-- The loop of `tokenise_connection`, which resumes with NULL. -/
def connection_loop (data : Memory UInt8) : Nat → FieldTok → Except Fault (Bool × FieldTok)
  | 0, _ => .error .unfinished
  | fuel + 1, st => do
    let (rv, result, prev, wsd_errno) ← http_field_value_tok data none st.prev st.wsd_errno
    if 0 < rv then
      if ← has_upgrade data result then
        return (true, { prev, wsd_errno })
      else
        connection_loop data fuel { prev, wsd_errno }
    else
      return (false, { prev, wsd_errno })

def tokenise_connection (data : Memory UInt8) (s : Chunk) (st : FieldTok) : Except Fault (Bool × FieldTok) := do
  let (rv, result, prev, wsd_errno) ← http_field_value_tok data (some s) st.prev st.wsd_errno
  if 0 < rv then
    if ← has_upgrade data result then
      return (true, { prev, wsd_errno })
    else
      connection_loop data (SKB_SIZE + 1) { prev, wsd_errno }
  else
    return (false, { prev, wsd_errno })

def is_valid_connection_header_field (data : Memory UInt8) (hreq : HttpReq) (st : FieldTok) :
    Except Fault (Bool × FieldTok) := do
  let (found, st) ← tokenise_connection data hreq.conn st
  if found then
    return (true, st)
  else
    tokenise_connection data hreq.conn2 st

end wsd

import Wsd.Http.Response
import Wsd.Uri.Host

namespace wsd

/-- The part of the configuration of which the upgrade request is made. -/
structure RequestConfig where
  fhostname : List UInt8
  request_target : List UInt8
  user_agent : List UInt8
  sec_ws_proto : Option (List UInt8)
  sec_ws_ver : List UInt8
  sec_ws_key : List UInt8
  tls : Bool
  deriving DecidableEq

/-- Whether wscat speaks a scheme, and whether it does so over TLS. -/
def speaks (uri_arg : CString) (scheme : UriChunk) : Option Bool :=
  if scheme.len = 3 ∧ (scheme.bytes uri_arg).map tolower = ascii "wss" then
    some true
  else if scheme.len ≠ 2 ∨ (scheme.bytes uri_arg).map tolower ≠ ascii "ws" then
    none
  else
    some false

/-- The default options, with a host and a path. -/
def default_config (fhostname request_target : List UInt8) (tls : Bool) : RequestConfig where
  fhostname := fhostname
  request_target := request_target
  user_agent := ascii "wscat"
  sec_ws_proto := none
  sec_ws_ver := ascii "13"
  sec_ws_key := ascii "B9Pc1t39Tqoj+fidr/bzeg=="
  tls := tls

/-- What `main` makes of a URI and no options: the host and the path are copied by `strndup`. -/
def request_config (uri_arg : CString) : Option RequestConfig :=
  let (rv, uri) := parse_uri uri_arg {}
  if rv < 0 then
    none
  else
    (speaks uri_arg uri.scheme).map (default_config (uri.host.bytes uri_arg) (uri.path.bytes uri_arg))

/-- `http_req_t` as wscat fills it, with the strings to which its chunks point. -/
structure HttpReqText where
  method : List UInt8
  req_target : List UInt8
  http_ver : List UInt8
  host : List UInt8
  origin : List UInt8
  sec_ws_proto : List UInt8
  sec_ws_key : List UInt8
  sec_ws_ver : List UInt8
  user_agent : List UInt8

def skb_put_chunk (dst : Skb) (src : List UInt8) : Skb :=
  (skb_put_strn dst src src.length).2

/-- The macro `skb_put` for a `char`, which does not look for room. -/
def skb_put_char (b : Skb) (c : UInt8) : Except Fault Skb :=
  if SKB_SIZE ≤ b.wrpos then .error .out_of_bounds else .ok (skb_put b [c])

/-- What has no room is left out, and what follows is put all the same. -/
def skb_put_http_req (cfg : RequestConfig) (buf : Skb) (req : HttpReqText) : Except Fault (Int × Skb) := do
  let buf := skb_put_chunk buf req.method
  let buf ← skb_put_char buf SPACE
  let buf := skb_put_chunk buf req.req_target
  let buf ← skb_put_char buf SPACE
  let buf := skb_put_chunk buf req.http_ver
  let buf := (skb_put_strn buf (ascii "\r\n") 2).2
  let buf := (skb_put_strn buf (ascii "Upgrade: websocket\r\n") 20).2
  let buf := (skb_put_strn buf (ascii "Connection: Upgrade\r\n") 21).2
  let buf := (skb_put_strn buf (ascii "Host: ") 6).2
  let buf := skb_put_chunk buf req.host
  let buf := (skb_put_strn buf (ascii "\r\n") 2).2
  let buf :=
    if cfg.tls then (skb_put_strn buf (ascii "Origin: https://") 16).2
    else (skb_put_strn buf (ascii "Origin: http://") 15).2
  let buf := skb_put_chunk buf req.origin
  let buf := (skb_put_strn buf (ascii "\r\n") 2).2
  let buf :=
    if req.sec_ws_proto.length ≠ 0 then
      let buf := (skb_put_strn buf WS_PROTO 24).2
      let buf := skb_put_chunk buf req.sec_ws_proto
      (skb_put_strn buf (ascii "\r\n") 2).2
    else
      buf
  let buf := (skb_put_strn buf (ascii "Pragma: no-cache\r\n") 18).2
  let buf := (skb_put_strn buf (ascii "Cache-Control: no-cache\r\n") 25).2
  let buf := (skb_put_strn buf (ascii "Sec-WebSocket-Key: ") 19).2
  let buf := skb_put_chunk buf req.sec_ws_key
  let buf := (skb_put_strn buf (ascii "\r\n") 2).2
  let buf := (skb_put_strn buf WS_VER 23).2
  let buf := skb_put_chunk buf req.sec_ws_ver
  let buf := (skb_put_strn buf (ascii "\r\n") 2).2
  let buf := (skb_put_strn buf (ascii "User-Agent: ") 12).2
  let buf := skb_put_chunk buf req.user_agent
  return (0, (skb_put_strn buf (ascii "\r\n\r\n") 4).2)

/-- The request which `create_http_req` fills in. -/
def upgrade_req (cfg : RequestConfig) : HttpReqText where
  method := ascii "GET"
  req_target := wrapped cfg.request_target
  http_ver := ascii "HTTP/1.1"
  host := wrapped cfg.fhostname
  origin := wrapped cfg.fhostname
  sec_ws_proto := (cfg.sec_ws_proto.map wrapped).getD []
  sec_ws_key := wrapped cfg.sec_ws_key
  sec_ws_ver := wrapped cfg.sec_ws_ver
  user_agent := wrapped cfg.user_agent

/-- The return value of `skb_put_http_req`, which is checked, is always 0. -/
def create_http_req (cfg : RequestConfig) (sk : Sk) : Except Fault (Int × Sk) := do
  let (_, sendbuf) ← skb_put_http_req cfg sk.sendbuf (upgrade_req cfg)
  return (0, { sk with sendbuf })

/-- The pieces which are put while there is room. -/
def kept : Nat → List (List UInt8) → List UInt8
  | _, [] => []
  | room, piece :: pieces =>
    if piece.length ≤ room then piece ++ kept (room - piece.length) pieces else kept room pieces

section Kept

variable {room : Nat} {piece : List UInt8} {pieces : List (List UInt8)}

theorem kept_of_le (h : piece.length ≤ room) :
    kept room (piece :: pieces) = piece ++ kept (room - piece.length) pieces :=
  if_pos h

/-- A piece of a known length for which there is room. -/
theorem kept_of_length (n : Nat) (hlen : piece.length = n) (h : n ≤ room) :
    kept room (piece :: pieces) = piece ++ kept (room - n) pieces := by
  subst hlen
  exact if_pos h

theorem kept_of_lt (h : room < piece.length) : kept room (piece :: pieces) = kept room pieces :=
  if_neg (Nat.not_le.mpr h)

/-- The first piece is kept or left out. -/
theorem kept_cons (room : Nat) (piece : List UInt8) (pieces : List (List UInt8)) :
    ∃ got, (got = piece ∧ piece.length ≤ room ∨ got = [] ∧ room < piece.length) ∧
      kept room (piece :: pieces) = got ++ kept (room - got.length) pieces := by
  by_cases hroom : piece.length ≤ room
  · exact ⟨piece, .inl ⟨rfl, hroom⟩, kept_of_le hroom⟩
  · exact ⟨[], .inr ⟨rfl, Nat.not_le.mp hroom⟩, kept_of_lt (Nat.not_le.mp hroom)⟩

theorem length_kept_le (room : Nat) (pieces : List (List UInt8)) : (kept room pieces).length ≤ room := by
  induction pieces generalizing room with
  | nil => exact Nat.zero_le _
  | cons piece pieces ih =>
    by_cases hroom : piece.length ≤ room
    · have hrest := ih (room - piece.length)
      rw [kept_of_le hroom, List.length_append]
      omega
    · rw [kept_of_lt (Nat.not_le.mp hroom)]
      exact ih room

theorem kept_of_short (h : ∀ piece ∈ pieces, room < piece.length) : kept room pieces = [] := by
  induction pieces with
  | nil => rfl
  | cons piece pieces ih =>
    rw [kept_of_lt (h piece List.mem_cons_self)]
    exact ih fun piece hmem => h piece (List.mem_cons_of_mem _ hmem)

/-- Characters of what is kept are characters of a piece for which there was room. -/
theorem mem_kept {c : UInt8} (h : c ∈ kept room pieces) : ∃ piece ∈ pieces, piece.length ≤ room ∧ c ∈ piece := by
  induction pieces generalizing room with
  | nil => cases h
  | cons piece pieces ih =>
    by_cases hroom : piece.length ≤ room
    · rw [kept_of_le hroom, List.mem_append] at h
      obtain h | h := h
      · exact ⟨piece, List.mem_cons_self, hroom, h⟩
      · obtain ⟨piece', hmem, hle, hc⟩ := ih h
        exact ⟨piece', List.mem_cons_of_mem _ hmem, by omega, hc⟩
    · rw [kept_of_lt (Nat.not_le.mp hroom)] at h
      obtain ⟨piece', hmem, hle, hc⟩ := ih h
      exact ⟨piece', List.mem_cons_of_mem _ hmem, hle, hc⟩

/-- The puts leave the pieces for which there is room, one behind the other. -/
theorem Skb.Ok.put_pieces {b : Skb} (hok : b.Ok) (pieces : List (List UInt8)) :
    b.Extended (kept (skb_wrsz b) pieces) (pieces.foldl skb_put_chunk b) := by
  induction pieces generalizing b with
  | nil => exact .refl hok
  | cons piece pieces ih =>
    rw [List.foldl_cons, skb_put_chunk]
    obtain ⟨hroom, hput⟩ | ⟨b', hput, hext⟩ := Skb.put_strn_cases hok piece
    · rw [hput, kept_of_lt hroom]
      exact ih hok
    · have hle : piece.length ≤ skb_wrsz b := by
        have hin := hext.room
        rw [hok.wrsz_eq]
        omega
      have hrest := ih (hext.ok hok)
      rw [hext.wrsz hok] at hrest
      rw [hput, kept_of_le hle]
      exact hext.trans hrest

end Kept

/-- What follows the request target, without TLS and a requested protocol. -/
def requestPieces (host key ver agent : List UInt8) : List (List UInt8) :=
  [ascii "HTTP/1.1", ascii "\r\n", ascii "Upgrade: websocket\r\n", ascii "Connection: Upgrade\r\n", ascii "Host: ", host,
    ascii "\r\n", ascii "Origin: http://", host, ascii "\r\n", ascii "Pragma: no-cache\r\n",
    ascii "Cache-Control: no-cache\r\n", ascii "Sec-WebSocket-Key: ", key, ascii "\r\n", WS_VER, ver, ascii "\r\n",
    ascii "User-Agent: ", agent, ascii "\r\n\r\n"]

/-- The text of the request: a target for which there is no room is left out. -/
def requestText (target host : List UInt8) : List UInt8 :=
  let target := if target.length + 4 ≤ SKB_SIZE then target else []
  ascii "GET" ++ SPACE :: (target ++ SPACE :: kept (SKB_SIZE - (target.length + 5))
    (requestPieces host (ascii "B9Pc1t39Tqoj+fidr/bzeg==") (ascii "13") (ascii "wscat")))

section Parts

variable (s : CString) (uri : Uri) (c : Nat)

theorem parse_path_rv : (parse_path s uri c).1 = 0 ∨ (parse_path s uri c).1 = -1 := by
  unfold parse_path
  split
  · exact .inr rfl
  simp only
  split
  · exact .inl rfl
  split
  · exact .inr rfl
  · exact .inl rfl

theorem parse_port_rv : (parse_port s uri c).1 = 0 ∨ (parse_port s uri c).1 = -1 := by
  unfold parse_port
  split
  · exact .inl rfl
  split
  · simp only
    split
    · exact .inr rfl
    split
    · exact .inl rfl
    · exact parse_path_rv ..
  · exact parse_path_rv ..

/-- The parser returns 0 or -1. -/
theorem parse_uri_rv : (parse_uri s uri).1 = 0 ∨ (parse_uri s uri).1 = -1 := by
  unfold parse_uri
  simp only
  split
  · exact .inr rfl
  split
  · exact .inr rfl
  split
  · exact .inr rfl
  unfold parse_host
  simp only
  split
  · exact .inr rfl
  · exact parse_port_rv ..

end Parts

/-- The host and the path of the configuration are those which the parser finds. -/
theorem request_config_parts {s : CString} {cfg : RequestConfig} (h : request_config s = some cfg)
    (htls : cfg.tls = false) :
    ∃ c : Composition, s.chars = c.text ∧ cfg = default_config (wrapped c.host) (wrapped c.normalPath) false := by
  unfold request_config at h
  by_cases hrv : (parse_uri s {}).1 < 0
  · simp only [if_pos hrv] at h
    cases h
  simp only [if_neg hrv] at h
  obtain ⟨tls, -, rfl⟩ := Option.map_eq_some_iff.mp h
  cases htls
  have hzero : (parse_uri s {}).1 = 0 := by
    obtain hzero | hneg := parse_uri_rv s {}
    · exact hzero
    · rw [hneg] at hrv
      exact absurd (by decide) hrv
  obtain ⟨c, hc⟩ := parse_uri_inv hzero
  refine ⟨c, hc, ?_⟩
  rw [parse_uri_text c {} hc]
  simp only
  rw [host_bytes c {} hc]
  congr 1
  unfold Composition.normalPath
  cases hr : c.resource with
  | none => exact path_bytes_none c {} hr
  | some r => exact path_bytes c {} hc hr

section Create

theorem Skb.Extended.put_char {b b1 : Skb} {obj : List UInt8} (h : b.Extended obj b1) (hok : b.Ok) (c : UInt8)
    (hroom : b1.wrpos < SKB_SIZE) :
    skb_put_char b1 c = .ok (skb_put b1 [c]) ∧ b.Extended (obj ++ [c]) (skb_put b1 [c]) := by
  constructor
  · exact if_neg (Nat.not_le.mpr hroom)
  · apply h.put hok
    rw [(h.ok hok).wrsz_eq, List.length_singleton]
    omega

/-- What is put behind the request target. -/
theorem skb_put_http_req_eq (host target : List UInt8) (buf : Skb) (req : HttpReqText) (hproto : req.sec_ws_proto = [])
    (hver : req.http_ver = ascii "HTTP/1.1") (horigin : req.origin = req.host) :
    skb_put_http_req (default_config host target false) buf req = (do
      let buf ← skb_put_char (skb_put_chunk buf req.method) SPACE
      let buf ← skb_put_char (skb_put_chunk buf req.req_target) SPACE
      return (0, (requestPieces req.host req.sec_ws_key req.sec_ws_ver req.user_agent).foldl skb_put_chunk buf)) := by
  unfold skb_put_http_req
  rw [hproto, hver, horigin]
  rfl

theorem Skb.Extended.put_chunk {b b1 : Skb} {obj : List UInt8} (h : b.Extended obj b1) (hok : b.Ok)
    (chunk : List UInt8) : b.Extended (obj ++ kept (skb_wrsz b1) [chunk]) (skb_put_chunk b1 chunk) :=
  h.trans ((h.ok hok).put_pieces [chunk])

/-- The request is put into an empty buffer, unless the target fills it and the space behind the target is
    stored behind its end. -/
theorem create_http_req_spec {target host : List UInt8} (ht : target.length < 4294967296)
    (hh : host.length < 4294967296) {sk : Sk} (hempty : sk.sendbuf = .zero) :
    if target.length + 4 = SKB_SIZE then
      create_http_req (default_config host target false) sk = .error .out_of_bounds
    else
      ∃ sendbuf, create_http_req (default_config host target false) sk = .ok (0, { sk with sendbuf }) ∧
        sendbuf.Ok ∧ sendbuf.readable = requestText target host := by
  have hok := Skb.ok_zero
  have hsize : SKB_SIZE = 1048576 := rfl
  have hchunks : wrapped target = target ∧ wrapped host = host := ⟨wrapped_of_lt ht, wrapped_of_lt hh⟩
  -- The method and the space behind it.
  have h1 := (Skb.Extended.refl hok).put_chunk hok (ascii "GET")
  rw [Skb.wrsz_zero, kept_of_le (by decide), kept, List.nil_append, List.append_nil] at h1
  have hpos1 : (skb_put_chunk .zero (ascii "GET")).wrpos = 3 := h1.wrpos_eq
  obtain ⟨hput1, h2⟩ := h1.put_char hok SPACE (by rw [hpos1]; decide)
  have hpos2 := h2.wrpos_eq
  generalize skb_put (skb_put_chunk .zero (ascii "GET")) [SPACE] = b2 at hput1 h2 hpos2
  replace hpos2 : b2.wrpos = 4 := hpos2
  have hroom2 : skb_wrsz b2 = SKB_SIZE - 4 := by
    rw [(h2.ok hok).wrsz_eq, hpos2]
  -- The target, which may be left out.
  have h3 := h2.put_chunk hok target
  have hpos3 := h3.wrpos_eq
  rw [hroom2] at h3 hpos3
  have hstart : create_http_req (default_config host target false) sk = (do
      let buf ← skb_put_char (skb_put_chunk b2 target) SPACE
      return (0, { sk with sendbuf := (requestPieces host (ascii "B9Pc1t39Tqoj+fidr/bzeg==") (ascii "13")
        (ascii "wscat")).foldl skb_put_chunk buf })) := by
    unfold create_http_req
    rw [hempty, skb_put_http_req_eq _ _ _ _ rfl rfl rfl]
    have hreq : upgrade_req (default_config host target false) = {
        method := ascii "GET"
        req_target := target
        http_ver := ascii "HTTP/1.1"
        host := host
        origin := host
        sec_ws_proto := []
        sec_ws_key := ascii "B9Pc1t39Tqoj+fidr/bzeg=="
        sec_ws_ver := ascii "13"
        user_agent := ascii "wscat" } := by
      simp only [upgrade_req, default_config, hchunks, Option.map_none, Option.getD_none]
      rfl
    rw [hreq]
    simp only [hput1, Except.ok_bind]
    cases hput : skb_put_char (skb_put_chunk b2 target) SPACE with
    | error fault => rw [Except.error_bind, Except.error_bind, Except.error_bind]
    | ok buf => simp only [Except.ok_bind, Except.pure_eq_ok]
  by_cases hfull : target.length + 4 = SKB_SIZE
  · rw [if_pos hfull, hstart]
    have hkept : kept (SKB_SIZE - 4) [target] = target := by
      rw [kept_of_le (by omega), kept, List.append_nil]
    rw [hkept, List.length_append] at hpos3
    have hend : SKB_SIZE ≤ (skb_put_chunk b2 target).wrpos := by
      rw [hpos3, ← hfull]
      exact Nat.le_of_eq (by simp [Skb.zero, ascii]; omega)
    rw [skb_put_char, if_pos hend]
    rfl
  · rw [if_neg hfull, hstart]
    have hkept : kept (SKB_SIZE - 4) [target] = if target.length + 4 ≤ SKB_SIZE then target else [] := by
      by_cases hle : target.length + 4 ≤ SKB_SIZE
      · rw [if_pos hle, kept_of_le (by omega), kept, List.append_nil]
      · rw [if_neg hle, kept_of_lt (by omega), kept]
    have hlen : (kept (SKB_SIZE - 4) [target]).length + 4 < SKB_SIZE := by
      rw [hkept]
      split
      · omega
      · decide
    rw [List.length_append] at hpos3
    replace hpos3 : (skb_put_chunk b2 target).wrpos = 4 + (kept (SKB_SIZE - 4) [target]).length :=
      hpos3.trans (Nat.zero_add _)
    obtain ⟨hput2, h4⟩ := h3.put_char hok SPACE (by rw [hpos3]; omega)
    have hroom := h4.wrsz hok
    rw [hput2]
    simp only [Except.ok_bind]
    have h5 := h4.trans ((h4.ok hok).put_pieces (requestPieces host (ascii "B9Pc1t39Tqoj+fidr/bzeg==") (ascii "13")
      (ascii "wscat")))
    refine ⟨_, rfl, h5.ok hok, ?_⟩
    have hleft : SKB_SIZE - (ascii "GET" ++ [SPACE] ++ kept (SKB_SIZE - 4) [target] ++ [SPACE]).length =
        SKB_SIZE - ((kept (SKB_SIZE - 4) [target]).length + 5) := by
      have hget : (ascii "GET").length = 3 := rfl
      simp only [List.length_append, List.length_singleton, hget]
      congr 1
      omega
    rw [h5.readable hok, Skb.readable_zero, List.nil_append, hroom, Skb.wrsz_zero, hleft, hkept, requestText]
    simp only [List.append_assoc, List.cons_append, List.nil_append]

end Create

end wsd

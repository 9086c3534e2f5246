import Wsd.Wscat.Tls

namespace wsd

/-- The pieces of a request in the order in which they are put. -/
def requestParts (cfg : RequestConfig) (req : HttpReqText) : List (List UInt8) :=
  [req.method, [SPACE], req.req_target, [SPACE], req.http_ver, ascii "\r\n", ascii "Upgrade: websocket\r\n",
    ascii "Connection: Upgrade\r\n", ascii "Host: ", req.host, ascii "\r\n"] ++
  (if cfg.tls then [ascii "Origin: https://"] else [ascii "Origin: http://"]) ++ [req.origin, ascii "\r\n"] ++
  (if req.sec_ws_proto.length ≠ 0 then [WS_PROTO, req.sec_ws_proto, ascii "\r\n"] else []) ++
  [ascii "Pragma: no-cache\r\n", ascii "Cache-Control: no-cache\r\n", ascii "Sec-WebSocket-Key: ", req.sec_ws_key,
    ascii "\r\n", WS_VER, req.sec_ws_ver, ascii "\r\n", ascii "User-Agent: ", req.user_agent, ascii "\r\n\r\n"]

/-- What is put of the request if there is this much room. -/
def requestKept (cfg : RequestConfig) (room : Nat) : List UInt8 :=
  kept room (requestParts cfg (upgrade_req cfg))

/-- A character is put as a piece of its own. -/
theorem skb_put_char_chunk {b b' : Skb} {c : UInt8} (hok : b.Ok) (h : skb_put_char b c = .ok b') :
    b' = skb_put_chunk b [c] := by
  unfold skb_put_char at h
  by_cases hfull : SKB_SIZE ≤ b.wrpos
  · rw [if_pos hfull] at h
    cases h
  · rw [if_neg hfull] at h
    cases h
    have hroom : ¬ skb_wrsz b < [c].length := by
      rw [hok.wrsz_eq, List.length_singleton]
      omega
    unfold skb_put_chunk skb_put_strn
    rw [if_neg hroom]
    rfl

/-- What the request leaves in the send buffer, unless it is written over the buffer's end. -/
theorem skb_put_http_req_parts {cfg : RequestConfig} {buf buf' : Skb} {req : HttpReqText} {rv : Int} (hok : buf.Ok)
    (h : skb_put_http_req cfg buf req = .ok (rv, buf')) :
    rv = 0 ∧ buf' = (requestParts cfg req).foldl skb_put_chunk buf := by
  have hchunk {b : Skb} (hb : b.Ok) (chunk : List UInt8) : (skb_put_chunk b chunk).Ok :=
    (hb.put_pieces [chunk]).ok hb
  obtain ⟨b1, hput1, h⟩ := Except.bind_eq_ok_iff.mp h
  have hmethod := hchunk hok req.method
  have hb1 := skb_put_char_chunk hmethod hput1
  obtain ⟨b2, hput2, h⟩ := Except.bind_eq_ok_iff.mp h
  have hspace := hchunk hmethod [SPACE]
  rw [← hb1] at hspace
  have hb2 := skb_put_char_chunk (hchunk hspace req.req_target) hput2
  unfold requestParts
  cases h
  refine ⟨rfl, ?_⟩
  simp only [List.foldl_append, List.foldl_cons, List.foldl_nil]
  rw [← hb1, ← hb2]
  cases cfg.tls with
  | true => split <;> rfl
  | false => split <;> rfl

theorem create_http_req_kept {cfg : RequestConfig} {sk sk' : Sk} {rv : Int} (hok : sk.sendbuf.Ok)
    (h : create_http_req cfg sk = .ok (rv, sk')) :
    rv = 0 ∧ ∃ sendbuf, sk' = { sk with sendbuf } ∧
      sk.sendbuf.Extended (requestKept cfg (skb_wrsz sk.sendbuf)) sendbuf := by
  obtain ⟨⟨rv1, sendbuf⟩, hput, hret⟩ := Except.bind_eq_ok_iff.mp h
  obtain ⟨rfl, hbuf⟩ := skb_put_http_req_parts hok hput
  cases hret
  refine ⟨rfl, sendbuf, rfl, ?_⟩
  rw [hbuf]
  exact hok.put_pieces (requestParts cfg (upgrade_req cfg))

end wsd

import Wsd.Http.Lookup

namespace wsd

/-- The field of the request has the value, once stripped. -/
def HasField (b : Skb) (F : Field) (text : List UInt8) : Prop :=
  ∃ value, b.header F = some value ∧ strip value = text

/-- The request asks for the handshake which is configured. -/
structure Sound (cfg : Config) (b : Skb) : Prop where
  request : ∃ line target, b.head.head? = some line ∧ RequestText (ascii "GET") target line
  host : ∃ host, b.header .host = some host ∧ host ≠ []
  ver : HasField b .sec_ws_ver FLD_SEC_WS_VER_VAL
  proto : ∀ proto, cfg.sec_ws_proto = some proto → HasField b .sec_ws_proto proto

/-- The request has the field, whose stripped value is as long as the text. Where the handshake works with
    something else, it is the text all the same. -/
def Measures (b : Skb) (F : Field) (text : List UInt8) : Prop :=
  ∃ value, b.header F = some value ∧ (strip value).length = text.length ∧
    (¬ Checked F b.head.tail value → strip value = text)

/-- The method has three characters, there is a host, and the values which are compared are those of the
    request, and as long as the texts. -/
structure Measured (cfg : Config) (b : Skb) : Prop where
  method : ∃ line method target, b.head.head? = some line ∧ RequestText method target line ∧ method.length = 3
  host : ∃ host, b.header .host = some host ∧ (found .host b.head.tail ≠ some host → host ≠ [])
  ver : Measures b .sec_ws_ver FLD_SEC_WS_VER_VAL
  proto : ∀ proto, cfg.sec_ws_proto = some proto → Measures b .sec_ws_proto proto

section Sound

variable {sk : Sk} {st : Statics} {tok : Chunk} {line hreq : HttpReq}

/-- The request line which has been parsed, in which a method of three characters has been checked. -/
theorem Parsed.request (h : Parsed sk st tok line hreq) (hok : sk.recvbuf.Ok)
    (hrnrn : has_rnrn_termination sk.recvbuf = true) :
    ∃ text method target, sk.recvbuf.head.head? = some text ∧ RequestText method target text ∧
      (method.length = 3 → method = ascii "GET") := by
  obtain ⟨prev, e, hline, -⟩ := h
  obtain ⟨p, n, r, -, -, -, -, -, hhead⟩ := hline.head hok hrnrn
  obtain ⟨rv, e1, rv', line', e2, htok, hrv, hparse, hrv', hvalid⟩ := hline
  obtain ⟨len, rfl, -, hlt, -⟩ := http_header_tok_start_inv htok hrv
  obtain ⟨method, target, htext, hspec⟩ | ⟨-, req', errno', hspec⟩ :=
    @parse_request_line_spec sk.recvbuf.data sk.recvbuf.rdpos len {} e1 (by unfold SKB_SIZE at hlt; omega)
  · rw [hspec] at hparse
    cases hparse
    have hfirst : sk.recvbuf.head.head? = some (sk.recvbuf.data.window sk.recvbuf.rdpos len) := by
      rw [hhead]
      rfl
    refine ⟨_, method, target, hfirst, htext, fun hthree => ?_⟩
    have hget := (is_valid_req_line_inv hvalid).2 hthree
    rwa [(requestLine_bytes _ htext).1] at hget
  · rw [hspec] at hparse
    cases hparse
    exact absurd (by decide) hrv'

/-- A text which agrees with a trimmed value in as many characters as this has. -/
theorem hasField_iff {data : Memory UInt8} {b : Skb} {F : Field} {text : List UInt8} {chk chk' : Chunk}
    (hslot : Slot data (found F b.head.tail) chk) (htrim : trim data chk = .ok chk')
    (hcmp : compare_at (strncmp_eq data) chk'.p text chk'.len = .ok true) : HasField b F text ↔ Measures b F text := by
  obtain ⟨slot, hfound, hbytes⟩ := hslot.trim_inv htrim
  constructor
  · rintro ⟨value, hheader, htext⟩
    exact ⟨value, hheader, congrArg List.length htext, fun _ => htext⟩
  · rintro ⟨value, hheader, hlen, hother⟩
    refine ⟨value, hheader, ?_⟩
    by_cases hchecked : Checked F b.head.tail value
    · obtain ⟨slot', hfound', hsame⟩ := hchecked
      rw [hfound] at hfound'
      cases hfound'
      rw [hsame] at hbytes
      rw [← hbytes] at hlen ⊢
      exact compare_at_bytes (by rwa [Chunk.length_bytes] at hlen) hcmp
    · exact hother hchecked

end Sound

/-- A request for which the handshake succeeds is what it has to be if and only if the parts which are compared
    are those of the request, and have the lengths of the texts they are compared with. -/
theorem http_recv_sound_iff (cfg : Config) (ssl : Openssl) (sk : Sk) (st : Statics) (sk' : Sk) (st' : Statics)
    (wsd_errno : Errno) (hok : sk.recvbuf.Ok) (h : http_recv cfg ssl sk st = .ok (0, sk', st', wsd_errno)) :
    Sound cfg sk.recvbuf ↔ Measured cfg sk.recvbuf := by
  obtain ⟨-, hrnrn, tok, line, prev, e, hline, hwalk⟩ :=
    http_recv_walk fun hrefused : Refused (http_recv cfg ssl sk st) => by
      have hrv := hrefused.1 _ h
      cases hrv
  have hparsed : Parsed sk st tok line e.hreq := ⟨prev, e, hline, hwalk, rfl⟩
  obtain ⟨hhost, hreq1, hreq2, hver, hproto⟩ := http_recv_checked h hparsed
  obtain ⟨hsame, ver, htrimver, hcmpver⟩ := is_valid_ver_inv hver
  obtain ⟨text, method, target, hhead, htext, hget⟩ := hparsed.request hok hrnrn
  have hslot {F : Field} (hF : F ≠ .connection) := hparsed.slot hok hrnrn hF
  have hverfield : HasField sk.recvbuf .sec_ws_ver FLD_SEC_WS_VER_VAL ↔ Measures sk.recvbuf .sec_ws_ver FLD_SEC_WS_VER_VAL :=
    hasField_iff (hslot (by decide)) htrimver hcmpver
  have hprotofield {proto : List UInt8} (hcfg : cfg.sec_ws_proto = some proto) :
      HasField sk.recvbuf .sec_ws_proto proto ↔ Measures sk.recvbuf .sec_ws_proto proto := by
    obtain ⟨chk, htrim, hcmp⟩ := check_proto_inv hproto hcfg
    rw [hsame] at htrim
    exact hasField_iff (hslot (by decide)) htrim hcmp
  -- A value which is found is not empty, as the slot has been checked.
  have hfound {host : List UInt8} (hsome : found .host sk.recvbuf.head.tail = some host) : host ≠ [] := by
    have hhostslot : Slot sk.recvbuf.data (found .host sk.recvbuf.head.tail) e.hreq.host := hslot (by decide)
    rw [hsome] at hhostslot
    cases hhostslot
    rw [ne_eq, ← List.length_eq_zero_iff, Chunk.length_bytes]
    exact hhost
  constructor
  · rintro ⟨⟨text', target', hhead', htext'⟩, ⟨host, hheader, hne⟩, hver, hproto⟩
    exact ⟨⟨text', _, target', hhead', htext', rfl⟩, ⟨host, hheader, fun _ => hne⟩, hverfield.mp hver,
      fun proto hcfg => (hprotofield hcfg).mp (hproto proto hcfg)⟩
  · rintro ⟨⟨text', method', target', hhead', htext', hthree⟩, ⟨host, hheader, hother⟩, hver, hproto⟩
    rw [hhead] at hhead'
    cases hhead'
    obtain ⟨rfl, rfl⟩ := htext.unique htext'
    have hmethod := hget hthree
    subst hmethod
    refine ⟨⟨text, target, hhead, htext⟩, ⟨host, hheader, ?_⟩, hverfield.mpr hver,
      fun proto hcfg => (hprotofield hcfg).mpr (hproto proto hcfg)⟩
    by_cases hsome : found .host sk.recvbuf.head.tail = some host
    · exact hfound hsome
    · exact hother hsome

namespace Sample

theorem chatting_ok : chatting.recvbuf.Ok :=
  Skb.ok_ofBytes (by decide +kernel)

def chattingLines : List (List UInt8) :=
  [ascii "Host: a", ascii "Upgrade: websocket", ascii "Connection: Upgrade",
    ascii "Sec-WebSocket-Key: dGhlIHNhbXBsZSBub25jZQ==", ascii "Sec-WebSocket-Version: 13",
    ascii "Sec-WebSocket-Protocol: chat"]

theorem chatting_head : chatting.recvbuf.head = ascii "GET / HTTP/1.1" :: chattingLines := by
  decide +kernel

theorem chatting_header {F : Field} {value : List UInt8} (h : lookup F chattingLines = some value) :
    chatting.recvbuf.header F = some value := by
  rw [Skb.header, chatting_head]
  exact h

/-- The lines of the sample are tokenised, and no name in it continues the one of the field. -/
theorem chatting_checked {F : Field} {value : List UInt8} (hheader : chatting.recvbuf.header F = some value)
    (hrounds : rounds value = (value.takeWhile is_blank).length)
    (hlines : ∀ line ∈ chattingLines, is_header_line line = true ∧
      (StartsName (nameOf line) F → SameName (nameOf line) F ∧ COLON ∈ line)) :
    Checked F chatting.recvbuf.head.tail value := by
  rw [Skb.header, chatting_head] at hheader
  rw [chatting_head]
  exact .of_plain hlines hheader hrounds

/-- Another method than GET, and neither a version nor a protocol. -/
def posting : Sk :=
  handshaking "POST / HTTP/1.1\r\n" (checked ++ key)

end Sample

/-- A complete handshake with version and protocol. -/
theorem http_recv_sound_chat : Sound Sample.cfg Sample.chatting.recvbuf := by
  obtain ⟨⟨sk', st', e⟩, hrecv⟩ := Sample.chatting_accepted
  have hhost : Sample.chatting.recvbuf.header .host = some (ascii " a") := Sample.chatting_header (by decide +kernel)
  have hver : Sample.chatting.recvbuf.header .sec_ws_ver = some (ascii " 13") :=
    Sample.chatting_header (by decide +kernel)
  have hproto : Sample.chatting.recvbuf.header .sec_ws_proto = some (ascii " chat") :=
    Sample.chatting_header (by decide +kernel)
  apply (http_recv_sound_iff Sample.cfg Sample.digest Sample.chatting {} sk' st' e Sample.chatting_ok hrecv).mpr
  refine ⟨⟨_, ascii "GET", ascii "/", ?_, ⟨by decide +kernel, by decide +kernel, rfl⟩, rfl⟩,
    ⟨_, hhost, fun _ => by decide +kernel⟩, ⟨_, hver, rfl, fun hno => ?_⟩, fun proto hcfg => ?_⟩
  · rw [Sample.chatting_head]
    rfl
  · exact absurd (Sample.chatting_checked hver (by decide +kernel) (by decide +kernel)) hno
  · cases hcfg
    refine ⟨_, hproto, rfl, fun hno => ?_⟩
    exact absurd (Sample.chatting_checked hproto (by decide +kernel) (by decide +kernel)) hno

/-- Another method, and no version and protocol at all, are accepted. -/
theorem unsound_handshake :
    ¬ ∀ (cfg : Config) (ssl : Openssl) (sk : Sk) (st : Statics) (sk' : Sk) (st' : Statics) (wsd_errno : Errno),
      sk.recvbuf.Ok → http_recv cfg ssl sk st = .ok (0, sk', st', wsd_errno) → Sound cfg sk.recvbuf := by
  intro h
  obtain ⟨⟨sk', st', e⟩, hrecv⟩ := Except.exists_ok_fst (a := 0)
    (x := http_recv Sample.cfg Sample.digest Sample.posting {}) (by decide +kernel)
  have hok : Sample.posting.recvbuf.Ok := Skb.ok_ofBytes (by decide +kernel)
  obtain ⟨value, hheader, -⟩ := (h Sample.cfg Sample.digest Sample.posting {} sk' st' e hok hrecv).ver
  have hnone : Sample.posting.recvbuf.header .sec_ws_ver = none := by decide +kernel
  rw [hnone] at hheader
  cases hheader

/-- The accept value is the digest of the key and the GUID, and is computed without a store behind the
    scratch array. -/
def HashesKey (data : Memory UInt8) (hreq : HttpReq) (key : List UInt8) : Prop :=
  ∀ (ssl : Openssl) (b : Skb) (hr : HttpReq), hr.sec_ws_key = hreq.sec_ws_key →
    ∃ hr', generate_accept_val ssl data b hr =
      .ok (1, skb_put (skb_put (skb_put b (ssl.base64_sha1 (key ++ WS_GUID))) [CR]) [LF], hr')

/-- The key with which the handshake works is the request's, and has no more characters than the scratch array
    holds beside the GUID and its terminator. -/
def KeyFits (lines : List (List UInt8)) (value : List UInt8) : Prop :=
  Checked .sec_ws_key lines value ∧ (strip value).length ≤ 27

section Key

variable {data : Memory UInt8} {hreq : HttpReq} {lines : List (List UInt8)} {key value : List UInt8}

/-- A digest which tells one message from all others. -/
def Openssl.telling (m : List UInt8) : Openssl where
  base64_sha1 m' := List.replicate WS_ACCEPT_KEY_LEN (if m' = m then 1 else 0)
  length _ := List.length_replicate ..

theorem Openssl.telling_eq {m m' : List UInt8}
    (h : skb_put (skb_put (skb_put .zero ((telling m).base64_sha1 m')) [CR]) [LF] =
      skb_put (skb_put (skb_put .zero ((telling m).base64_sha1 m)) [CR]) [LF]) : m' = m := by
  have hfirst := congrArg (fun b => b.data 0) h
  by_contra hne
  simp [skb_put, Skb.zero, Memory.store, telling, hne, u32, WS_ACCEPT_KEY_LEN] at hfirst

/-- A hashed key is what `trim` has left of the slot, and fits. -/
theorem HashesKey.trim (h : HashesKey data hreq key) (hcollected : Collected data hreq.sec_ws_key) :
    ∃ chk, trim data hreq.sec_ws_key = .ok chk ∧ chk.bytes data = key ∧ chk.len ≤ 27 := by
  have htrim : ∃ chk, wsd.trim data hreq.sec_ws_key = .ok chk := by
    obtain ⟨hr', hhash⟩ := h Sample.digest .zero hreq rfl
    unfold generate_accept_val at hhash
    obtain ⟨chk, htrim, -⟩ := Except.bind_eq_ok_iff.mp hhash
    exact ⟨chk, htrim⟩
  obtain ⟨chk, htrim⟩ := htrim
  obtain ⟨hr', hhash⟩ := h (.telling (chk.bytes data ++ WS_GUID)) .zero hreq rfl
  have hfits := generate_accept_val_fits hhash htrim
  rw [generate_accept_val_eq _ _ hcollected htrim hfits] at hhash
  simp only [Except.ok.injEq, Prod.mk.injEq, true_and] at hhash
  exact ⟨chk, htrim, (List.append_cancel_right (Openssl.telling_eq hhash.1.symm)).symm, hfits⟩

/-- The accept value is computed from the stripped key if this is what is left of the slot, and fits. -/
theorem hashesKey_iff (hslot : Slot data (found .sec_ws_key lines) hreq.sec_ws_key)
    (hcollected : Collected data hreq.sec_ws_key) : HashesKey data hreq (strip value) ↔ KeyFits lines value := by
  constructor
  · intro h
    obtain ⟨chk, htrim, hkey, hfits⟩ := h.trim hcollected
    obtain ⟨slot, hfound, hbytes⟩ := hslot.trim_inv htrim
    rw [hbytes] at hkey
    refine ⟨⟨slot, hfound, hkey⟩, ?_⟩
    rwa [← hkey, ← hbytes, Chunk.length_bytes]
  · rintro ⟨⟨slot, hfound, hsame⟩, hfits⟩ ssl b hr hkey
    rw [hfound] at hslot
    have htrim : ∃ chk, wsd.trim data hreq.sec_ws_key = .ok chk ∧ chk.bytes data = strip value := by
      cases hslot with
      | value hvalue =>
        obtain ⟨chk, htrim, hbytes⟩ := hvalue.trim
        exact ⟨chk, htrim, hbytes.trans hsame⟩
    obtain ⟨chk, htrim, hbytes⟩ := htrim
    rw [← hbytes, Chunk.length_bytes] at hfits
    rw [← hkey] at hcollected htrim
    rw [generate_accept_val_eq ssl b hcollected htrim hfits, hbytes]
    exact ⟨_, rfl⟩

end Key

/-- For a request which goes to the handshake, the accept value is the digest of its whole key if and only if the
    key is the value with which the handshake works, and has at most 27 characters. -/
theorem accept_val_whole_iff (cfg : Config) (ssl : Openssl) (sk : Sk) (st : Statics) (hok : sk.recvbuf.Ok)
    (h : ReachesDecode cfg ssl sk st) :
    (∃ tok line hreq, Parsed sk st tok line hreq) ∧ ∀ tok line hreq value, Parsed sk st tok line hreq →
      sk.recvbuf.header .sec_ws_key = some value →
      (HashesKey sk.recvbuf.data hreq (strip value) ↔ KeyFits sk.recvbuf.head.tail value) := by
  obtain ⟨-, hrnrn, tok, line, prev, e, hline, hwalk⟩ := @http_recv_walk cfg ssl
    { sk with proto := { sk.proto with decode_handshake := none } } st fun hrefused => hrefused.2 h
  refine ⟨⟨tok, line, e.hreq, prev, e, hline, hwalk, rfl⟩, fun tok line hreq value hparsed _ => ?_⟩
  have hcollected : Collected sk.recvbuf.data hreq.sec_ws_key := hparsed.collected _ (by simp [HttpReq.values])
  exact hashesKey_iff (hparsed.slot hok hrnrn (by decide)) hcollected

namespace Sample

/-- A client whose key has 28 characters. -/
def longKey : Sk :=
  handshaking "GET / HTTP/1.1\r\n" (checked ++ "Sec-WebSocket-Key: abcdefghijklmnopqrstuvwxyz01\r\n")

theorem longKey_reaches : ReachesDecode cfg digest longKey {} :=
  Except.eq_error (by decide +kernel)

theorem chatting_reaches : ReachesDecode cfg digest chatting {} :=
  Except.eq_error (by decide +kernel)

end Sample

/-- A key of the length which clients use. -/
theorem accept_val_whole_chat : ∃ tok line hreq, Parsed Sample.chatting {} tok line hreq ∧
    HashesKey Sample.chatting.recvbuf.data hreq (ascii "dGhlIHNhbXBsZSBub25jZQ==") := by
  obtain ⟨⟨tok, line, hreq, hparsed⟩, hkey⟩ := accept_val_whole_iff Sample.cfg Sample.digest Sample.chatting {}
    Sample.chatting_ok Sample.chatting_reaches
  have hheader : Sample.chatting.recvbuf.header .sec_ws_key = some (ascii " dGhlIHNhbXBsZSBub25jZQ==") :=
    Sample.chatting_header (by decide +kernel)
  have hstrip : strip (ascii " dGhlIHNhbXBsZSBub25jZQ==") = ascii "dGhlIHNhbXBsZSBub25jZQ==" := by decide +kernel
  refine ⟨tok, line, hreq, hparsed, hstrip ▸ (hkey tok line hreq _ hparsed hheader).mpr ⟨?_, ?_⟩⟩
  · exact Sample.chatting_checked hheader (by decide +kernel) (by decide +kernel)
  · decide +kernel

/-- With a key of 28 characters the terminator is stored behind the scratch array. -/
theorem key_overruns_scratch :
    ¬ ∀ (cfg : Config) (ssl : Openssl) (sk : Sk) (st : Statics) (tok : Chunk) (line hreq : HttpReq)
      (value : List UInt8), sk.recvbuf.Ok → ReachesDecode cfg ssl sk st → Parsed sk st tok line hreq →
        sk.recvbuf.header .sec_ws_key = some value → HashesKey sk.recvbuf.data hreq (strip value) := by
  intro h
  have hok : Sample.longKey.recvbuf.Ok := Skb.ok_ofBytes (by decide +kernel)
  obtain ⟨-, -, tok, line, prev, e, hline, hwalk⟩ := @http_recv_walk Sample.cfg Sample.digest
    { Sample.longKey with proto := { Sample.longKey.proto with decode_handshake := none } } {}
    fun hrefused => hrefused.2 Sample.longKey_reaches
  have hparsed : Parsed Sample.longKey {} tok line e.hreq := ⟨prev, e, hline, hwalk, rfl⟩
  have hheader : Sample.longKey.recvbuf.header .sec_ws_key = some (ascii " abcdefghijklmnopqrstuvwxyz01") := by
    decide +kernel
  have hhash := h Sample.cfg Sample.digest Sample.longKey {} tok line e.hreq _ hok Sample.longKey_reaches hparsed hheader
  obtain ⟨chk, -, hbytes, hfits⟩ := hhash.trim (hparsed.collected _ (by simp [HttpReq.values]))
  have hlong : (strip (ascii " abcdefghijklmnopqrstuvwxyz01")).length = 28 := by decide +kernel
  rw [← hbytes, Chunk.length_bytes] at hlong
  omega

end wsd

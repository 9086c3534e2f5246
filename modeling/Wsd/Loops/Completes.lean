import Wsd.Loops.Handshake

namespace wsd

/-- The pieces of the header lines, and those of the last one. -/
def headerPieces (host : List UInt8) : List (List UInt8) :=
  (requestPieces host defaultKey defaultVer (ascii "wscat")).drop 2

def agentPieces : List (List UInt8) :=
  [ascii "User-Agent: ", ascii "wscat", ascii "\r\n\r\n"]

/-- The pieces behind the line of the origin, and the lines which they make up. -/
def versionPieces : List (List UInt8) :=
  ascii "Pragma: no-cache\r\n" :: ascii "Cache-Control: no-cache\r\n" :: ascii "Sec-WebSocket-Key: " :: defaultKey ::
    ascii "\r\n" :: WS_VER :: defaultVer :: ascii "\r\n" :: agentPieces

def versionLines : List (List UInt8 × List UInt8) :=
  [(ascii "Pragma", ascii " no-cache"), (ascii "Cache-Control", ascii " no-cache"),
    (ascii "Sec-WebSocket-Key", SPACE :: defaultKey), (ascii "Sec-WebSocket-Version", SPACE :: defaultVer)]

/-- The pieces behind the line of the host. -/
def originPieces (host : List UInt8) : List (List UInt8) :=
  ascii "Origin: http://" :: host :: ascii "\r\n" :: versionPieces

section Written

variable {room : Nat} {host : List UInt8}

/-- How the last line may be cut without harm. -/
def Cut (room : Nat) : Prop :=
  room = 4 ∨ room = 16 ∨ 21 ≤ room

/-- The last line is put as a whole, or without its value, or left out. -/
theorem Cut.agent_kept (h : Cut room) :
    ∃ (agent : List (List UInt8 × List UInt8)) (junk : List UInt8),
      kept room agentPieces = agent.flatMap lineBytes ++ ([CR, LF] ++ junk) ∧
      (∀ line ∈ agent, (∀ x ∈ line.1, is_rfc7230_header_field x = true) ∧ fieldOf line.1 = some .user_agent) ∧
      ∀ line ∈ agent, ∀ x ∈ line.2, is_rfc7230_field_value x = true := by
  obtain rfl | rfl | hroom := h
  · exact ⟨[], [CR, LF], rfl, by simp, by simp⟩
  · refine ⟨[(ascii "User-Agent", ascii " ")], [], rfl, ?_, ?_⟩
    · simp only [List.forall_mem_singleton]
      decide +kernel
    · simp only [List.forall_mem_singleton]
      decide +kernel
  · refine ⟨[(ascii "User-Agent", ascii " wscat")], [], ?_, ?_, ?_⟩
    · rw [agentPieces, kept_of_length 12 rfl (by omega), kept_of_length 5 rfl (by omega), kept_of_length 4 rfl (by omega)]
      rfl
    · simp only [List.forall_mem_singleton]
      decide +kernel
    · simp only [List.forall_mem_singleton]
      decide +kernel

/-- The literals of the request are lines, or starts of lines. -/
theorem piece_texts :
    ascii "Upgrade: websocket\r\n" = lineBytes (ascii "Upgrade", ascii " websocket") ∧
      ascii "Connection: Upgrade\r\n" = lineBytes (ascii "Connection", ascii " Upgrade") ∧
      ascii "Host: " = ascii "Host" ++ [COLON, SPACE] ∧ ascii "Origin: http://" = ascii "Origin" ++ COLON :: ascii " http://" ∧
      ascii "Pragma: no-cache\r\n" = lineBytes (ascii "Pragma", ascii " no-cache") ∧
      ascii "Cache-Control: no-cache\r\n" = lineBytes (ascii "Cache-Control", ascii " no-cache") ∧
      ascii "Sec-WebSocket-Key: " = ascii "Sec-WebSocket-Key" ++ [COLON, SPACE] ∧
      WS_VER = ascii "Sec-WebSocket-Version" ++ [COLON, SPACE] ∧ ascii "\r\n" = [CR, LF] :=
  ⟨rfl, rfl, rfl, rfl, rfl, rfl, rfl, rfl, rfl⟩

/-- The header lines up to the version, which are put as a whole but for the origin's host. -/
theorem headers_kept {origin : Nat} (horigin : origin = if 64 + 2 * host.length ≤ room then host.length else 0)
    (hroom : 181 + host.length + origin ≤ room) :
    ∃ got : List UInt8, (got = host ∨ got = []) ∧ got.length = origin ∧ kept room (headerPieces host) =
      (requestFields host got).flatMap lineBytes ++ kept (room - (181 + host.length + origin)) agentPieces := by
  have hpieces : headerPieces host = ascii "Upgrade: websocket\r\n" :: ascii "Connection: Upgrade\r\n" :: ascii "Host: " ::
      host :: ascii "\r\n" :: ascii "Origin: http://" :: host :: ascii "\r\n" :: ascii "Pragma: no-cache\r\n" ::
      ascii "Cache-Control: no-cache\r\n" :: ascii "Sec-WebSocket-Key: " :: defaultKey :: ascii "\r\n" :: WS_VER ::
      defaultVer :: ascii "\r\n" :: agentPieces := rfl
  rw [hpieces, kept_of_length 20 rfl (by omega), kept_of_length 21 rfl (by omega), kept_of_length 6 rfl (by omega),
    kept_of_le (by omega), kept_of_length 2 rfl (by omega), kept_of_length 15 rfl (by omega)]
  obtain ⟨got, hgot, hkept⟩ := kept_cons (room - 20 - 21 - 6 - host.length - 2 - 15) host (ascii "\r\n" ::
    ascii "Pragma: no-cache\r\n" :: ascii "Cache-Control: no-cache\r\n" :: ascii "Sec-WebSocket-Key: " :: defaultKey ::
    ascii "\r\n" :: WS_VER :: defaultVer :: ascii "\r\n" :: agentPieces)
  have hlen : got.length = origin := by
    obtain ⟨rfl, hle⟩ | ⟨rfl, hlt⟩ := hgot
    · rw [horigin, if_pos (by omega)]
    · rw [horigin, if_neg (by omega), List.length_nil]
  refine ⟨got, hgot.imp And.left And.left, hlen, ?_⟩
  rw [hkept, hlen, kept_of_length 2 rfl (by omega), kept_of_length 18 rfl (by omega), kept_of_length 25 rfl (by omega),
    kept_of_length 19 rfl (by omega), kept_of_length 24 rfl (by omega), kept_of_length 2 rfl (by omega),
    kept_of_length 23 rfl (by omega), kept_of_length 2 rfl (by omega), kept_of_length 2 rfl (by omega)]
  have hleft : room - 20 - 21 - 6 - host.length - 2 - 15 - origin - 2 - 18 - 25 - 19 - 24 - 2 - 23 - 2 - 2 =
      room - (181 + host.length + origin) := by omega
  obtain ⟨hU, hC, hH, hO, hP, hCc, hK, hV, hE⟩ := piece_texts
  rw [hleft, hU, hC, hH, hO, hP, hCc, hK, hV, hE]
  simp only [requestFields, List.flatMap_cons, List.flatMap_nil, lineBytes, List.append_assoc, List.cons_append,
    List.nil_append]

end Written

/-- The walk ends with a key and a version of the lengths which wscat sends. -/
structure FindsKey (e : WalkEnd) : Prop where
  key : 24 ≤ e.hreq.sec_ws_key.len ∧ e.hreq.sec_ws_key.len ≤ SKB_SIZE
  ver : 2 ≤ e.hreq.sec_ws_ver.len ∧ e.hreq.sec_ws_ver.len ≤ SKB_SIZE

/-- The walk has arrived in front of the remaining bytes and has not found the version. -/
structure Heading (data : Memory UInt8) (e : WalkEnd) (p : Nat) (rest : List UInt8) (req : HttpReq) : Prop where
  ends : EndsWith data p rest
  walk : HeaderWalk data req (some p) e
  ver : req.sec_ws_ver = .null

namespace Heading

variable {data : Memory UInt8} {e : WalkEnd} {p : Nat} {rest name value : List UInt8} {req : HttpReq}

theorem go_on (h : Heading data e p rest req) (hfind : FindsKey e) : e.hreq ≠ req := by
  intro heq
  have hlen := hfind.ver.1
  rw [heq, h.ver] at hlen
  exact absurd hlen (by decide)

/-- The lines of the key and of the version need room. -/
theorem room (h : Heading data e p rest req) (hfind : FindsKey e) (hkey : req.sec_ws_key = .null) : 70 ≤ rest.length := by
  have hroom := h.walk.room h.ends hfind.key.2 hfind.ver.2
  have hkeylen := hfind.key.1
  have hverlen := hfind.ver.1
  rw [foundLen, hkey, h.ver, if_neg, if_neg] at hroom
  · omega
  · intro heq
    rw [heq] at hverlen
    exact absurd hverlen (by decide)
  · intro heq
    rw [heq] at hkeylen
    exact absurd hkeylen (by decide)

/-- There is a line to go on with. -/
theorem cr_mem (h : Heading data e p rest req) (hfind : FindsKey e) : CR ∈ rest := by
  obtain hstop | ⟨len, -, -, -, htok, -⟩ := h.walk.first
  · exact absurd hstop (h.go_on hfind)
  · have hin := h.ends.lt (i := p + len) (by rw [htok.cr]; decide)
    have hmem := h.ends.mem (Nat.le_add_right p len) hin
    rwa [htok.cr] at hmem

/-- The walk takes the next line. -/
theorem next (h : Heading data e p (lineBytes (name, value) ++ rest) req) (hfind : FindsKey e)
    (hname : ∀ c ∈ name, is_rfc7230_header_field c = true) (hvalue : CR ∉ value) :
    (∀ c ∈ value, is_rfc7230_field_value c = true) ∧ ∃ p',
      EndsWith data p' rest ∧ HeaderWalk data (match fieldOf name with
        | some F => F.assign (lineValue p name value) req
        | none => req) (some p') e := by
  obtain ⟨hline, hcr, -, hrest⟩ := h.ends.line hname
  obtain ⟨hclass, hwalk⟩ := h.walk.line (h.go_on hfind) hline hcr hvalue
  exact ⟨hclass, _, hrest, hwalk⟩

/-- A line of another field leaves key and version missing. -/
theorem other (h : Heading data e p (lineBytes (name, value) ++ rest) req) (hfind : FindsKey e)
    (hkey : req.sec_ws_key = .null) (hname : ∀ c ∈ name, is_rfc7230_header_field c = true) (hvalue : CR ∉ value)
    (hfield : fieldOf name ≠ some .sec_ws_key ∧ fieldOf name ≠ some .sec_ws_ver) :
    (∀ c ∈ value, is_rfc7230_field_value c = true) ∧ ∃ p' req', Heading data e p' rest req' ∧ req'.sec_ws_key = .null := by
  obtain ⟨hclass, p', hrest, hwalk⟩ := h.next hfind hname hvalue
  refine ⟨hclass, p', _, ⟨hrest, hwalk, ?_⟩, ?_⟩
  · cases hF : fieldOf name with
    | none => exact h.ver
    | some F =>
      cases F with
      | sec_ws_ver => exact absurd hF hfield.2
      | connection =>
        simp only [Field.assign]
        split <;> exact h.ver
      | _ => exact h.ver
  · cases hF : fieldOf name with
    | none => exact hkey
    | some F =>
      cases F with
      | sec_ws_key => exact absurd hF hfield.1
      | connection =>
        simp only [Field.assign]
        split <;> exact hkey
      | _ => exact hkey

end Heading

section Forced

variable {data : Memory UInt8} {e : WalkEnd} {p room : Nat} {req : HttpReq} {host : List UInt8}

/-- A piece of at least two characters, or of a kind without line ends, adds none where there is less room. -/
theorem cr_not_mem_kept {pieces : List (List UInt8)} (h : ∀ piece ∈ pieces, 2 ≤ piece.length ∨ CR ∉ piece)
    (hroom : room < 2) : CR ∉ kept room pieces := by
  intro hmem
  obtain ⟨piece, hpiece, hle, hcr⟩ := mem_kept hmem
  obtain hlong | hfree := h piece hpiece
  · omega
  · exact hfree hcr

/-- The lines of the key and of the version have been put as a whole. -/
theorem version_forced (h : Heading data e p (kept room versionPieces) req) (hkey : req.sec_ws_key = .null)
    (hfind : FindsKey e) :
    ∃ (left p' : Nat) (req' : HttpReq), room = 115 + left ∧
      kept room versionPieces = versionLines.flatMap lineBytes ++ kept left agentPieces ∧
      EndsWith data p' (kept left agentPieces) ∧ HeaderWalk data req' (some p') e := by
  obtain ⟨-, -, -, -, hPragma, hCache, hKey, hVer, -⟩ := fieldOf_names
  obtain ⟨-, -, -, -, hP, hCc, hK, hV, hE⟩ := piece_texts
  have hpieces : versionPieces = ascii "Pragma: no-cache\r\n" :: ascii "Cache-Control: no-cache\r\n" ::
      ascii "Sec-WebSocket-Key: " :: defaultKey :: ascii "\r\n" :: WS_VER :: defaultVer :: ascii "\r\n" ::
      agentPieces := rfl
  have hfirst := h.room hfind hkey
  have hle := length_kept_le room versionPieces
  rw [hpieces, kept_of_length 18 rfl (by omega), kept_of_length 25 rfl (by omega)] at h ⊢
  rw [hP] at h
  obtain ⟨-, p1, req1, h, hkey⟩ := h.other hfind hkey (by decide +kernel) (by decide +kernel) (by rw [hPragma]; decide)
  rw [hCc] at h
  obtain ⟨-, p2, req2, h, hkey⟩ := h.other hfind hkey (by decide +kernel) (by decide +kernel) (by rw [hCache]; decide)
  have hsecond := h.room hfind hkey
  have hle2 := length_kept_le (room - 18 - 25) (ascii "Sec-WebSocket-Key: " :: defaultKey :: ascii "\r\n" :: WS_VER ::
    defaultVer :: ascii "\r\n" :: agentPieces)
  rw [kept_of_length 19 rfl (by omega), kept_of_length 24 rfl (by omega), kept_of_length 2 rfl (by omega),
    kept_of_length 23 rfl (by omega), kept_of_length 2 rfl (by omega)] at h ⊢
  have hkeyline : ∀ rest, ascii "Sec-WebSocket-Key: " ++ (defaultKey ++ (ascii "\r\n" ++ rest)) =
      lineBytes (ascii "Sec-WebSocket-Key", SPACE :: defaultKey) ++ rest := by
    intro rest
    rw [hK, hE]
    simp only [lineBytes, List.append_assoc, List.cons_append, List.nil_append]
  have hverline : ∀ rest, WS_VER ++ (defaultVer ++ (ascii "\r\n" ++ rest)) =
      lineBytes (ascii "Sec-WebSocket-Version", SPACE :: defaultVer) ++ rest := by
    intro rest
    rw [hV, hE]
    simp only [lineBytes, List.append_assoc, List.cons_append, List.nil_append]
  rw [hkeyline] at h ⊢
  obtain ⟨-, p3, hends, hwalk⟩ := h.next hfind (by decide +kernel) (by decide +kernel)
  rw [hKey] at hwalk
  -- The line end behind the version.
  have h3 : Heading data e p3 _ _ := ⟨hends, hwalk, h.ver⟩
  have hcr := h3.cr_mem hfind
  have hroom : 2 ≤ room - 18 - 25 - 19 - 24 - 2 - 23 - 2 := by
    by_contra hshort
    rw [List.mem_append, List.mem_append] at hcr
    obtain hcr | hcr | hcr := hcr
    · exact absurd hcr (by decide +kernel)
    · exact absurd hcr (by decide +kernel)
    · exact cr_not_mem_kept (by decide +kernel) (by omega) hcr
  rw [kept_of_length 2 rfl hroom] at h3 ⊢
  rw [hverline] at h3 ⊢
  obtain ⟨-, p4, hends, hwalk⟩ := h3.next hfind (by decide +kernel) (by decide +kernel)
  refine ⟨_, p4, _, ?_, ?_, hends, hwalk⟩
  · omega
  · rw [hP, hCc]
    simp only [versionLines, List.flatMap_cons, List.flatMap_nil, List.append_assoc, List.nil_append]

/-- The host and the line end behind it, or the line end only. -/
theorem hosted_forced {name start : List UInt8} {pieces : List (List UInt8)} (hhost : CR ∉ host)
    (h : Heading data e p (name ++ COLON :: start ++ kept room (host :: ascii "\r\n" :: pieces)) req)
    (hkey : req.sec_ws_key = .null) (hfind : FindsKey e) (hname : ∀ c ∈ name, is_rfc7230_header_field c = true)
    (hstart : CR ∉ start) (hfield : fieldOf name ≠ some .sec_ws_key ∧ fieldOf name ≠ some .sec_ws_ver)
    (hpieces : ∀ piece ∈ pieces, 2 ≤ piece.length ∨ CR ∉ piece) :
    ∃ (got : List UInt8) (left p' : Nat) (req' : HttpReq),
      (got = host ∧ host.length ≤ room ∨ got = [] ∧ room < host.length) ∧
      (∀ c ∈ start ++ got, is_rfc7230_field_value c = true) ∧ room = got.length + 2 + left ∧
      name ++ COLON :: start ++ kept room (host :: ascii "\r\n" :: pieces) =
        lineBytes (name, start ++ got) ++ kept left pieces ∧
      Heading data e p' (kept left pieces) req' ∧ req'.sec_ws_key = .null := by
  have hE : ascii "\r\n" = [CR, LF] := rfl
  obtain ⟨got, hgot, hkept⟩ := kept_cons room host (ascii "\r\n" :: pieces)
  have hgotcr : CR ∉ got := by
    obtain ⟨rfl, -⟩ | ⟨rfl, -⟩ := hgot
    · exact hhost
    · exact List.not_mem_nil
  have hgotle : got.length ≤ room := by
    obtain ⟨rfl, hle⟩ | ⟨rfl, -⟩ := hgot
    · exact hle
    · exact Nat.zero_le _
  have hnamecr : CR ∉ name := by
    intro hmem
    exact absurd (hname CR hmem) (by decide)
  rw [hkept] at h ⊢
  have hcr := h.cr_mem hfind
  have hroom : 2 ≤ room - got.length := by
    by_contra hshort
    rw [List.mem_append, List.mem_append, List.mem_append, List.mem_cons] at hcr
    obtain (hcr | hcr | hcr) | hcr | hcr := hcr
    · exact hnamecr hcr
    · exact absurd hcr (by decide)
    · exact hstart hcr
    · exact hgotcr hcr
    · refine cr_not_mem_kept ?_ (by omega) hcr
      rw [List.forall_mem_cons]
      exact ⟨.inl (by decide), hpieces⟩
  have hline : name ++ COLON :: start ++ (got ++ kept (room - got.length) (ascii "\r\n" :: pieces)) =
      lineBytes (name, start ++ got) ++ kept (room - got.length - 2) pieces := by
    rw [kept_of_length 2 rfl hroom, hE]
    simp only [lineBytes, List.append_assoc, List.cons_append, List.nil_append]
  rw [hline] at h ⊢
  have hvalue : CR ∉ start ++ got := by
    rw [List.mem_append, not_or]
    exact ⟨hstart, hgotcr⟩
  obtain ⟨hclass, p', req', h, hkey⟩ := h.other hfind hkey hname hvalue hfield
  exact ⟨got, room - got.length - 2, p', req', hgot, hclass, by omega, rfl, h, hkey⟩

/-- Where the daemon finds the key and the version, the pieces in front of the last line have all been put,
    but for the two hosts. -/
theorem fields_forced (hhost : CR ∉ host) (h : Heading data e p (kept room (headerPieces host)) req)
    (hkey : req.sec_ws_key = .null) (hfind : FindsKey e) :
    ∃ (got origin : List UInt8) (left p' : Nat) (req' : HttpReq), (got = host ∨ got = []) ∧
      (∀ c ∈ got, is_rfc7230_field_value c = true) ∧ (∀ c ∈ origin, is_rfc7230_field_value c = true) ∧
      origin.length = (if 64 + got.length + host.length ≤ room then host.length else 0) ∧
      room = 181 + got.length + origin.length + left ∧
      kept room (headerPieces host) = (requestFields got origin).flatMap lineBytes ++ kept left agentPieces ∧
      EndsWith data p' (kept left agentPieces) ∧ HeaderWalk data req' (some p') e := by
  obtain ⟨hUpgrade, hConnection, hHost, hOrigin, -⟩ := fieldOf_names
  obtain ⟨hU, hC, hH, hO, -⟩ := piece_texts
  have hpieces : headerPieces host = ascii "Upgrade: websocket\r\n" :: ascii "Connection: Upgrade\r\n" :: ascii "Host: " ::
      host :: ascii "\r\n" :: originPieces host := rfl
  have horigin : originPieces host = ascii "Origin: http://" :: host :: ascii "\r\n" :: versionPieces := rfl
  have hlong : ∀ piece ∈ versionPieces, 2 ≤ piece.length ∨ CR ∉ piece := by decide +kernel
  have hroom := h.room hfind hkey
  have hle := length_kept_le room (headerPieces host)
  rw [hpieces, kept_of_length 20 rfl (by omega), kept_of_length 21 rfl (by omega), kept_of_length 6 rfl (by omega)] at h ⊢
  rw [hU] at h
  obtain ⟨-, p1, req1, h, hkey⟩ := h.other hfind hkey (by decide +kernel) (by decide +kernel) (by rw [hUpgrade]; decide)
  rw [hC] at h
  obtain ⟨-, p2, req2, h, hkey⟩ := h.other hfind hkey (by decide +kernel) (by decide +kernel) (by rw [hConnection]; decide)
  rw [hH] at h
  obtain ⟨got, left, p3, req3, hgot, hgotclass, hleft, hline, h, hkey⟩ := hosted_forced hhost h hkey hfind
    (by decide +kernel) (by decide) (by rw [hHost]; decide) (by
      rw [horigin]
      simp only [List.forall_mem_cons]
      exact ⟨.inl (by decide), .inr hhost, .inl (by decide), hlong⟩)
  have hroom3 := h.room hfind hkey
  have hle3 := length_kept_le left (originPieces host)
  rw [horigin, kept_of_length 15 rfl (by omega), hO] at h
  obtain ⟨origin, left', p4, req4, horig, horigclass, hleft', hline', h, hkey⟩ := hosted_forced hhost h hkey hfind
    (by decide +kernel) (by decide +kernel) (by rw [hOrigin]; decide) hlong
  obtain ⟨left'', p5, req5, hleft'', hlines, hends, hwalk⟩ := version_forced h hkey hfind
  have hlen : origin.length = (if 64 + got.length + host.length ≤ room then host.length else 0) := by
    obtain ⟨rfl, hfits⟩ | ⟨rfl, hfull⟩ := horig
    · rw [if_pos (by omega)]
    · rw [if_neg (by omega), List.length_nil]
  refine ⟨got, origin, left'', p5, req5, hgot.imp And.left And.left, ?_, ?_, hlen, by omega, ?_, hends, hwalk⟩
  · intro c hc
    exact hgotclass c (List.mem_append_right _ hc)
  · intro c hc
    exact horigclass c (List.mem_append_right _ hc)
  · rw [hU, hC, hH, hline, horigin, kept_of_length 15 rfl (by omega), hO, hline', hlines]
    have hfields : requestFields got origin = (ascii "Upgrade", ascii " websocket") :: (ascii "Connection", ascii " Upgrade") ::
        (ascii "Host", [SPACE] ++ got) :: (ascii "Origin", ascii " http://" ++ origin) :: versionLines := rfl
    rw [hfields]
    simp only [List.flatMap_cons, List.append_assoc]

/-- The last line has been put as a whole, or without its value, or left out. -/
theorem Cut.of_walk {left : Nat} (hend : EndsWith data p (kept left agentPieces)) (hwalk : HeaderWalk data req (some p) e)
    (hcr : CR ∈ kept left agentPieces) : Cut left := by
  by_contra hnot
  unfold Cut at hnot
  have hshort {room : Nat} (hroom : room < 4) : kept room [ascii "wscat", ascii "\r\n\r\n"] = [] ∧
      kept room [ascii "\r\n\r\n"] = [] ∧ kept room agentPieces = [] := by
    refine ⟨kept_of_short ?_, kept_of_short ?_, kept_of_short ?_⟩
    · simp only [List.forall_mem_cons]
      exact ⟨Nat.lt_of_lt_of_le hroom (by decide), Nat.lt_of_lt_of_le hroom (by decide), List.forall_mem_nil _⟩
    · rw [List.forall_mem_singleton]
      exact Nat.lt_of_lt_of_le hroom (by decide)
    · simp only [agentPieces, List.forall_mem_cons]
      exact ⟨Nat.lt_of_lt_of_le hroom (by decide), Nat.lt_of_lt_of_le hroom (by decide),
        Nat.lt_of_lt_of_le hroom (by decide), List.forall_mem_nil _⟩
  have hpieces : agentPieces = ascii "User-Agent: " :: ascii "wscat" :: [ascii "\r\n\r\n"] := rfl
  have hagent : (ascii "User-Agent: ").length = 12 := rfl
  by_cases hfew : left < 4
  · rw [(hshort hfew).2.2] at hcr
    cases hcr
  by_cases hname : left < 12
  · rw [hpieces, kept_of_lt (by rw [hagent]; exact hname), kept_of_length 5 rfl (by omega)] at hend hcr
    by_cases hvalue : left - 5 < 4
    · rw [(hshort hvalue).2.1] at hcr
      exact absurd hcr (by decide)
    · -- The value has become a line without a colon.
      rw [kept_of_length 4 rfl (by omega)] at hend
      have hline : ascii "wscat" ++ (ascii "\r\n\r\n" ++ kept (left - 5 - 4) []) = ascii "wscat" ++ CR :: LF :: [CR, LF] := rfl
      rw [hline] at hend
      exact HeaderWalk.not_name hend (by decide +kernel) (by decide) (by decide) hwalk
  rw [hpieces, kept_of_length 12 rfl (by omega)] at hcr
  by_cases hvalue : left - 12 < 4
  · rw [(hshort hvalue).1] at hcr
    exact absurd hcr (by decide +kernel)
  rw [kept_of_length 5 rfl (by omega)] at hcr
  rw [(hshort (by omega)).2.1] at hcr
  exact absurd hcr (by decide +kernel)

end Forced

/-- A client which has received the bytes first. -/
def awaiting (text : List UInt8) : Sk :=
  { sk_init 5 7 with recvbuf := Skb.ofBytes text, proto := { decode_handshake := some .ws_decode_handshake } }

theorem awaiting_ok {text : List UInt8} (h : text.length ≤ SKB_SIZE) : Awaiting (awaiting text) text where
  recvbuf_ok := Skb.ok_ofBytes h
  readable := Skb.readable_ofBytes h
  sendbuf_ok := Skb.ok_zero
  room := by
    have hroom : skb_wrsz (awaiting text).sendbuf = SKB_SIZE := Skb.wrsz_zero
    rw [hroom]
    decide
  close_on_write := rfl
  decode_handshake := rfl

/-- Trimming leaves one thing only. -/
theorem Trims.unique {data : Memory UInt8} {chk : Chunk} {bytes bytes' : List UInt8} (h : Trims data chk bytes)
    (h' : Trims data chk bytes') : bytes = bytes' := by
  obtain ⟨chk1, htrim, rfl⟩ := h
  obtain ⟨chk2, htrim', rfl⟩ := h'
  rw [htrim] at htrim'
  cases htrim'
  rfl

/-- What trimming leaves lies within the chunk. -/
theorem Trims.length_le {data : Memory UInt8} {chk : Chunk} {bytes : List UInt8} (h : Trims data chk bytes)
    (hne : bytes ≠ []) : bytes.length ≤ chk.len ∧ chk.len ≤ SKB_SIZE := by
  obtain ⟨chk', htrim, rfl⟩ := h
  rw [Chunk.length_bytes]
  obtain hzero | ⟨p, q, -, -, hpq, hq, hp⟩ := trim_inv htrim
  · apply absurd _ hne
    rw [← List.length_eq_zero_iff, Chunk.length_bytes, hzero]
  · constructor <;> omega

section Completes

variable {s : CString} {cfg : RequestConfig} {text target host : List UInt8}

theorem pathAndQuery_eq (text : List UInt8) : ∃ rest, pathAndQuery text = SLASH :: rest := by
  unfold pathAndQuery
  simp only
  split
  · rename_i hslash
    obtain ⟨rest, hrest⟩ := List.head?_eq_some_iff.mp hslash
    exact ⟨rest, hrest⟩
  · exact ⟨_, rfl⟩

/-- No space is in the target, and none of the characters which the tokeniser takes for the end of something in the host. -/
theorem uri_parts (c : Composition) (hchars : ∀ x ∈ c.text, is_uri_char x = true) :
    SPACE ∉ pathAndQuery c.text ∧ SPACE ∉ wrapped c.normalPath ∧ CR ∉ wrapped c.host ∧
      ∀ x ∈ wrapped c.host, is_blank x = false := by
  have hhost : ∀ x ∈ wrapped c.host, is_uri_char x = true := by
    intro x hx
    apply hchars
    rw [Composition.text, Composition.front]
    simp only [List.mem_append]
    exact .inl (.inl (.inr (List.mem_of_mem_take hx)))
  refine ⟨?_, ?_, ?_, ?_⟩
  · intro hspace
    have hmem : SPACE ∈ afterAuthority c.text := by
      unfold pathAndQuery at hspace
      simp only at hspace
      split at hspace
      · exact (List.takeWhile_sublist _).mem hspace
      · rw [List.mem_cons] at hspace
        obtain hspace | hspace := hspace
        · exact absurd hspace (by decide)
        · exact (List.takeWhile_sublist _).mem hspace
    have hin : SPACE ∈ c.text :=
      (List.dropWhile_sublist _).mem (List.mem_of_mem_drop ((List.dropWhile_sublist _).mem hmem))
    exact (uri_char_facts SPACE (hchars SPACE hin)).2.1 rfl
  · intro hspace
    replace hspace := List.mem_of_mem_take hspace
    unfold Composition.normalPath at hspace
    cases hr : c.resource with
    | none =>
      rw [hr] at hspace
      exact absurd hspace (by decide)
    | some r =>
      rw [hr] at hspace
      have hin : SPACE ∈ c.text := by
        rw [Composition.text, Composition.resourceText, hr]
        exact List.mem_append_right _ (List.mem_append_left _ hspace)
      exact (uri_char_facts SPACE (hchars SPACE hin)).2.1 rfl
  · intro hcr
    exact (uri_char_facts CR (hhost CR hcr)).1 rfl
  · intro x hx
    obtain ⟨-, hspace, htab, -⟩ := uri_char_facts x (hhost x hx)
    rw [is_blank, Bool.or_eq_false_iff, beq_eq_false_iff_ne, beq_eq_false_iff_ne]
    exact ⟨hspace, htab⟩

/-- A request which fits is a start line and header lines. -/
theorem requestText_eq (h : RequestFits target.length host.length) :
    ∃ (origin : List UInt8) (agent : List (List UInt8 × List UInt8)) (junk : List UInt8),
      requestText target host = requestStart target ++ CR :: LF :: (blockBytes (requestFields host origin ++ agent) ++ junk) ∧
      (origin = host ∨ origin = []) ∧
      (∀ line ∈ agent, (∀ x ∈ line.1, is_rfc7230_header_field x = true) ∧ fieldOf line.1 = some .user_agent) ∧
      ∀ line ∈ agent, ∀ x ∈ line.2, is_rfc7230_field_value x = true := by
  obtain ⟨hused, hcut⟩ := h
  generalize hlen : (if 79 + target.length + 2 * host.length ≤ SKB_SIZE then host.length else 0) = origin at hused hcut
  obtain ⟨got, hgot, -, hlines⟩ := @headers_kept (SKB_SIZE - (target.length + 5) - 8 - 2) host origin (by
    rw [← hlen]
    split
    · rw [if_pos (by omega)]
    · rw [if_neg (by omega)]) (by omega)
  have hleft : SKB_SIZE - (target.length + 5) - 8 - 2 - (181 + host.length + origin) =
      SKB_SIZE - (196 + target.length + host.length + origin) := by omega
  obtain ⟨agent, junk, hagent, hnames, hvalues⟩ := Cut.agent_kept hcut
  refine ⟨got, agent, junk, ?_, hgot, hnames, hvalues⟩
  have hpieces : requestPieces host (ascii "B9Pc1t39Tqoj+fidr/bzeg==") (ascii "13") (ascii "wscat") =
      ascii "HTTP/1.1" :: ascii "\r\n" :: headerPieces host := rfl
  rw [requestText, if_pos (by omega), hpieces, kept_of_length 8 rfl (by omega), kept_of_length 2 rfl (by omega), hlines,
    hleft, hagent]
  have hversion : ascii "HTTP/1.1" = HTTP_version := rfl
  have hend : ascii "\r\n" = [CR, LF] := rfl
  simp only [hversion, hend, requestStart, blockBytes, List.flatMap_append, List.append_assoc, List.cons_append,
    List.nil_append]

/-- Header lines and the empty line end with two line ends in a row. -/
theorem blockBytes_end {lines : List (List UInt8 × List UInt8)} (hne : lines ≠ []) :
    ∃ before, blockBytes lines = before ++ [CR, LF, CR, LF] := by
  refine ⟨lines.dropLast.flatMap lineBytes ++ ((lines.getLast hne).1 ++ COLON :: (lines.getLast hne).2), ?_⟩
  conv_lhs => rw [blockBytes, ← List.dropLast_concat_getLast hne]
  simp [lineBytes]

/-- The daemon understands the request of a URI which conforms. -/
theorem Conforms.completes (h : Conforms s.chars) (hcfg : request_config s = some cfg) (htls : cfg.tls = false)
    (hchars : ∀ c ∈ s.chars, is_uri_char c = true) : HandshakeCompletes s cfg := by
  obtain ⟨c, hc, rfl⟩ := request_config_parts hcfg htls
  rw [HandshakeCompletes]
  obtain ⟨hdirect, hfront, hne, htarget, hhost, hfits⟩ := h
  rw [hc] at hdirect hfront hne htarget hhost hfits hchars ⊢
  obtain ⟨hspace, -, -, hblank⟩ := uri_parts c hchars
  obtain ⟨-, -, hafter⟩ | ⟨hnot, -⟩ := c.authority_cases
  swap
  · exact absurd hdirect hnot
  have hhosteq : wrapped c.host = hostText c.text := by
    rw [← hfront, frontText, ← c.host_eq hdirect]
  have hused := hfits.1
  have hsize : SKB_SIZE = 1048576 := rfl
  have hpatheq : wrapped c.normalPath = pathAndQuery c.text := by
    rw [← c.pathAndQuery_text hafter, wrapped_of_lt (by omega)]
  rw [hhosteq] at hblank
  rw [hhosteq, hpatheq]
  refine ⟨hne, fun fd => ?_⟩
  have hspec := @create_http_req_spec (pathAndQuery c.text) (hostText c.text) (by omega) (by omega) (sk_init fd 0) rfl
  rw [if_neg (by omega)] at hspec
  obtain ⟨sendbuf, hcreate, -, hread⟩ := hspec
  refine ⟨_, hcreate, fun cfg' ssl sk st hsk => ?_⟩
  obtain ⟨origin, agent, junk, htext, horigin, hnames, hvalues⟩ := requestText_eq hfits
  obtain ⟨rest, hrest⟩ := pathAndQuery_eq c.text
  rw [hread, htext, hrest] at hsk
  rw [hrest] at hspace htarget
  obtain ⟨tok, line, prev, e, hline, hwalk, hold⟩ := @request_parsed _ st SLASH rest _ _ _ _ hsk.recvbuf_ok hsk.readable
    (by decide) hspace htarget hhost hblank (by
      obtain rfl | rfl := horigin
      · exact hhost
      · exact List.forall_mem_nil _) hnames hvalues
  rw [hrest]
  have hne : requestFields (hostText c.text) origin ++ agent ≠ [] :=
    List.append_ne_nil_of_left_ne_nil (List.cons_ne_nil _ _) _
  obtain ⟨before, hblock⟩ := blockBytes_end hne
  refine hsk.understood (@Skb.Ok.has_rnrn _ hsk.recvbuf_ok (requestStart (SLASH :: rest) ++ CR :: LF :: before) junk ?_)
    hline hwalk hold cfg' ssl
  rw [hsk.readable, hblock]
  simp only [List.append_assoc, List.cons_append]

/-- What has been put of a request in which the daemon finds a target, the key and the version. -/
theorem request_forced {sk : Sk} {st : Statics} {tok : Chunk} {line : HttpReq} {prev : Option Nat} {e : WalkEnd}
    {path : List UInt8} (hok : sk.recvbuf.Ok) (hrdpos : sk.recvbuf.rdpos = 0)
    (hread : sk.recvbuf.readable = requestText target host)
    (hends : EndsWith sk.recvbuf.data 0 (requestText target host)) (hrnrn : has_rnrn_termination sk.recvbuf = true)
    (hline : RequestLine sk st tok line prev) (hwalk : HeaderWalk sk.recvbuf.data line prev e) (hfind : FindsKey e)
    (hspace : SPACE ∉ target) (hcr : CR ∉ host) (hblank : ∀ x ∈ host, is_blank x = false)
    (hpath : e.hreq.req_target.bytes sk.recvbuf.data = SLASH :: path) :
    target = SLASH :: path ∧ (∀ x ∈ target, is_rfc7230_start_line x = true) ∧ ∃ got, (got = host ∨ got = []) ∧
      (∀ x ∈ got, is_rfc7230_field_value x = true) ∧ Trims sk.recvbuf.data e.hreq.host got ∧
      (got = host → RequestFits target.length host.length) := by
  -- The target has been put, and the version behind it.
  obtain ⟨put, hput, htext⟩ : ∃ put, (put = target ∧ target.length + 4 ≤ SKB_SIZE ∨ put = []) ∧ requestText target host =
      ascii "GET" ++ SPACE :: (put ++ SPACE :: kept (SKB_SIZE - (put.length + 5))
        (ascii "HTTP/1.1" :: ascii "\r\n" :: headerPieces host)) := by
    by_cases hle : target.length + 4 ≤ SKB_SIZE
    · refine ⟨target, .inl ⟨rfl, hle⟩, ?_⟩
      rw [requestText, if_pos hle]
      rfl
    · refine ⟨[], .inr rfl, ?_⟩
      rw [requestText, if_neg hle]
      rfl
  have hputspace : SPACE ∉ put := by
    obtain ⟨rfl, -⟩ | rfl := hput
    · exact hspace
    · exact List.not_mem_nil
  rw [htext] at hends hread
  obtain ⟨p, rest, htail, rfl, hrest, hclass, hlinetarget, hkeynull, hvernull⟩ := hline.target_eq hrdpos hends hputspace
  rw [hwalk.req_target, hlinetarget] at hpath
  obtain ⟨rfl, hfits⟩ | rfl := hput
  swap
  · cases hpath
  refine ⟨hpath, hclass, ?_⟩
  have hversion : 10 ≤ SKB_SIZE - (put.length + 5) := by
    have hle := length_kept_le (SKB_SIZE - (put.length + 5)) (ascii "HTTP/1.1" :: ascii "\r\n" :: headerPieces host)
    rw [htail, List.length_append, List.length_cons, List.length_cons] at hle
    have height : HTTP_version.length = 8 := rfl
    omega
  rw [kept_of_length 8 rfl (by omega), kept_of_length 2 rfl (by omega)] at htail hread hends
  obtain rfl : kept (SKB_SIZE - (put.length + 5) - 8 - 2) (headerPieces host) = rest :=
    (List.cons.inj (List.cons.inj (List.append_cancel_left htail)).2).2
  -- The header lines, and the last one.
  obtain ⟨got, origin, left, p', req', hgot, hgotclass, horigclass, horiglen, hroom, hkept, hlast, hlastwalk⟩ :=
    fields_forced hcr ⟨hrest, hwalk, hvernull⟩ hkeynull hfind
  have hstart : ascii "GET" ++ SPACE :: (put ++ SPACE :: (ascii "HTTP/1.1" ++ (ascii "\r\n" ++
      kept (SKB_SIZE - (put.length + 5) - 8 - 2) (headerPieces host)))) = requestStart put ++ CR :: LF ::
        ((requestFields got origin).flatMap lineBytes ++ kept left agentPieces) := by
    rw [hkept, requestStart]
    simp only [List.append_assoc, List.cons_append]
    rfl
  rw [hstart] at hread hends
  have hlastcr : CR ∈ kept left agentPieces := by
    by_contra hnone
    obtain ⟨r, -, -, hr⟩ := has_rnrn_inv hok hrnrn
    refine @EndsWith.no_rnrn _ _ _
      (requestStart put :: (requestFields got origin).map fun field => field.1 ++ COLON :: field.2) ?_ ?_ hnone r
      (Nat.zero_le r) hr
    · rwa [textLines_fields, List.append_assoc, List.cons_append, List.cons_append]
    · rw [List.forall_mem_cons, List.forall_mem_map]
      refine ⟨⟨List.append_ne_nil_of_left_ne_nil (by decide) _, fun hmem => ?_⟩, fun field hfield => ⟨by simp, fun hmem => ?_⟩⟩
      · exact absurd (requestStart_class hclass CR hmem) (by decide)
      · rw [List.mem_append, List.mem_cons] at hmem
        obtain hmem | hmem | hmem := hmem
        · exact absurd (requestFields_names field hfield CR hmem) (by decide)
        · exact absurd hmem (by decide)
        · exact absurd (requestFields_values hgotclass horigclass field hfield CR hmem) (by decide)
  have hcut := Cut.of_walk hlast hlastwalk hlastcr
  obtain ⟨agent, junk, hagent, hnames, hvalues⟩ := hcut.agent_kept
  have hgotblank : ∀ x ∈ got, is_blank x = false := by
    obtain rfl | rfl := hgot
    · exact hblank
    · exact List.forall_mem_nil _
  rw [hpath] at hread hclass hputspace
  obtain ⟨tok', line', prev', e', hline', hwalk', hold⟩ := @request_parsed sk st SLASH path got origin junk agent hok (by
      rw [hread, hagent]
      simp only [blockBytes, List.flatMap_append, List.append_assoc]) (by decide) hputspace hclass hgotclass hgotblank
    horigclass hnames hvalues
  have hsame : e.hreq = e'.hreq := Parsed.unique ⟨_, _, hline, hwalk, rfl⟩ ⟨_, _, hline', hwalk', rfl⟩
  refine ⟨got, hgot, hgotclass, hsame ▸ hold.host_trims, ?_⟩
  rintro rfl
  have hhost : (if 79 + put.length + 2 * got.length ≤ SKB_SIZE then got.length else 0) = origin.length := by
    rw [horiglen]
    split
    · rw [if_pos (by omega)]
    · rw [if_neg (by omega)]
  unfold RequestFits
  rw [hhost]
  have hleft : SKB_SIZE - (196 + put.length + got.length + origin.length) = left := by omega
  exact ⟨by omega, hleft.symm ▸ hcut⟩

/-- The daemon understands only requests of URIs which conform. -/
theorem HandshakeCompletes.conforms (h : HandshakeCompletes s cfg) (hcfg : request_config s = some cfg)
    (htls : cfg.tls = false) (hchars : ∀ c ∈ s.chars, is_uri_char c = true) : Conforms s.chars := by
  obtain ⟨c, hc, rfl⟩ := request_config_parts hcfg htls
  rw [HandshakeCompletes, hc] at h
  rw [hc] at hchars ⊢
  obtain ⟨-, hspace, hcr, hblank⟩ := uri_parts c hchars
  obtain ⟨hne, h⟩ := h
  -- The request, in front of a daemon which has received nothing else.
  obtain ⟨wssk, hcreate, h⟩ := h 0
  have hspec := @create_http_req_spec (wrapped c.normalPath) (wrapped c.host) (length_wrapped_lt _) (length_wrapped_lt _)
    (sk_init 0 0) rfl
  split at hspec
  · rw [hcreate] at hspec
    cases hspec
  obtain ⟨sendbuf, hcreate', hok, hread⟩ := hspec
  rw [hcreate'] at hcreate
  cases hcreate
  simp only [hread] at h
  have hlen : (requestText (wrapped c.normalPath) (wrapped c.host)).length ≤ SKB_SIZE := by
    rw [← hread, Skb.length_readable]
    exact Nat.le_trans (Nat.sub_le _ _) hok.wrpos_le
  obtain ⟨tok, line, hreq, r, ⟨prev, e, hline, hwalk, rfl⟩, hrecv, hswitched, hpath, hhosttrims, hkeytrims, hvertrims⟩ :=
    h Sample.cfg Sample.digest _ {} (awaiting_ok hlen)
  obtain ⟨-, hrnrn, -⟩ := @http_recv_walk Sample.cfg Sample.digest (awaiting (requestText (wrapped c.normalPath) (wrapped c.host)))
    {} fun hrefused => by
      have hneg := hrefused.1 r hrecv
      rw [hswitched.rv_eq] at hneg
      exact absurd hneg (by decide)
  have hkeyfound : Trims _ e.hreq.sec_ws_key defaultKey := hkeytrims
  have hverfound : Trims _ e.hreq.sec_ws_ver defaultVer := hvertrims
  have hfind : FindsKey e := ⟨hkeyfound.length_le (by decide), hverfound.length_le (by decide)⟩
  obtain ⟨path, hpatheq⟩ := pathAndQuery_eq c.text
  rw [hpatheq] at hpath
  obtain ⟨htarget, htargetclass, got, hgot, hgotclass, hgottrims, hfits⟩ := request_forced (Skb.ok_ofBytes hlen) rfl
    (Skb.readable_ofBytes hlen) (.ofBytes hlen) hrnrn hline hwalk hfind hspace hcr hblank hpath
  obtain rfl := hhosttrims.unique hgottrims
  obtain hhost | hnil := hgot
  swap
  · exact absurd hnil hne
  rw [← hpatheq] at htarget
  have hdirect : DirectPath c.text := by
    by_contra hnot
    have hlt := c.length_path_lt hnot fun hhash => (uri_char_facts HASH (hchars HASH hhash)).2.2.2.1 rfl
    rw [← htarget, wrapped, List.length_take] at hlt
    omega
  refine ⟨hdirect, ?_, hne, ?_, hgotclass, ?_⟩
  · rw [hhost, frontText, ← c.host_eq hdirect]
  · rw [← htarget]
    exact htargetclass
  · rw [← htarget, hhost]
    exact hfits hhost

/-- The daemon understands the request which wscat makes of a URI exactly if the URI conforms. -/
theorem handshake_completes_iff (hcfg : request_config s = some cfg) (htls : cfg.tls = false)
    (hchars : ∀ c ∈ s.chars, is_uri_char c = true) : HandshakeCompletes s cfg ↔ Conforms s.chars :=
  ⟨fun h => h.conforms hcfg htls hchars, fun h => h.completes hcfg htls hchars⟩

end Completes

namespace Sample

/-- `ws://host:80/one?two` -/
def unfragmented : CString where
  chars := ascii "ws://host:80/one?two"
  nul_free := by decide

end Sample

theorem handshake_completes_iff_sample :
    HandshakeCompletes Sample.unfragmented (default_config (ascii "host") (ascii "/one?two") false) :=
  (handshake_completes_iff (by decide +kernel) rfl (by decide +kernel)).mpr (by decide +kernel)

/-- The tokeniser knows no equals sign, and user information becomes part of the host. -/
example : ¬ Conforms (ascii "ws://host/one?two=3") ∧ ¬ Conforms (ascii "ws://user@host/") := by decide +kernel

end wsd

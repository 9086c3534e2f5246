import Mathlib.Data.List.Forall2
import Wsd.Http.Recv

namespace wsd

/-- The header field values of a request. -/
def HttpReq.values (req : HttpReq) : List Chunk :=
  [req.host, req.upgrade, req.conn, req.conn2, req.sec_ws_key, req.sec_ws_ver, req.sec_ws_proto, req.sec_ws_ext,
    req.origin, req.user_agent]

/-- The bytes of a chunk. -/
def Chunk.bytes (data : Memory UInt8) (chk : Chunk) : List UInt8 :=
  data.window (chk.p.getD 0) chk.len

/-- The header fields which have a slot in the request, in the order of the comparisons. -/
inductive Field
  | host
  | upgrade
  | connection
  | sec_ws_key
  | sec_ws_ver
  | sec_ws_proto
  | sec_ws_ext
  | origin
  | user_agent
  deriving DecidableEq, Repr

namespace Field

def all : List Field :=
  [host, upgrade, connection, sec_ws_key, sec_ws_ver, sec_ws_proto, sec_ws_ext, origin, user_agent]

/-- The field's name as the parser compares it. -/
def name : Field → List UInt8
  | host => ascii "Host"
  | upgrade => ascii "Upgrade"
  | connection => ascii "Connection"
  | sec_ws_key => ascii "Sec-WebSocket-Key"
  | sec_ws_ver => ascii "Sec-WebSocket-Version"
  | sec_ws_proto => ascii "Sec-WebSocket-Protocol"
  | sec_ws_ext => ascii "Sec-WebSocket-Extensions"
  | origin => ascii "Origin"
  | user_agent => ascii "User-Agent"

/-- The macro `ASSIGN` for the field's slot; the second `Connection` has one of its own. -/
def assign (value : Chunk) (req : HttpReq) : Field → HttpReq
  | host => { req with host := value }
  | upgrade => { req with upgrade := value }
  | connection => if req.conn.len = 0 then { req with conn := value } else { req with conn2 := value }
  | sec_ws_key => { req with sec_ws_key := value }
  | sec_ws_ver => { req with sec_ws_ver := value }
  | sec_ws_proto => { req with sec_ws_proto := value }
  | sec_ws_ext => { req with sec_ws_ext := value }
  | origin => { req with origin := value }
  | user_agent => { req with user_agent := value }

/-- The field's slot, the first of the two for `Connection`. -/
def slot (req : HttpReq) : Field → Chunk
  | host => req.host
  | upgrade => req.upgrade
  | connection => req.conn
  | sec_ws_key => req.sec_ws_key
  | sec_ws_ver => req.sec_ws_ver
  | sec_ws_proto => req.sec_ws_proto
  | sec_ws_ext => req.sec_ws_ext
  | origin => req.origin
  | user_agent => req.user_agent

theorem mem_all (F : Field) : F ∈ all := by
  cases F <;> decide

theorem slot_assign_self {F : Field} (hF : F ≠ connection) (value : Chunk) (req : HttpReq) :
    F.slot (F.assign value req) = value := by
  cases F with
  | connection => exact absurd rfl hF
  | _ => rfl

theorem slot_assign_of_ne {F G : Field} (hF : F ≠ connection) (hne : G ≠ F) (value : Chunk) (req : HttpReq) :
    F.slot (G.assign value req) = F.slot req := by
  cases G with
  | connection =>
    rw [assign]
    split
    · cases F with
      | connection => exact absurd rfl hF
      | _ => rfl
    · cases F <;> rfl
  | _ =>
    cases F with
    | connection => exact absurd rfl hF
    | _ => first | rfl | exact absurd rfl hne

/-- One slot has the new value, and the others keep theirs. -/
theorem assign_values (value : Chunk) (req : HttpReq) (F : Field) :
    List.Forall₂ (fun old new => new = old ∨ new = value) req.values (F.assign value req).values := by
  cases F with
  | connection =>
    by_cases hfirst : req.conn.len = 0 <;> simp [assign, hfirst, HttpReq.values]
  | _ => simp [assign, HttpReq.values]

end Field

section Parse

variable {data : Memory UInt8} {tok : Chunk} {p cur : Nat}

/-- The field whose name the memory at `p` starts with, ignoring case. -/
def field_at (data : Memory UInt8) (p : Nat) : Option Field :=
  Field.all.find? fun F => strncasecmp_eq data p F.name F.name.length

/-- The comparisons select the first field whose name the token starts with. -/
theorem parse_header_field_eq (req : HttpReq) (hp : tok.p = some p)
    (hscan : skip_while (fun c => c != COLON) data (SKB_SIZE - p) p = .ok cur) :
    parse_header_field data tok req =
      match field_at data p with
      | some F => .ok (1, F.assign { p := some (p + (cur - p)), len := u32 (tok.len + 4294967296 - (cur - p)) } req)
      | none => .ok (0, req) := by
  have hcmp (name : String) (n : Nat) (hn : n ≠ 0) (hlen : n = (ascii name).length) :
      CMP data tok name n = .ok (strncasecmp_eq data p (ascii name) (ascii name).length) := by
    unfold CMP compare_at
    rw [if_neg hn, hp, hlen]
  unfold parse_header_field field_at
  simp only [hp, hscan, Except.ok_bind, Field.all, List.find?_cons, Field.name]
  rw [hcmp "Host" 4 (by decide) rfl, hcmp "Upgrade" 7 (by decide) rfl, hcmp "Connection" 10 (by decide) rfl,
    hcmp "Sec-WebSocket-Key" 17 (by decide) rfl, hcmp "Sec-WebSocket-Version" 21 (by decide) rfl,
    hcmp "Sec-WebSocket-Protocol" 22 (by decide) rfl, hcmp "Sec-WebSocket-Extensions" 24 (by decide) rfl,
    hcmp "Origin" 6 (by decide) rfl, hcmp "User-Agent" 10 (by decide) rfl]
  simp only [Except.ok_bind]
  cases strncasecmp_eq data p (ascii "Host") (ascii "Host").length with
  | true => rfl
  | false =>
  cases strncasecmp_eq data p (ascii "Upgrade") (ascii "Upgrade").length with
  | true => rfl
  | false =>
  cases strncasecmp_eq data p (ascii "Connection") (ascii "Connection").length with
  | true =>
    simp only [Bool.false_eq_true, if_false, if_true, Field.assign]
    split <;> rfl
  | false =>
  cases strncasecmp_eq data p (ascii "Sec-WebSocket-Key") (ascii "Sec-WebSocket-Key").length with
  | true => rfl
  | false =>
  cases strncasecmp_eq data p (ascii "Sec-WebSocket-Version") (ascii "Sec-WebSocket-Version").length with
  | true => rfl
  | false =>
  cases strncasecmp_eq data p (ascii "Sec-WebSocket-Protocol") (ascii "Sec-WebSocket-Protocol").length with
  | true => rfl
  | false =>
  cases strncasecmp_eq data p (ascii "Sec-WebSocket-Extensions") (ascii "Sec-WebSocket-Extensions").length with
  | true => rfl
  | false =>
  cases strncasecmp_eq data p (ascii "Origin") (ascii "Origin").length with
  | true => rfl
  | false =>
  cases strncasecmp_eq data p (ascii "User-Agent") (ascii "User-Agent").length with
  | true => rfl
  | false => rfl

/-- A header field is not used, or its value is what follows the first colon. -/
theorem parse_header_field_inv {req req' : HttpReq} {rv : Int} (hp : tok.p = some p)
    (hscan : skip_while (fun c => c != COLON) data (SKB_SIZE - p) p = .ok cur)
    (h : parse_header_field data tok req = .ok (rv, req')) :
    0 ≤ rv ∧ List.Forall₂ (fun value value' => value' = value ∨
      value' = { p := some (p + (cur - p)), len := u32 (tok.len + 4294967296 - (cur - p)) }) req.values req'.values := by
  rw [parse_header_field_eq req hp hscan] at h
  cases hfield : field_at data p with
  | none =>
    rw [hfield] at h
    cases h
    exact ⟨by decide, List.forall₂_same.mpr fun _ _ => .inl rfl⟩
  | some F =>
    rw [hfield] at h
    cases h
    exact ⟨by decide, F.assign_values _ req⟩

end Parse

end wsd

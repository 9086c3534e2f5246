import Wsd.Common.Fault
import Wsd.Http.Recv

namespace wsd

section Parser

variable {data : Memory UInt8} {s prev : Option Nat} {tok : Chunk} {req hreq : HttpReq} {wsd_errno : Errno}
  {st : FieldTok}

theorem skip_while_unguarded (pred : UInt8 → Bool) (data : Memory UInt8) (fuel cur : Nat) :
    Unguarded (skip_while pred data fuel cur) := by
  induction fuel generalizing cur with
  | zero => exact .error (by decide)
  | succ fuel ih =>
    unfold skip_while
    exact .ite (fun _ => ih _) (fun _ => .ok _)

theorem http_header_tok_unguarded : Unguarded (http_header_tok data s prev) := by
  unfold http_header_tok
  dsimp only
  split
  · exact .ok _
  · refine .ite (fun _ => ?_) fun _ => .bind (skip_while_unguarded _ _ _ _) fun _ _ => .ite (fun _ => ?_) fun _ => ?_
    · exact .bind (skip_while_unguarded _ _ _ _) fun _ _ => .ite (fun _ => .ok _) (fun _ => .ok _)
    · exact .ite (fun _ => .ok _) (fun _ => .ok _)
    · exact .bind (skip_while_unguarded _ _ _ _) fun _ _ => .ite (fun _ => .ok _) (fun _ => .ok _)

theorem comma_loop_unguarded (data : Memory UInt8) (fuel len p : Nat) : Unguarded (comma_loop data fuel len p) := by
  induction fuel generalizing len p with
  | zero =>
    cases len with
    | zero => exact .ok _
    | succ len => exact .error (by decide)
  | succ fuel ih =>
    cases len with
    | zero => exact .ok _
    | succ len =>
      unfold comma_loop
      exact .ite (fun _ => .ok _) (fun _ => ih _ _)

theorem http_field_value_tok_unguarded {s prev : Option Chunk} :
    Unguarded (http_field_value_tok data s prev wsd_errno) := by
  unfold http_field_value_tok
  dsimp only
  split
  · exact .ok _
  · refine .ite (fun _ => .ok _) fun _ => ?_
    split
    · exact .error (by decide)
    · exact .bind (comma_loop_unguarded _ _ _ _) fun _ _ => .ok _

theorem trim_front_unguarded (data : Memory UInt8) (len p i : Nat) : Unguarded (trim_front data len p i) := by
  induction len generalizing p i with
  | zero => exact .ok _
  | succ len ih =>
    unfold trim_front
    exact .ite (fun _ => .error (by decide)) fun _ => .ite (fun _ => ih _ _) (fun _ => .ok _)

theorem trim_back_unguarded (data : Memory UInt8) (p len : Nat) : Unguarded (trim_back data p len) := by
  induction len with
  | zero => exact .ok _
  | succ len ih =>
    unfold trim_back
    exact .ite (fun _ => .error (by decide)) fun _ => .ite (fun _ => ih) (fun _ => .ok _)

theorem trim_unguarded (data : Memory UInt8) (chk : Chunk) : Unguarded (trim data chk) := by
  unfold trim
  refine .ite (fun _ => .ok _) fun _ => ?_
  split
  · exact .error (by decide)
  · exact .bind (trim_front_unguarded _ _ _ _) fun _ _ => .bind (trim_back_unguarded _ _ _) fun _ _ => .ok _

theorem compare_at_unguarded (cmp : Nat → List UInt8 → Nat → Bool) (p : Option Nat) (lit : List UInt8) (n : Nat) :
    Unguarded (compare_at cmp p lit n) := by
  unfold compare_at
  refine .ite (fun _ => .ok _) fun _ => ?_
  split
  · exact .error (by decide)
  · exact .ok _

theorem parse_request_line_unguarded : Unguarded (parse_request_line data tok req wsd_errno) := by
  unfold parse_request_line
  refine .ite (fun _ => .ok _) fun _ => ?_
  split
  · exact .error (by decide)
  · exact .ite (fun _ => .ok _) fun _ => .ite (fun _ => .ok _) fun _ => .ite (fun _ => .ok _) (fun _ => .ok _)

/-- One after the other, the names are compared until one matches. -/
theorem parse_header_field_unguarded : Unguarded (parse_header_field data tok req) := by
  unfold parse_header_field
  split
  · exact .error (by decide)
  · refine .bind (skip_while_unguarded _ _ _ _) fun cur _ => ?_
    have hname {α : Type} {name : String} {len : Nat} {x y : Except Fault α} (hx : Unguarded x) (hy : Unguarded y) :
        Unguarded (CMP data tok name len >>= fun found => if found = true then x else y) :=
      .bind (compare_at_unguarded _ _ _ _) fun _ _ => .ite (fun _ => hx) (fun _ => hy)
    refine hname (.ok _) (hname (.ok _) (hname ?_ ?_))
    · exact .ite (fun _ => .ok _) (fun _ => .ok _)
    · exact hname (.ok _) (hname (.ok _) (hname (.ok _) (hname (.ok _) (hname (.ok _) (hname (.ok _) (.ok _))))))

theorem is_valid_req_line_unguarded : Unguarded (is_valid_req_line data hreq) := by
  unfold is_valid_req_line
  have htarget : Unguarded (compare_at (strncmp_eq data) hreq.req_target.p (ascii "*") hreq.req_target.len) :=
    compare_at_unguarded _ _ _ _
  extract_lets rest
  have hrest (is_get : Bool) : Unguarded (rest is_get) := by
    refine .ite (fun _ => .ok _) fun _ => .bind htarget fun _ _ => .ite (fun _ => .ok _) fun _ => ?_
    exact .bind (compare_at_unguarded _ _ _ _) fun _ _ => .ite (fun _ => .ok _) (fun _ => .ok _)
  exact .ite (fun _ => .bind (compare_at_unguarded _ _ _ _) fun _ _ => hrest _) (fun _ => hrest true)

theorem header_loop_unguarded (data : Memory UInt8) (fuel : Nat) (hreq : HttpReq) (prev : Option Nat) :
    Unguarded (header_loop data fuel hreq prev) := by
  induction fuel generalizing hreq prev with
  | zero => exact .error (by decide)
  | succ fuel ih =>
    unfold header_loop
    refine .bind http_header_tok_unguarded fun _ _ => .ite (fun _ => ?_) (fun _ => .ok _)
    exact .bind parse_header_field_unguarded fun _ _ => .ite (fun _ => .ok _) (fun _ => ih _ _)

theorem upgrade_loop_unguarded (data : Memory UInt8) (fuel : Nat) (upgrade : Chunk) (st : FieldTok) :
    Unguarded (upgrade_loop data fuel upgrade st) := by
  induction fuel generalizing upgrade st with
  | zero => exact .error (by decide)
  | succ fuel ih =>
    unfold upgrade_loop
    refine .bind http_field_value_tok_unguarded fun _ _ => .ite (fun _ => ?_) (fun _ => .ok _)
    refine .bind (trim_unguarded _ _) fun _ _ => .bind (compare_at_unguarded _ _ _ _) fun _ _ => ?_
    exact .ite (fun _ => .ok _) (fun _ => ih _ _)

theorem has_upgrade_unguarded (data : Memory UInt8) (result : Chunk) : Unguarded (has_upgrade data result) := by
  unfold has_upgrade
  exact .bind (trim_unguarded _ _) fun _ _ => compare_at_unguarded _ _ _ _

theorem connection_loop_unguarded (data : Memory UInt8) (fuel : Nat) (st : FieldTok) :
    Unguarded (connection_loop data fuel st) := by
  induction fuel generalizing st with
  | zero => exact .error (by decide)
  | succ fuel ih =>
    unfold connection_loop
    refine .bind http_field_value_tok_unguarded fun _ _ => .ite (fun _ => ?_) (fun _ => .ok _)
    exact .bind (has_upgrade_unguarded _ _) fun _ _ => .ite (fun _ => .ok _) (fun _ => ih _)

theorem tokenise_connection_unguarded (data : Memory UInt8) (s : Chunk) (st : FieldTok) :
    Unguarded (tokenise_connection data s st) := by
  unfold tokenise_connection
  refine .bind http_field_value_tok_unguarded fun _ _ => .ite (fun _ => ?_) (fun _ => .ok _)
  exact .bind (has_upgrade_unguarded _ _) fun _ _ => .ite (fun _ => .ok _) (fun _ => connection_loop_unguarded _ _ _)

theorem is_valid_connection_header_field_unguarded : Unguarded (is_valid_connection_header_field data hreq st) := by
  unfold is_valid_connection_header_field
  refine .bind (tokenise_connection_unguarded _ _ _) fun _ _ => ?_
  exact .ite (fun _ => .ok _) (fun _ => tokenise_connection_unguarded _ _ _)

end Parser

section Handshake

variable {cfg : Config} {ssl : Openssl} {data : Memory UInt8} {b : Skb} {req : HttpReq} {sk : Sk} {wsd_errno : Errno}

theorem is_valid_ver_unguarded : Unguarded (is_valid_ver data req) := by
  unfold is_valid_ver
  exact .bind (trim_unguarded _ _) fun _ _ => .bind (compare_at_unguarded _ _ _ _) fun _ _ => .ok _

theorem check_proto_unguarded : Unguarded (check_proto cfg data req) := by
  unfold check_proto
  split
  · exact .ok _
  · unfold is_valid_proto
    exact .bind (trim_unguarded _ _) fun _ _ => .bind (compare_at_unguarded _ _ _ _) fun _ _ => .ok _

theorem generate_accept_val_unguarded : Unguarded (generate_accept_val ssl data b req) := by
  unfold generate_accept_val
  exact .bind (trim_unguarded _ _) fun _ _ => .ite (fun _ => .error (by decide)) (fun _ => .ok _)

theorem prepare_handshake_unguarded : Unguarded (prepare_handshake ssl data b req) := by
  unfold prepare_handshake
  refine .ite (fun _ => .ok _) fun _ => .ite (fun _ => .ok _) fun _ => ?_
  refine .bind generate_accept_val_unguarded fun _ _ => .ite (fun _ => .ok _) fun _ => ?_
  refine .bind (trim_unguarded _ _) fun _ _ => .ite (fun _ => .ok _) fun _ => ?_
  exact .ite (fun _ => .ok _) (fun _ => .ok _)

theorem ws_decode_handshake_unguarded : Unguarded (ws_decode_handshake cfg ssl sk req wsd_errno) := by
  unfold ws_decode_handshake
  refine .bind is_valid_ver_unguarded fun _ _ => .ite (fun _ => .ok _) fun _ => ?_
  refine .bind check_proto_unguarded fun _ _ => .ite (fun _ => .ok _) fun _ => ?_
  refine .bind (.assert _ (by decide)) fun _ _ => .bind prepare_handshake_unguarded fun _ _ => ?_
  refine .ite (fun _ => .ok _) fun _ => .bind (.assert _ (by decide)) fun _ _ => ?_
  exact .bind (.assert _ (by decide)) fun _ _ => .ok _

/-- With bytes in its buffer and the handshake's handler installed, the HTTP handler
    raises none of the watched faults. -/
theorem http_recv_unguarded {st : Statics} (hrdsz : skb_rdsz sk.recvbuf ≠ 0)
    (hproto : sk.proto.decode_handshake = some .ws_decode_handshake) : Unguarded (http_recv cfg ssl sk st) := by
  have hassert : Unguarded (assert .http_recv_rdsz (skb_rdsz sk.recvbuf ≠ 0)) := by
    rw [decide_eq_true hrdsz]
    exact .ok ()
  unfold http_recv
  refine .bind hassert fun _ _ => ?_
  refine .ite (fun _ => .ok _) fun _ => .bind http_header_tok_unguarded fun _ _ => .ite (fun _ => .ok _) fun _ => ?_
  refine .bind parse_request_line_unguarded fun _ _ => .ite (fun _ => .ok _) fun _ => ?_
  refine .bind is_valid_req_line_unguarded fun _ _ => .ite (fun _ => .ok _) fun _ => ?_
  refine .bind (header_loop_unguarded _ _ _ _) fun _ _ => .ite (fun _ => .ok _) fun _ => .ite (fun _ => .ok _) fun _ => ?_
  refine .bind (upgrade_loop_unguarded _ _ _ _) fun _ _ => .ite (fun _ => .ok _) fun _ => ?_
  refine .bind is_valid_connection_header_field_unguarded fun _ _ => .ite (fun _ => .ok _) fun _ => ?_
  refine .bind ?_ fun _ _ => .ok _
  rw [hproto]
  exact ws_decode_handshake_unguarded

end Handshake

end wsd

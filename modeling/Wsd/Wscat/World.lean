import Wsd.Common.Sk
import Wsd.Common.Timeout
import Wsd.Http.Recv
import Wsd.Wscat.Recv
import Wsd.Wscat.Stdin

namespace wsd

/-- The part of the command line which wscat reads after its start. The ping interval
    is in milliseconds. -/
structure Options where
  is_json : Bool
  no_handshake : Bool
  idle_timeout : Int
  ping_interval : Int
  repeat_last_num : Int

/-- What `main` makes of the arguments -j, -N, -i, -p and -R, which are -1 if they are missing. -/
def options (is_json_arg no_handshake_arg : Bool) (idle_timeout_arg ping_interval_arg repeat_last_num_arg : Int) :
    Options where
  is_json := is_json_arg
  no_handshake := no_handshake_arg
  idle_timeout := idle_timeout_arg
  ping_interval := ping_interval_arg * 1000
  repeat_last_num := if 0 < repeat_last_num_arg then repeat_last_num_arg else -1

/-- The handlers which take turns as the websocket's `recv`. -/
inductive WsskRecv
  | wssk_http_recv
  | wssk_ws_recv
  deriving DecidableEq, Repr

/-- The program's memory between two calls. The handlers of `fdin` are the same from its
    creation on; those of `wssk` too, but for `recv`. -/
structure Wscat where
  wssk : Option Sk
  recv : WsskRecv
  fdin : Option Sk
  last_input : Option Skb
  repeat_last_num : Int
  repeat_last_armed : Bool
  http_header_tok : Option Nat
  stdout : Stream
  wsd_errno : Errno
  done : Bool

/-- The websocket's socket as `wssk_init` leaves it, with the upgrade request in its send buffer. -/
def wssk_init (fd : Int) (request : List UInt8) : Sk :=
  { sk_init fd 0 with
    sendbuf := skb_put .zero request
    events := (sk_init fd 0).events.union EPOLLOUT
    proto := {
      ping := some .ws_ping
      pong := some .ws_pong
      start_closing_handshake := some .ws_start_closing_handshake } }

namespace Wscat

/-- The state in which `main` enters the event loop. -/
def init (opt : Options) (fd : Int) (request : List UInt8) (broken : Bool) : Wscat where
  wssk := some (wssk_init fd request)
  recv := .wssk_http_recv
  fdin := none
  last_input := if 0 < opt.repeat_last_num then some .zero else none
  repeat_last_num := opt.repeat_last_num
  repeat_last_armed := false
  http_header_tok := none
  stdout := { printed := [], broken }
  wsd_errno := .WSD_CHECKERRNO
  done := false

/-- What the handlers of the standard input work on. -/
def stdin (opt : Options) (c : Wscat) (sk : Sk) : Stdin where
  sk := sk
  wssk := c.wssk
  last_input := c.last_input
  repeat_last_num := c.repeat_last_num
  is_json := opt.is_json
  wsd_errno := c.wsd_errno

/-- The state after these handlers, where their argument is stored elsewhere. -/
def setStdin (c : Wscat) (s : Stdin) : Wscat :=
  { c with wssk := s.wssk, last_input := s.last_input, repeat_last_num := s.repeat_last_num, wsd_errno := s.wsd_errno }

end Wscat

def wssk_close (c : Wscat) : Wscat :=
  { c with wssk := none, done := true }

def wssk_ws_start_closing_handshake (c : Wscat) : Except Fault Wscat :=
  match c.wssk with
  | none => .error .null_pointer
  | some sk => do
    let (rv, sk, wsd_errno) ←
      start_closing_handshake sk.proto.start_closing_handshake sk WS_1000 true c.wsd_errno
    return { c with wssk := some sk, wsd_errno, done := if rv < 0 then true else c.done }

def wssk_ws_ping (c : Wscat) : Except Fault Wscat :=
  match c.wssk with
  | none => .error .null_pointer
  | some sk =>
    match sk.proto.ping with
    | none => .error .null_function
    | some .ws_ping => do
      let (rv, sk, wsd_errno) ← ws_ping sk true c.wsd_errno
      return { c with wssk := some sk, wsd_errno, done := if rv < 0 then true else c.done }
    | some .pp2_nop => .ok c

/-- The loop of `repeat_last`, with its socket as the argument of the handlers. -/
def repeat_loop : Nat → Stdin → Except Fault (Int × Stdin)
  | 0, _ => .error .unfinished
  | fuel + 1, s =>
    if s.repeat_last_num = 0 then
      .ok (0, s)
    else
      match s.last_input with
      | none => .error .null_pointer
      | some last_input =>
        if skb_wrsz s.sk.recvbuf < skb_rdsz last_input then
          .ok (-1, { s with wsd_errno := .WSD_EAGAIN })
        else do
          let recvbuf := skb_put s.sk.recvbuf (last_input.data.window last_input.rdpos (skb_rdsz last_input))
          let (rv, s) ← stdin_decode_frame { s with sk := { s.sk with recvbuf } }
          let s := if rv = 0 then { s with repeat_last_num := s.repeat_last_num - 1 } else s
          let s := if rv < 0 ∧ s.wsd_errno ≠ .WSD_EAGAIN then { s with repeat_last_num := 0 } else s
          repeat_loop fuel s

/-- Each round sends a frame, or leaves less room in the receive buffer. -/
def repeat_fuel (c : Wscat) : Nat :=
  c.repeat_last_num.toNat * (SKB_SIZE + 1) + SKB_SIZE + 2

def repeat_last (opt : Options) (c : Wscat) : Except Fault Wscat :=
  match c.last_input with
  | none => .error .null_pointer
  | some last_input =>
    if skb_rdsz last_input = 0 then
      .ok { c with repeat_last_num := 0 }
    else do
      let (_, s) ← repeat_loop (repeat_fuel c) (c.stdin opt (sk_init (-1) 0))
      return c.setStdin s

def stdin_close (opt : Options) (c : Wscat) : Except Fault Wscat := do
  let c ←
    if opt.idle_timeout = -1 ∧ opt.ping_interval = -1 ∧ c.repeat_last_num = -1 then
      if !opt.no_handshake then wssk_ws_start_closing_handshake c else pure c
    else if 0 < c.repeat_last_num then
      repeat_last opt { c with repeat_last_armed := true }
    else
      pure c
  return { c with fdin := none }

/-- The failing path of `wssk_http_recv`. -/
def http_response_error (c : Wscat) (sk : Sk) : Int × Wscat :=
  (-1, { c with wssk := some { sk with recvbuf := skb_reset sk.recvbuf }, wsd_errno := .WSD_EBADREQ })

/-- A complete response of which every line can be tokenised and parsed opens the standard input. -/
def wssk_http_recv (c : Wscat) (sk : Sk) : Except Fault (Int × Wscat) := do
  if !has_rnrn_termination sk.recvbuf then
    return (-1, { c with wsd_errno := .WSD_EINPUT })
  else
    let (rv, _, prev, _) ← http_header_tok sk.recvbuf.data (some sk.recvbuf.rdpos) c.http_header_tok
    if rv < 0 then
      return http_response_error { c with http_header_tok := prev } sk
    else
      let (parsed, _, prev, wsd_errno) ← header_loop sk.recvbuf.data (SKB_SIZE + 1) {} prev
      if !parsed then
        return http_response_error { c with http_header_tok := prev } sk
      else
        return (0, { c with
          wssk := some { sk with recvbuf := skb_reset sk.recvbuf }
          recv := .wssk_ws_recv
          http_header_tok := prev
          fdin := some (sk_init 0 0)
          wsd_errno })

/-- `post_read` of the websocket's socket. -/
def wscat.post_read (opt : Options) (c : Wscat) (sk : Sk) : Except Fault (Int × Wscat) := do
  if skb_rdsz sk.recvbuf = 0 then
    return (0, c)
  else
    match c.recv with
    | .wssk_http_recv => wssk_http_recv c sk
    | .wssk_ws_recv =>
      let (rv, w) ← wssk_ws_recv opt.no_handshake { sk, stdout := c.stdout, wsd_errno := c.wsd_errno }
      return (rv, { c with wssk := some w.sk, stdout := w.stdout, wsd_errno := w.wsd_errno })

/-- `post_read` of the standard input's socket. -/
def wscat.post_stdin (opt : Options) (c : Wscat) (sk : Sk) : Except Fault (Int × Wscat) := do
  if skb_rdsz sk.recvbuf = 0 then
    return (0, c)
  else
    let (rv, s) ← stdin_recv (c.stdin opt sk)
    return (rv, { c.setStdin s with fdin := some s.sk })

end wsd

import Wsd.Bytes.Memory
import Wsd.Outcome

namespace wsd

/-- The text of a C string literal as bytes, without its terminator. -/
def ascii (s : String) : List UInt8 :=
  s.toList.map fun c => UInt8.ofNat c.toNat

/-- The values of the global `wsd_errno`. -/
inductive Errno
  | WSD_CHECKERRNO
  | WSD_EAGAIN
  | WSD_EBADREQ
  | WSD_EEOS
  | WSD_ECHAR
  | WSD_EINPUT
  | WSD_ENOMEM
  | WSD_ENUM
  | WSD_EOF
  | WSD_EAI
  deriving DecidableEq, Repr

/-- The checked expressions of `A`, `AN` and `AZ`, named by function and argument. -/
inductive Assertion
  | ws_encode_frame_frame_len
  | ws_encode_frame_set_payload_len
  | encode_ping_pong_frame_set_payload_len
  | encode_close_frame_set_payload_len
  | ws_start_closing_handshake_closing
  | ws_ping_closing
  | ws_pong_closing
  | ws_recv_rdsz
  | pp2_recv_rdsz
  | pp2_recv_pp2sk
  | http_recv_rdsz
  | ws_decode_handshake_sendbuf_wrsz
  | ws_decode_handshake_recvbuf_rdsz
  | wssk_ws_decode_frame_payload_len
  | wssk_ws_decode_frame_print
  | wssk_ws_recv_rdsz
  | wssk_ws_encode_data_frame_set_payload_len
  | stdin_recv_rdsz
  | on_epoll_event_fd
  | sk_read_fd
  | on_read_close_on_write
  | on_read_close
  | check_closing_handshake_timeout_timeout
  | event_loop_accept
  | check_timeout_sk
  deriving DecidableEq, Repr

/-- The ways in which a call ends the process, or leaves the language, instead
    of returning. A failed assertion prints an alert and calls `exit(1)`. -/
inductive Fault
  | assertion (failed : Assertion)
  | null_function
  | null_pointer
  | use_after_free
  | out_of_bounds
  /-- A receive loop is still running after the given number of frames. -/
  | unfinished
  deriving DecidableEq, Repr

/-- The assertion macros: execution goes on only if the expression holds. -/
def assert (failed : Assertion) (exp : Bool) : Except Fault Unit :=
  if exp then .ok () else .error (.assertion failed)

@[simp] theorem assert_true (failed : Assertion) : assert failed true = .ok () := rfl

@[simp] theorem assert_false (failed : Assertion) : assert failed false = .error (.assertion failed) := rfl

theorem assert_eq_ok_iff {failed : Assertion} {exp : Bool} {u : Unit} :
    assert failed exp = .ok u ↔ exp = true := by
  cases exp <;> simp

theorem assert_eq_error_iff {failed : Assertion} {exp : Bool} {fault : Fault} :
    assert failed exp = .error fault ↔ exp = false ∧ fault = .assertion failed := by
  cases exp <;> simp [eq_comm]

/-- A chunk of bytes. A pointer is an index into the buffer being parsed, or NULL. -/
structure Chunk where
  p : Option Nat
  len : Nat
  deriving DecidableEq, Repr

/-- The zeroed chunk left by `memset`. -/
def Chunk.null : Chunk := { p := none, len := 0 }

/-- HTTP upgrade request. -/
structure HttpReq where
  method : Chunk := .null
  req_target : Chunk := .null
  http_ver : Chunk := .null
  host : Chunk := .null
  origin : Chunk := .null
  user_agent : Chunk := .null
  conn : Chunk := .null
  conn2 : Chunk := .null
  upgrade : Chunk := .null
  sec_ws_key : Chunk := .null
  sec_ws_ver : Chunk := .null
  sec_ws_ext : Chunk := .null
  sec_ws_proto : Chunk := .null
  is_uri_abs : Bool := false

/-- Websocket frame. The payload length is an `unsigned long`, the masking key
    the `unsigned int` loaded from the four key bytes. -/
structure WsFrame where
  byte1 : UInt8 := 0
  byte2 : UInt8 := 0
  payload_len : Nat := 0
  masking_key : Nat := 0

/-- The size of `skb_t`'s array `data`. -/
def SKB_SIZE : Nat := 1048576

/-- Socket buffer. The positions are C's `unsigned int`s; the cells from index
    `SKB_SIZE` on are the heap behind the array. -/
@[ext] structure Skb where
  rdpos : Nat
  wrpos : Nat
  data : Memory UInt8

/-- The bits of an epoll event mask which the program names. -/
structure EpollEvents where
  EPOLLIN : Bool := false
  EPOLLPRI : Bool := false
  EPOLLOUT : Bool := false
  EPOLLERR : Bool := false
  EPOLLHUP : Bool := false
  EPOLLRDHUP : Bool := false
  deriving DecidableEq, Repr

structure Timespec where
  tv_sec : Int
  tv_nsec : Int
  deriving DecidableEq, Repr

/-- An IPv4 socket address: the integers which the host loads from the fields,
    whose bytes are in network order. -/
structure SockaddrIn where
  sin_addr : UInt32
  sin_port : UInt16
  deriving DecidableEq, Repr

inductive DecodeHandshake
  | ws_decode_handshake
  deriving DecidableEq, Repr

inductive DecodeFrame
  | ws_decode_frame
  | pp2_decode_frame
  deriving DecidableEq, Repr

inductive EncodeFrame
  | ws_encode_frame
  | pp2_encode_frame
  deriving DecidableEq, Repr

inductive Ping
  | ws_ping
  | pp2_nop
  deriving DecidableEq, Repr

inductive Pong
  | ws_pong
  deriving DecidableEq, Repr

inductive StartClosingHandshake
  | ws_start_closing_handshake
  deriving DecidableEq, Repr

inductive Recv
  | http_recv
  | ws_recv
  | pp2_recv
  deriving DecidableEq, Repr

inductive Close
  | sk_close
  | pp2_close
  deriving DecidableEq, Repr

/-- The protocol's function pointers; `none` is the NULL left by `memset`. -/
structure Proto where
  decode_handshake : Option DecodeHandshake := none
  decode_frame : Option DecodeFrame := none
  encode_frame : Option EncodeFrame := none
  ping : Option Ping := none
  pong : Option Pong := none
  start_closing_handshake : Option StartClosingHandshake := none
  deriving DecidableEq, Repr

/-- The socket's function pointers. `sk_init` installs `sk_read` and `sk_write`
    on every socket and nothing replaces them. -/
structure Ops where
  recv : Option Recv := none
  close : Option Close := none
  deriving DecidableEq, Repr

/-- File descriptor, state, operations and protocol of a socket. Membership in
    the intrusive lists is part of the state of the event loop. -/
structure Sk where
  fd : Int
  hash : UInt64
  events : EpollEvents
  sendbuf : Skb
  recvbuf : Skb
  proto : Proto
  ops : Ops
  retries : UInt8
  close_on_write : Bool
  close : Bool
  closing : Bool
  ts_last_io : Timespec
  ts_closing_handshake_start : Timespec
  src_addr : SockaddrIn
  dst_addr : SockaddrIn

/-- The part of the configuration which the daemon reads after start. -/
structure Config where
  lfd : Int
  fhostname_num : UInt8
  idle_timeout : Int
  ping_interval : Int
  closing_handshake_timeout : Int
  sec_ws_proto : Option (List UInt8)

end wsd

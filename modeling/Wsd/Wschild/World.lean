import Wsd.Common.Sk
import Wsd.Http.Recv
import Wsd.Pp2.Decode

namespace wsd

/-- The daemon's memory between two calls: the open sockets by address, where an
    address is not used again after its socket has been freed, and the three
    containers which link them. The socket `pp2sk` is kept apart from the clients. -/
structure World where
  clients : Nat → Option Sk
  pp2sk : Option (Nat × Sk)
  sk_hash : Nat → List Nat
  sk_list : List Nat
  work_list : List Nat
  wsd_errno : Errno
  num : Nat
  statics : Statics
  next : Nat

namespace World

/-- The state of `wschild_main` when it enters the event loop. -/
def init : World where
  clients := fun _ => none
  pp2sk := none
  sk_hash := fun _ => []
  sk_list := []
  work_list := []
  wsd_errno := .WSD_CHECKERRNO
  num := 0
  statics := {}
  next := 0

/-- The socket at an address. -/
def get (w : World) (id : Nat) : Option Sk :=
  match w.pp2sk with
  | none => w.clients id
  | some (p, sk) => if id = p then some sk else w.clients id

def set (w : World) (id : Nat) (sk : Sk) : World :=
  match w.pp2sk with
  | none => { w with clients := Function.update w.clients id (some sk) }
  | some (p, _) =>
    if id = p then { w with pp2sk := some (p, sk) }
    else { w with clients := Function.update w.clients id (some sk) }

/-- An access through a pointer, which may dangle. -/
def deref (w : World) (id : Nat) : Except Fault Sk :=
  match w.get id with
  | none => .error .use_after_free
  | some sk => .ok sk

/-- What a client's frame handlers work on. They are installed on clients only. -/
def conn (w : World) (id : Nat) : Except Fault Conn :=
  match w.clients id, w.pp2sk with
  | none, _ => .error .use_after_free
  | some _, none => .error .null_pointer
  | some sk, some (_, pp2sk) => .ok { sk, pp2sk, wsd_errno := w.wsd_errno }

def setConn (w : World) (id : Nat) (c : Conn) : World :=
  { w with
    clients := Function.update w.clients id (some c.sk)
    pp2sk := w.pp2sk.map fun p => (p.1, c.pp2sk)
    wsd_errno := c.wsd_errno }

/-- What the backend's frame handler works on. -/
def mux (w : World) : Except Fault Mux :=
  match w.pp2sk with
  | none => .error .null_pointer
  | some (_, pp2sk) => .ok { clients := w.clients, sk_hash := w.sk_hash, pp2sk, wsd_errno := w.wsd_errno }

def setMux (w : World) (m : Mux) : World :=
  { w with
    clients := m.clients
    pp2sk := w.pp2sk.map fun p => (p.1, m.pp2sk)
    wsd_errno := m.wsd_errno }

end World

def next_host (cfg : Config) (w : World) : World :=
  { w with num := if cfg.fhostname_num.toNat ≤ w.num + 1 then 0 else w.num + 1 }

/-- The results of the system calls in `sk_open`. -/
inductive OpenResult
  | no_memory
  | no_socket
  | no_address
  | no_inet_address
  | not_connected
  | connected (fd : Int)
  deriving DecidableEq, Repr

/-- Opens the backend's socket; called while `pp2sk` is NULL. -/
def sk_open (result : OpenResult) (w : World) : Int × World :=
  match result with
  | .no_memory => (-1, { w with wsd_errno := .WSD_ENOMEM })
  | .no_socket => (-1, { w with wsd_errno := .WSD_CHECKERRNO })
  | .no_address => (-1, { w with wsd_errno := .WSD_EAI })
  | .no_inet_address => (-1, { w with wsd_errno := .WSD_ENUM })
  | .not_connected => (-1, { w with wsd_errno := .WSD_EBADREQ })
  | .connected fd =>
    let pp2sk := { sk_init fd 0xffffffffffffffff with
      ops := { recv := some .pp2_recv, close := some .pp2_close }
      proto := {
        decode_frame := some .pp2_decode_frame
        encode_frame := some .pp2_encode_frame
        ping := some .pp2_nop } }
    (0, { w with pp2sk := some (w.next, pp2sk), sk_list := w.sk_list ++ [w.next], next := w.next + 1 })

/-- The loop over the configured hosts in `ws_recv`, which goes on as long as a
    host's name cannot be resolved. There is at least one host. The list holds
    the results of the attempts. -/
def open_loop (cfg : Config) : List OpenResult → Nat → World → Int × World
  | _, 0, w => (-1, w)
  | opens, retries + 1, w =>
    let (rv, w) := sk_open (opens.headD .no_socket) w
    if rv < 0 ∧ w.wsd_errno = .WSD_EAI then
      open_loop cfg opens.tail retries (next_host cfg w)
    else
      (rv, w)

/-- The connection's hash: address and port as loaded, and the low bits of the
    coarse clock. -/
def hash (saddr : SockaddrIn) (tv_nsec : Nat) : UInt64 :=
  let h := saddr.sin_addr.toUInt64
  let h := h <<< 16
  let h := h ||| saddr.sin_port.toUInt64
  let h := h <<< 16
  h ||| (UInt64.ofNat tv_nsec &&& ((0x00000000ffff0000 : UInt64) >>> 16))

/-- What the system calls in `sk_accept` deliver. -/
structure Accepted where
  fd : Int
  src_addr : SockaddrIn
  dst_addr : SockaddrIn
  tv_nsec : Nat
  deriving DecidableEq, Repr

/-- Puts a node at the head of the chain of its key's bucket, which is an index into an
    array of `HASH_SIZE` chains. -/
def hash_add (sk_hash : Nat → List Nat) (id : Nat) (key : UInt64) : Except Fault (Nat → List Nat) :=
  if hash_min key < HASH_SIZE then
    .ok (Function.update sk_hash (hash_min key) (id :: sk_hash (hash_min key)))
  else
    .error .out_of_bounds

/-- The socket of an accepted connection. -/
def Accepted.sk (a : Accepted) : Sk :=
  { sk_init a.fd (hash a.src_addr a.tv_nsec) with
    src_addr := a.src_addr
    dst_addr := a.dst_addr
    ops := { recv := some .http_recv, close := some .sk_close }
    proto := { decode_handshake := some .ws_decode_handshake } }

/-- `none` stands for a failing call. -/
def sk_accept (accepted : Option Accepted) (w : World) : Except Fault (Int × World) :=
  match accepted with
  | none => .ok (-1, { w with wsd_errno := .WSD_CHECKERRNO })
  | some a => do
    let sk_hash ← hash_add w.sk_hash w.next a.sk.hash
    return (0, { w with
      clients := Function.update w.clients w.next (some a.sk)
      sk_hash
      sk_list := w.sk_list ++ [w.next]
      next := w.next + 1 })

/-- The world with an accepted client. -/
def World.accept (w : World) (a : Accepted) : World :=
  { w with
    clients := Function.update w.clients w.next (some a.sk)
    sk_hash := Function.update w.sk_hash (hash_min a.sk.hash) (w.next :: w.sk_hash (hash_min a.sk.hash))
    sk_list := w.sk_list ++ [w.next]
    next := w.next + 1 }

theorem sk_accept_of_near {a : Accepted} (w : World) (hnear : hash_min (hash a.src_addr a.tv_nsec) < HASH_SIZE) :
    sk_accept (some a) w = .ok (0, w.accept a) := by
  have hadd : hash_add w.sk_hash w.next a.sk.hash = .ok _ := if_pos hnear
  unfold sk_accept
  simp only [hadd]
  rfl

theorem sk_accept_inv {a : Accepted} {w w' : World} {rv : Int} (h : sk_accept (some a) w = .ok (rv, w')) :
    hash_min (hash a.src_addr a.tv_nsec) < HASH_SIZE ∧ rv = 0 ∧ w' = w.accept a := by
  have hnear : hash_min (hash a.src_addr a.tv_nsec) < HASH_SIZE := by
    by_contra hfar
    have hadd : hash_add w.sk_hash w.next a.sk.hash = .error .out_of_bounds := if_neg hfar
    unfold sk_accept at h
    simp only [hadd] at h
    cases h
  rw [sk_accept_of_near w hnear] at h
  cases h
  exact ⟨hnear, rfl, rfl⟩

/-- The loop of `sk_close` over the work list: the nodes whose socket has
    another descriptor stay linked. -/
def unlink_fd (w : World) (fd : Int) : List Nat → Except Fault (List Nat)
  | [] => .ok []
  | pos :: rest => do
    let sk ← w.deref pos
    let rest ← unlink_fd w fd rest
    return if fd = sk.fd then rest else pos :: rest

/-- Closes and frees a client. -/
def sk_close (w : World) (id : Nat) : Except Fault World :=
  match w.clients id with
  | none => .error .use_after_free
  | some sk => do
    let work_list ← unlink_fd w sk.fd w.work_list
    return { w with
      clients := Function.update w.clients id none
      sk_hash := fun bucket => (w.sk_hash bucket).erase id
      sk_list := w.sk_list.erase id
      work_list }

/-- Closes and frees the backend's socket. -/
def pp2_close (w : World) (id : Nat) : Except Fault World :=
  match w.pp2sk with
  | none => .error .use_after_free
  | some (p, _) =>
    if id = p then .ok { w with pp2sk := none, sk_list := w.sk_list.erase id } else .error .use_after_free

/-- The indirect call through `ops->close`. -/
def close (w : World) (id : Nat) : Except Fault World := do
  let sk ← w.deref id
  match sk.ops.close with
  | none => throw .null_function
  | some .sk_close => sk_close w id
  | some .pp2_close => pp2_close w id

/-- The loop of `post_read`: whether a node's socket has the given descriptor. -/
def has_fd (w : World) (fd : Int) : List Nat → Except Fault Bool
  | [] => .ok false
  | pos :: rest => do
    let sk ← w.deref pos
    if sk.fd = fd then return true else has_fd w fd rest

def post_read (w : World) (id : Nat) : Except Fault World := do
  let sk ← w.deref id
  if ← has_fd w sk.fd w.work_list then
    return w
  else
    return { w with work_list := w.work_list ++ [id] }

end wsd

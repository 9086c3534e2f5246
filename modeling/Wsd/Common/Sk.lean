import Wsd.Common.Io

namespace wsd

/-- A socket buffer as `memset` leaves it. -/
def Skb.zero : Skb := { rdpos := 0, wrpos := 0, data := fun _ => 0 }

def Timespec.zero : Timespec := { tv_sec := 0, tv_nsec := 0 }

def SockaddrIn.zero : SockaddrIn := { sin_addr := 0, sin_port := 0 }

/-- A zeroed socket after `sk_init`, whose allocations succeed. -/
def sk_init (fd : Int) (hash : UInt64) : Sk where
  fd := fd
  hash := hash
  events := { EPOLLIN := true, EPOLLPRI := true, EPOLLRDHUP := true }
  sendbuf := .zero
  recvbuf := .zero
  proto := {}
  ops := {}
  retries := 0
  close_on_write := false
  close := false
  closing := false
  ts_last_io := .zero
  ts_closing_handshake_start := .zero
  src_addr := .zero
  dst_addr := .zero

namespace Skb

theorem ok_zero : Skb.zero.Ok :=
  ⟨Nat.le_refl 0, Nat.zero_le _⟩

@[simp] theorem readable_zero : Skb.zero.readable = [] := rfl

@[simp] theorem wrsz_zero : skb_wrsz Skb.zero = SKB_SIZE :=
  ok_zero.wrsz_eq

@[simp] theorem rdsz_zero : skb_rdsz Skb.zero = 0 :=
  ok_zero.rdsz_eq

/-- A buffer which holds the given bytes and nothing else. -/
def ofBytes (bytes : List UInt8) : Skb :=
  skb_put .zero bytes

variable {bytes : List UInt8}

theorem ok_ofBytes (h : bytes.length ≤ SKB_SIZE) : (ofBytes bytes).Ok :=
  ok_zero.put (by rwa [wrsz_zero])

theorem readable_ofBytes (h : bytes.length ≤ SKB_SIZE) : (ofBytes bytes).readable = bytes := by
  rw [ofBytes, ok_zero.readable_put (by rwa [wrsz_zero]), readable_zero, List.nil_append]

theorem rdsz_ofBytes (h : bytes.length ≤ SKB_SIZE) : skb_rdsz (ofBytes bytes) = bytes.length := by
  rw [← (ok_ofBytes h).length_readable_eq, readable_ofBytes h]

end Skb

end wsd

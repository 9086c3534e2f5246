import Wsd.Common.Skb

namespace wsd

namespace EpollEvents

/-- `a | b` of two event masks. -/
def union (a b : EpollEvents) : EpollEvents where
  EPOLLIN := a.EPOLLIN || b.EPOLLIN
  EPOLLPRI := a.EPOLLPRI || b.EPOLLPRI
  EPOLLOUT := a.EPOLLOUT || b.EPOLLOUT
  EPOLLERR := a.EPOLLERR || b.EPOLLERR
  EPOLLHUP := a.EPOLLHUP || b.EPOLLHUP
  EPOLLRDHUP := a.EPOLLRDHUP || b.EPOLLRDHUP

/-- `a & ~b` of two event masks. -/
def diff (a b : EpollEvents) : EpollEvents where
  EPOLLIN := a.EPOLLIN && !b.EPOLLIN
  EPOLLPRI := a.EPOLLPRI && !b.EPOLLPRI
  EPOLLOUT := a.EPOLLOUT && !b.EPOLLOUT
  EPOLLERR := a.EPOLLERR && !b.EPOLLERR
  EPOLLHUP := a.EPOLLHUP && !b.EPOLLHUP
  EPOLLRDHUP := a.EPOLLRDHUP && !b.EPOLLRDHUP

end EpollEvents

def EPOLLIN : EpollEvents := { EPOLLIN := true }

def EPOLLOUT : EpollEvents := { EPOLLOUT := true }

/-- The system call `epoll_ctl` succeeds on a registered descriptor. -/
def turn_on_events (sk : Sk) (events : EpollEvents) : Sk :=
  { sk with events := sk.events.union events }

def turn_off_events (sk : Sk) (events : EpollEvents) : Sk :=
  { sk with events := sk.events.diff events }

theorem union_epollout {events : EpollEvents} (h : events.EPOLLOUT = true) : events.union EPOLLOUT = events := by
  obtain ⟨i, p, o, e, hup, rdhup⟩ := events
  cases h
  simp [EpollEvents.union, EPOLLOUT]

/-- The handlers turn EPOLLOUT on unless it is on. -/
theorem turn_on_out (sk : Sk) :
    (if (!sk.events.EPOLLOUT) = true then turn_on_events sk EPOLLOUT else sk) =
      { sk with events := sk.events.union EPOLLOUT } := by
  cases hout : sk.events.EPOLLOUT with
  | false => rfl
  | true =>
    rw [union_epollout hout]
    rfl

/-- What `read` reports: failure, or the bytes it stored, none at end of file. -/
inductive ReadResult
  | error
  | ok (bytes : List UInt8)
  deriving DecidableEq, Repr

/-- What `write` reports: failure, or how many bytes it took. -/
inductive WriteResult
  | error
  | ok (len : Nat)
  deriving DecidableEq, Repr

def sk_read (read : ReadResult) (sk : Sk) (wsd_errno : Errno) : Except Fault (Int × Sk × Errno) := do
  assert .sk_read_fd (0 ≤ sk.fd)
  if skb_wrsz sk.recvbuf = 0 then
    return (-1, turn_off_events sk EPOLLIN, .WSD_EAGAIN)
  else
    match read with
    | .error => return (-1, sk, .WSD_CHECKERRNO)
    | .ok [] => return (-1, sk, .WSD_CHECKERRNO)
    | .ok (byte :: bytes) =>
      let recvbuf := { sk.recvbuf with
        data := sk.recvbuf.data.store sk.recvbuf.wrpos (byte :: bytes)
        wrpos := u32 (sk.recvbuf.wrpos + (byte :: bytes).length) }
      return (0, { sk with recvbuf }, wsd_errno)

def sk_write (write : WriteResult) (sk : Sk) (wsd_errno : Errno) : Int × Sk × Errno :=
  if skb_rdsz sk.sendbuf = 0 then
    (-1, turn_off_events sk EPOLLOUT, .WSD_EAGAIN)
  else
    match write with
    | .error => (-1, sk, .WSD_CHECKERRNO)
    | .ok len => (0, { sk with sendbuf := skb_compact (skb_rd_forward sk.sendbuf len) }, wsd_errno)

/-- A successful read appends what the system call delivered to the receive
    buffer and changes nothing else. -/
theorem sk_read_ok {sk : Sk} {wsd_errno : Errno} {bytes : List UInt8} (hfd : 0 ≤ sk.fd) (hne : bytes ≠ [])
    (hroom : bytes.length ≤ skb_wrsz sk.recvbuf) :
    sk_read (.ok bytes) sk wsd_errno =
      .ok (0, { sk with recvbuf := skb_put sk.recvbuf bytes }, wsd_errno) := by
  cases bytes with
  | nil => exact absurd rfl hne
  | cons byte bytes =>
    have hpos : skb_wrsz sk.recvbuf ≠ 0 := by
      simp only [List.length_cons] at hroom
      omega
    simp [sk_read, hfd, hpos, skb_put]

/-- A write hands the kernel the first readable bytes of the send buffer, and
    exactly these leave it. -/
theorem sk_write_ok {sk : Sk} {wsd_errno : Errno} {len : Nat} (hok : sk.sendbuf.Ok)
    (hne : skb_rdsz sk.sendbuf ≠ 0) (hlen : len ≤ skb_rdsz sk.sendbuf) :
    ∃ sendbuf, sk_write (.ok len) sk wsd_errno = (0, { sk with sendbuf }, wsd_errno) ∧
      sendbuf.Ok ∧ sendbuf.readable = sk.sendbuf.readable.drop len := by
  have hget := hok.get hlen
  refine ⟨skb_compact (skb_get sk.sendbuf len).2, ?_, hget.compact, ?_⟩
  · simp only [sk_write, if_neg hne]
    rfl
  · rw [hget.readable_compact, hok.readable_get hlen]

end wsd

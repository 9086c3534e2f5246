import Mathlib.Algebra.Group.Int.Defs
import Wsd.Types

namespace wsd

/-- Whether more than `timeout` milliseconds lie between two readings of the
    clock. The difference is an `unsigned long`, and the comparison converts
    the `int` to one as well. -/
def has_timed_out (instant now : Timespec) (timeout : Int) : Bool :=
  let tv_sec_diff := now.tv_sec - instant.tv_sec
  let tv_nsec_diff := now.tv_nsec - instant.tv_nsec
  let diff_in_millis := (tv_sec_diff * 1000) % 2 ^ 64
  let diff_in_millis := (diff_in_millis + tv_nsec_diff.tdiv 1000000) % 2 ^ 64
  decide (timeout % 2 ^ 64 < diff_in_millis)

def check_timeout (sk : Sk) (now : Timespec) (timeout : Int) : Bool :=
  if timeout = -1 then
    false
  else if sk.closing || sk.close || sk.close_on_write then
    false
  else if sk.ts_last_io.tv_sec = 0 ∧ sk.ts_last_io.tv_nsec = 0 then
    false
  else
    has_timed_out sk.ts_last_io now timeout

def check_closing_handshake_timeout (sk : Sk) (now : Timespec) (timeout : Int) : Except Fault Bool := do
  assert .check_closing_handshake_timeout_timeout (0 < timeout)
  if sk.closing then
    return has_timed_out sk.ts_closing_handshake_start now timeout
  else
    return false

/-- A socket whose closing has begun is exempt from idle timeouts and pings. -/
theorem check_timeout_flags {sk : Sk} {now : Timespec} {timeout : Int}
    (h : check_timeout sk now timeout = true) :
    sk.closing = false ∧ sk.close = false ∧ sk.close_on_write = false := by
  unfold check_timeout at h
  split at h
  · cases h
  · split at h
    · cases h
    · rename_i hflags
      simpa [and_assoc] using hflags

end wsd

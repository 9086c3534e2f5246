import Wsd.Wschild.Invariant

namespace wsd

section Leave

variable {frames : Nat} {c : Conn}

/-- A socket which is closed after its last write waits for the next one when
    `ws_recv` returns. -/
theorem ws_recv_leave_out (h : c.sk.events.EPOLLOUT = true ∨ c.sk.close_on_write = true) :
    (ws_recv_leave frames c).sk.events.EPOLLOUT = true := by
  simp only [ws_recv_leave, ite_turn_on, ite_turn_off, EpollEvents.union, EpollEvents.diff, EPOLLIN, EPOLLOUT]
  cases hflag : c.sk.close_on_write with
  | true => split_ifs <;> simp_all
  | false =>
    have hout : c.sk.events.EPOLLOUT = true := by simpa [hflag] using h
    split_ifs <;> simp_all

/-- A socket whose closing has been decided is not read when `ws_recv` returns. -/
theorem ws_recv_leave_in (h : c.sk.close = true ∨ c.sk.close_on_write = true) :
    (ws_recv_leave frames c).sk.events.EPOLLIN = false := by
  simp only [ws_recv_leave, ite_turn_on, ite_turn_off, EpollEvents.union, EpollEvents.diff, EPOLLIN, EPOLLOUT]
  split_ifs <;> simp_all

theorem encodeEvents_out (events pp2events : EpollEvents) : (encodeEvents events pp2events).EPOLLOUT = true := by
  simp only [encodeEvents, EpollEvents.union, EPOLLIN, EPOLLOUT]
  split_ifs <;> simp_all

end Leave

end wsd

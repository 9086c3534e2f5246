import Wsd.Wscat.Ping

namespace wsd

open Transition

/-- In both programs more than the ping interval passes between two ping frames which are put into the
    send buffer of one socket, if the socket has had input or output in between. Nothing else starts the timer. -/
theorem pings_spaced (cfg : Config) (ssl : Openssl) (opt : Options) (hcfg : cfg.ping_interval < 2 ^ 31)
    (hopt : opt.ping_interval < 2 ^ 31) :
    (∀ (path : List (Move State Env)) (s : State), (daemon cfg ssl).Path (fun _ _ => True) path s →
      ∀ (id i k j : Nat) (m m1 m' : Move State Env), i < k → k < j →
        path[i]? = some m → path[k]? = some m1 → path[j]? = some m' →
        Pings id m → HandlesIo id m1 → Pings id m' →
        cfg.ping_interval * 1000000 < m'.after.now.nanos - m.after.now.nanos) ∧
    (∀ (fd : Int) (request : List UInt8) (broken : Bool) (path : List (Move wscat.State wscat.Env)) (s : wscat.State),
      (wscat.program opt fd request broken).Path (fun _ _ => True) path s →
      ∀ (i k j : Nat) (m m1 m' : Move wscat.State wscat.Env), i < k → k < j →
        path[i]? = some m → path[k]? = some m1 → path[j]? = some m' →
        wscat.Pings opt m → wscat.HandlesIo m1 → wscat.Pings opt m' →
        opt.ping_interval * 1000000 < m'.after.now.nanos - m.after.now.nanos) := by
  constructor
  · intro path s hpath id i k j m m1 m' hik hkj hi hk hj _ hio hping
    exact (ping_timer cfg ssl _ id hcfg).spaced hpath hi hk hj hik hkj hio hping
  · intro fd request broken path s hpath i k j m m1 m' hik hkj hi hk hj _ hio hping
    exact (wscat.ping_timer opt fd request broken _ hopt).spaced hpath hi hk hj hik hkj hio hping

namespace Sample

/-- A configuration in which clients are pinged after a second. -/
def pinging : Config :=
  { config with idle_timeout := -1, ping_interval := 1000 }

/-- A client is pinged in the eleventh second, and again after the given inputs and the start of an iteration. -/
def pinged (inputs : List Env) (second : Int) : List Env :=
  connected request ++ { clock := { tv_sec := 11, tv_nsec := 0 } } :: List.replicate 4 ({} : Env) ++ inputs ++
    { clock := { tv_sec := second, tv_nsec := 0 } } :: List.replicate 2 ({} : Env)

/-- The ping is written. -/
def writing : List Env :=
  [{ events := some [(some 0, EPOLLOUT)] }, { write := .ok 184 }, {}]

/-- The websocket is written at the given second, after which an iteration starts. -/
def written (second : Int) (len : Nat) : List wscat.Env :=
  [{ clock := { tv_sec := second, tv_nsec := 0 } }, { events := some [(.wssk, EPOLLOUT)] }, { write := .ok len }, {}]

theorem exists_pinged_twice : ∃ path s, (daemon pinging openssl).Path (fun _ _ => True) path s ∧
    ∃ m m1 m', path[16]? = some m ∧ path[19]? = some m1 ∧ path[23]? = some m' ∧ Pings 0 m ∧ HandlesIo 0 m1 ∧
      Pings 0 m' := by
  obtain ⟨path, s, hpath, ⟨m, hm, hdue⟩, ⟨m1, hm1, hpc⟩, m', hm', hdue'⟩ :=
    @System.exists_path _ _ _ (fun _ _ => True) (daemon pinging openssl) _ _
      (fun path _ => (∃ m ∈ path[16]?, PingDue pinging 0 m.before) ∧
        (∃ m ∈ path[19]?, m.before.pc = .on_event [(some 0, EPOLLOUT)]) ∧
        ∃ m ∈ path[23]?, PingDue pinging 0 m.before) _ (pinged writing 13) (by decide +kernel)
  have hstep := (hpath.move m (List.mem_of_getElem? hm)).2.2.2
  have hstep' := (hpath.move m' (List.mem_of_getElem? hm')).2.2.2
  exact ⟨path, s, hpath, m, m1, m', hm, hm1, hm', hdue.pings hstep, ⟨_, _, hpc, .inr (.inr rfl)⟩, hdue'.pings hstep'⟩

/-- The websocket which has just been opened, with a ping interval of a second. -/
def opened : Transition.System wscat.State wscat.Env Fault :=
  wscat.program (options false false (-1) 1 (-1)) 3 [] false

theorem exists_wssk_pinged_twice : ∃ path s, opened.Path (fun _ _ => True) path s ∧
    ∃ m m1 m', path[4]? = some m ∧ path[6]? = some m1 ∧ path[8]? = some m' ∧
      wscat.Pings (options false false (-1) 1 (-1)) m ∧ wscat.HandlesIo m1 ∧
      wscat.Pings (options false false (-1) 1 (-1)) m' := by
  obtain ⟨path, s, hpath, ⟨m, hm, hdue⟩, ⟨m1, hm1, hpc⟩, m', hm', hdue'⟩ :=
    @System.exists_path _ _ _ (fun _ _ => True) (wscat.program (options false false (-1) 1 (-1)) 3 [] false) _ _
      (fun path _ =>
        (∃ m ∈ path[4]?, wscat.PingDue (options false false (-1) 1 (-1)) m.input.clock m.before) ∧
        (∃ m ∈ path[6]?, m.before.pc = .on_event [(.wssk, EPOLLOUT)]) ∧
        ∃ m ∈ path[8]?, wscat.PingDue (options false false (-1) 1 (-1)) m.input.clock m.before) _
      (written 9 0 ++ written 11 6 ++ [{ clock := { tv_sec := 13, tv_nsec := 0 } }]) (by decide +kernel)
  exact ⟨path, s, hpath, m, m1, m', hm, hm1, hm', hdue.pings, ⟨_, _, hpc, .inr rfl⟩, hdue'.pings⟩

end Sample

/-- A client and the websocket are pinged twice, and written in between. -/
theorem pings_spaced_sample :
    (∃ path s, (daemon Sample.pinging Sample.openssl).Path (fun _ _ => True) path s ∧
      ∃ m m', path[16]? = some m ∧ path[23]? = some m' ∧ Pings 0 m ∧ Pings 0 m' ∧
        1000 * 1000000 < m'.after.now.nanos - m.after.now.nanos) ∧
    ∃ path s, Sample.opened.Path (fun _ _ => True) path s ∧
      ∃ m m', path[4]? = some m ∧ path[8]? = some m' ∧ wscat.Pings (options false false (-1) 1 (-1)) m ∧
        wscat.Pings (options false false (-1) 1 (-1)) m' ∧
        1000 * 1000000 < m'.after.now.nanos - m.after.now.nanos := by
  obtain ⟨hclients, hwssk⟩ := pings_spaced Sample.pinging Sample.openssl (options false false (-1) 1 (-1)) (by decide)
    (by decide)
  constructor
  · obtain ⟨path, s, hpath, m, m1, m', hm, hm1, hm', hping, hio, hping'⟩ := Sample.exists_pinged_twice
    exact ⟨path, s, hpath, m, m', hm, hm', hping, hping',
      hclients path s hpath 0 16 19 23 m m1 m' (by decide) (by decide) hm hm1 hm' hping hio hping'⟩
  · obtain ⟨path, s, hpath, m, m1, m', hm, hm1, hm', hping, hio, hping'⟩ := Sample.exists_wssk_pinged_twice
    exact ⟨path, s, hpath, m, m', hm, hm', hping, hping',
      hwssk 3 [] false path s hpath 4 6 8 m m1 m' (by decide) (by decide) hm hm1 hm' hping hio hping'⟩

/-- A client which is not written is pinged again at once, as soon as a signal wakes the loop. -/
theorem ping_repeated_at_once :
    ∃ path s, (daemon Sample.pinging Sample.openssl).Path (fun _ _ => True) path s ∧
      ∃ m m', path[16]? = some m ∧ path[21]? = some m' ∧ Pings 0 m ∧ Pings 0 m' ∧
        ¬ 1000 * 1000000 < m'.after.now.nanos - m.after.now.nanos := by
  obtain ⟨path, s, hpath, ⟨m, hm, hdue, hnow⟩, m', hm', hdue', hnow'⟩ :=
    @System.exists_path _ _ _ (fun _ _ => True) (daemon Sample.pinging Sample.openssl) _ _
      (fun path _ =>
        (∃ m ∈ path[16]?, PingDue Sample.pinging 0 m.before ∧ m.after.now.nanos = 11000000000) ∧
        ∃ m ∈ path[21]?, PingDue Sample.pinging 0 m.before ∧ m.after.now.nanos = 11000000000) _
      (Sample.pinged [{ events := none }] 11) (by decide +kernel)
  have hstep := (hpath.move m (List.mem_of_getElem? hm)).2.2.2
  have hstep' := (hpath.move m' (List.mem_of_getElem? hm')).2.2.2
  refine ⟨path, s, hpath, m, m', hm, hm', hdue.pings hstep, hdue'.pings hstep', ?_⟩
  rw [hnow, hnow']
  decide

end wsd

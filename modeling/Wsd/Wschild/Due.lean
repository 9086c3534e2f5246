import Wsd.Wschild.Ping

namespace wsd

/-- The value of a signed operation, which is undefined behind the range of `long`. -/
def long (n : Int) : Option Int :=
  if -9223372036854775808 ≤ n ∧ n ≤ 9223372036854775807 then some n else none

/-- `has_timed_out` as far as its signed operations are defined. -/
def has_timed_out_defined (instant now : Timespec) (timeout : Int) : Option Bool := do
  let tv_sec_diff ← long (now.tv_sec - instant.tv_sec)
  let tv_nsec_diff ← long (now.tv_nsec - instant.tv_nsec)
  let diff_in_millis ← long (tv_sec_diff * 1000)
  let diff_in_millis := diff_in_millis % 2 ^ 64
  let diff_in_millis := (diff_in_millis + tv_nsec_diff.tdiv 1000000) % 2 ^ 64
  return decide (timeout % 2 ^ 64 < diff_in_millis)

/-- The nanoseconds of a time are less than a second. -/
structure Timespec.WithinSecond (t : Timespec) : Prop where
  nonneg : 0 ≤ t.tv_nsec
  lt : t.tv_nsec < 1000000000

/-- The number of whole milliseconds between two times. -/
def elapsedMillis (instant now : Timespec) : Int :=
  (now.nanos - instant.nanos) / 1000000

/-- The call returns whether more whole milliseconds have elapsed than the timeout, which a
    negative value disables. -/
def FiresWhenDue (instant now : Timespec) (timeout : Int) : Prop :=
  has_timed_out_defined instant now timeout = some (decide (0 ≤ timeout ∧ timeout < elapsedMillis instant now))

/-- The milliseconds of the difference in seconds are a `long`. -/
def SecondsFit (instant now : Timespec) : Prop :=
  now.tv_sec - instant.tv_sec ≤ 9223372036854775

/-- The difference in nanoseconds is negative and no whole number of milliseconds, so that the
    division towards zero rounds it up. -/
def RoundedUp (instant now : Timespec) : Prop :=
  now.tv_nsec < instant.tv_nsec ∧ ¬ 1000000 ∣ now.tv_nsec - instant.tv_nsec

instance (instant now : Timespec) : Decidable (RoundedUp instant now) :=
  inferInstanceAs (Decidable (_ ∧ _))

/-- The milliseconds which the code counts. -/
def countedMillis (instant now : Timespec) : Int :=
  elapsedMillis instant now + if RoundedUp instant now then 1 else 0

section Due

variable {instant now now' : Timespec} {timeout : Int}

theorem long_of_le {n : Int} (hlow : -9223372036854775808 ≤ n) (hhigh : n ≤ 9223372036854775807) : long n = some n :=
  if_pos ⟨hlow, hhigh⟩

theorem long_eq_some {n m : Int} (h : long n = some m) : m = n ∧ n ≤ 9223372036854775807 := by
  unfold long at h
  split at h
  · rename_i hfit
    cases h
    exact ⟨rfl, hfit.2⟩
  · cases h

/-- Seconds and nanoseconds which are subtracted, divided and added apart. -/
theorem countedMillis_eq (instant now : Timespec) :
    countedMillis instant now =
      (now.tv_sec - instant.tv_sec) * 1000 + (now.tv_nsec - instant.tv_nsec).tdiv 1000000 := by
  have helapsed : elapsedMillis instant now =
      (now.tv_sec - instant.tv_sec) * 1000 + (now.tv_nsec - instant.tv_nsec) / 1000000 := by
    unfold elapsedMillis Timespec.nanos
    omega
  have hround : (now.tv_nsec - instant.tv_nsec).tdiv 1000000 =
      (now.tv_nsec - instant.tv_nsec) / 1000000 + if RoundedUp instant now then 1 else 0 := by
    rw [Int.tdiv_eq_ediv]
    by_cases hup : RoundedUp instant now
    · rw [if_pos hup, if_neg (by unfold RoundedUp at hup; omega)]
      rfl
    · rw [if_neg hup, if_pos (by unfold RoundedUp at hup; omega)]
  unfold countedMillis
  rw [helapsed, hround, Int.add_assoc]

/-- The seconds do not decrease between two times in order. -/
theorem tv_sec_le (hinstant : instant.WithinSecond) (hnow : now.WithinSecond) (hle : instant.nanos ≤ now.nanos) :
    instant.tv_sec ≤ now.tv_sec := by
  have hlow := hinstant.nonneg
  have hhigh := hnow.lt
  unfold Timespec.nanos at hle
  omega

theorem countedMillis_nonneg (hle : instant.nanos ≤ now.nanos) : 0 ≤ countedMillis instant now := by
  have helapsed : 0 ≤ elapsedMillis instant now := Int.ediv_nonneg (by omega) (by decide)
  unfold countedMillis
  split <;> omega

/-- What the code counts is at most a second off the difference in seconds. -/
theorem countedMillis_le (hinstant : instant.WithinSecond) (hnow : now.WithinSecond) (hfit : SecondsFit instant now) :
    countedMillis instant now ≤ 9223372036854776000 := by
  have hlow := hinstant.nonneg
  have hhigh := hnow.lt
  have hround := tdiv_million (now.tv_nsec - instant.tv_nsec)
  rw [countedMillis_eq]
  unfold SecondsFit at hfit
  omega

/-- The comparison between unsigned values is the one between the numbers, except that a
    negative timeout is out of reach. -/
theorem has_timed_out_eq (hinstant : instant.WithinSecond) (hnow : now.WithinSecond) (hle : instant.nanos ≤ now.nanos)
    (hfit : SecondsFit instant now) (hlow : -2147483648 ≤ timeout) (hhigh : timeout < 2147483648) :
    has_timed_out instant now timeout = decide (0 ≤ timeout ∧ timeout < countedMillis instant now) := by
  have hnonneg := countedMillis_nonneg hle
  have hlt := countedMillis_le hinstant hnow hfit
  unfold has_timed_out
  simp only [Int.emod_add_emod, ← countedMillis_eq]
  rw [decide_eq_decide]
  omega

theorem has_timed_out_defined_iff {fires : Bool} (hinstant : instant.WithinSecond) (hnow : now.WithinSecond)
    (hle : instant.nanos ≤ now.nanos) :
    has_timed_out_defined instant now timeout = some fires ↔
      SecondsFit instant now ∧ has_timed_out instant now timeout = fires := by
  have hsec := tv_sec_le hinstant hnow hle
  have hnsec : long (now.tv_nsec - instant.tv_nsec) = some (now.tv_nsec - instant.tv_nsec) := by
    obtain ⟨hlow, hhigh⟩ := hinstant
    obtain ⟨hlow', hhigh'⟩ := hnow
    exact long_of_le (by omega) (by omega)
  unfold has_timed_out_defined SecondsFit
  by_cases hfit : now.tv_sec - instant.tv_sec ≤ 9223372036854775
  · rw [long_of_le (by omega) (by omega), hnsec]
    simp only [Option.bind_eq_bind, Option.bind_some]
    rw [long_of_le (by omega) (by omega)]
    simp only [Option.bind_some, Option.pure_def, Option.some.injEq, hfit, true_and]
    rfl
  · apply iff_of_false _ (fun h => hfit h.1)
    intro h
    obtain ⟨sec, hsec', h⟩ := Option.bind_eq_some_iff.mp h
    obtain ⟨nsec, -, h⟩ := Option.bind_eq_some_iff.mp h
    obtain ⟨millis, hmillis, -⟩ := Option.bind_eq_some_iff.mp h
    obtain ⟨rfl, -⟩ := long_eq_some hsec'
    obtain ⟨-, hbound⟩ := long_eq_some hmillis
    omega

/-- Later times are not counted for less. -/
theorem countedMillis_mono (hinstant : instant.WithinSecond) (hnow : now.WithinSecond) (hnow' : now'.WithinSecond)
    (hle : now.nanos ≤ now'.nanos) : countedMillis instant now ≤ countedMillis instant now' := by
  have hsec := tv_sec_le hnow hnow' hle
  obtain ⟨hlow, hhigh⟩ := hinstant
  obtain ⟨hlow', hhigh'⟩ := hnow
  obtain ⟨hlow'', hhigh''⟩ := hnow'
  have hround (n : Int) : n.tdiv 1000000 = if 0 ≤ n then n / 1000000 else -(-n / 1000000) := by
    split
    · exact Int.tdiv_eq_ediv_of_nonneg (by assumption)
    · rw [← Int.tdiv_eq_ediv_of_nonneg (by omega), Int.neg_tdiv, Int.neg_neg]
  rw [countedMillis_eq, countedMillis_eq, hround, hround]
  unfold Timespec.nanos at hle
  split <;> split <;> omega

theorem firesWhenDue_iff (hinstant : instant.WithinSecond) (hnow : now.WithinSecond) (hle : instant.nanos ≤ now.nanos)
    (hlow : -2147483648 ≤ timeout) (hhigh : timeout < 2147483648) :
    FiresWhenDue instant now timeout ↔
      SecondsFit instant now ∧ ¬ (timeout = elapsedMillis instant now ∧ RoundedUp instant now) := by
  unfold FiresWhenDue
  rw [has_timed_out_defined_iff hinstant hnow hle]
  apply and_congr_right
  intro hfit
  have hnonneg : 0 ≤ elapsedMillis instant now := Int.ediv_nonneg (by omega) (by decide)
  rw [has_timed_out_eq hinstant hnow hle hfit hlow hhigh, decide_eq_decide]
  unfold countedMillis
  by_cases hup : RoundedUp instant now
  · rw [if_pos hup, and_iff_left hup]
    omega
  · rw [if_neg hup, Int.add_zero]
    exact iff_of_true Iff.rfl fun h => hup h.2

end Due

/-- A timeout fires exactly when it is due, unless the time which has elapsed is the timeout and a fraction
    of a millisecond, found by borrowing from the seconds. A disabled timeout does not fire, and one
    which has fired fires at every later time. -/
theorem has_timed_out_due_iff {instant now : Timespec} {timeout : Int} (hinstant : instant.WithinSecond)
    (hnow : now.WithinSecond) (hle : instant.nanos ≤ now.nanos) (hlow : -2147483648 ≤ timeout)
    (hhigh : timeout < 2147483648) :
    (FiresWhenDue instant now timeout ↔
      SecondsFit instant now ∧ ¬ (timeout = elapsedMillis instant now ∧ RoundedUp instant now)) ∧
    (timeout < 0 → has_timed_out_defined instant now timeout ≠ some true ∧
      (SecondsFit instant now → has_timed_out instant now timeout = false)) ∧
    ∀ now' : Timespec, now'.WithinSecond → now.nanos ≤ now'.nanos → SecondsFit instant now' →
      has_timed_out instant now timeout = true → has_timed_out instant now' timeout = true := by
  refine ⟨firesWhenDue_iff hinstant hnow hle hlow hhigh, fun hneg => ?_, ?_⟩
  · have hsilent (hfit : SecondsFit instant now) : has_timed_out instant now timeout = false := by
      rw [has_timed_out_eq hinstant hnow hle hfit hlow hhigh, decide_eq_false_iff_not]
      omega
    refine ⟨fun hfires => ?_, hsilent⟩
    obtain ⟨hfit, hfires⟩ := (has_timed_out_defined_iff hinstant hnow hle).mp hfires
    rw [hsilent hfit] at hfires
    cases hfires
  · intro now' hnow' hle' hfit' hfires
    have hfit : SecondsFit instant now := by
      have hsec := tv_sec_le hnow hnow' hle'
      unfold SecondsFit at hfit' ⊢
      omega
    have hmono := countedMillis_mono hinstant hnow hnow' hle'
    rw [has_timed_out_eq hinstant hnow hle hfit hlow hhigh, decide_eq_true_eq] at hfires
    rw [has_timed_out_eq hinstant hnow' (Int.le_trans hle hle') hfit' hlow hhigh, decide_eq_true_eq]
    omega

namespace Sample

/-- The last nanosecond of second 10. -/
def beforeSecond : Timespec := { tv_sec := 10, tv_nsec := 999999999 }

theorem beforeSecond_within : beforeSecond.WithinSecond := ⟨by decide, by decide⟩

theorem second_within (tv_sec : Int) : Timespec.WithinSecond { tv_sec, tv_nsec := 0 } :=
  ⟨Int.le_refl _, show (0 : Int) < 1000000000 by decide⟩

end Sample

/-- The ping interval of a daemon which does not ping, and one of a second which is due behind the boundary
    of a second, and fires a second later still. -/
theorem has_timed_out_due_disabled :
    FiresWhenDue Sample.beforeSecond { tv_sec := 12, tv_nsec := 0 } (-1 * 1000) ∧
      has_timed_out_defined Sample.beforeSecond { tv_sec := 12, tv_nsec := 0 } (-1 * 1000) ≠ some true ∧
      FiresWhenDue Sample.beforeSecond { tv_sec := 13, tv_nsec := 0 } (1 * 1000) ∧
      has_timed_out Sample.beforeSecond { tv_sec := 14, tv_nsec := 0 } (1 * 1000) = true := by
  obtain ⟨hfires, hdisabled, -⟩ := @has_timed_out_due_iff Sample.beforeSecond { tv_sec := 12, tv_nsec := 0 } (-1 * 1000)
    Sample.beforeSecond_within (Sample.second_within 12) (by decide) (by decide) (by decide)
  obtain ⟨hdue, -, hlater⟩ := @has_timed_out_due_iff Sample.beforeSecond { tv_sec := 13, tv_nsec := 0 } (1 * 1000)
    Sample.beforeSecond_within (Sample.second_within 13) (by decide) (by decide) (by decide)
  refine ⟨hfires.mpr ⟨by unfold SecondsFit; decide, fun h => absurd h.1 (by decide)⟩, (hdisabled (by decide)).1,
    hdue.mpr ⟨by unfold SecondsFit; decide, fun h => absurd h.1 (by decide)⟩,
    hlater { tv_sec := 14, tv_nsec := 0 } (Sample.second_within 14) (by decide) (by unfold SecondsFit; decide) (by decide)⟩

/-- A timeout of one second fires one nanosecond after the second, before a millisecond more has passed. -/
theorem timeout_fires_early :
    ¬ ∀ (instant now : Timespec) (timeout : Int), instant.WithinSecond → now.WithinSecond →
      instant.nanos ≤ now.nanos → -2147483648 ≤ timeout → timeout < 2147483648 → FiresWhenDue instant now timeout := by
  intro h
  have hfires := h Sample.beforeSecond { tv_sec := 12, tv_nsec := 0 } 1000 Sample.beforeSecond_within
    (Sample.second_within 12) (by decide) (by decide) (by decide)
  obtain ⟨-, hnot⟩ := (firesWhenDue_iff Sample.beforeSecond_within (Sample.second_within 12) (by decide) (by decide)
    (by decide)).mp hfires
  exact hnot ⟨by decide, by decide⟩

end wsd

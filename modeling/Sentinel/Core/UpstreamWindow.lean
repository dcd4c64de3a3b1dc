/-
# Upstream windows measure what occurred

The true counters of an upstream grow within a UTC hour and restart at its
boundary. A sample lists them at an instant its run does not reveal, between a
start and a completion truncated to seconds. A window between two samples is
then taken within one hour, and its totals are what occurred between the two
read instants.

Truncation is toward zero, so before 1970 it moves an instant into a later
hour: `window_spans_hours_before_epoch`.

Key theorems: `hourOf_eq_of_statisticsUnit`, `upstreamWindow_exact`.
-/
import Sentinel.Core.Window
import Sentinel.Lib.Fallible
import Mathlib.Tactic.Linarith

namespace Sentinel

/-- The UTC hour an instant (in nanoseconds) lies in. -/
def hourOf (instant : ℤ) : ℤ := instant / (statisticsUnitSeconds * nanosecondsPerSecond)

/-- A cumulative counter by instant: it grows within each UTC hour and is zero
at each hour's start. -/
structure HourlyCounter where
  value : ℤ → ℕ
  nondecreasing : ∀ a b, a ≤ b → hourOf a = hourOf b → value a ≤ value b
  restarts : ∀ hour : ℤ, value (hour * (statisticsUnitSeconds * nanosecondsPerSecond)) = 0

/-- What the counter counted between two instants of one hour. -/
def HourlyCounter.between (counter : HourlyCounter) (a b : Timestamp) : ℕ :=
  counter.value b.nanoseconds - counter.value a.nanoseconds

/-- The true counters of every upstream of a target. -/
structure TrueCounters where
  responses : String → HourlyCounter
  microseconds : String → HourlyCounter

/-- A sample of a run from `start` to `completion` that lists the true counters
at the instant `read`. -/
structure ReadsAt (truth : TrueCounters) (sample : UpstreamSample) (start read completion : Timestamp) :
    Prop where
  observationStarted : sample.observationStarted = start.asSecond
  timestamp : sample.timestamp = completion.asSecond
  after : start ≤ read
  before : read ≤ completion
  responses : ∀ identity, (sample.find identity).responses.toNat =
    (truth.responses identity).value read.nanoseconds
  microseconds : ∀ identity, (sample.find identity).totalMicroseconds.toNat =
    (truth.microseconds identity).value read.nanoseconds

/-! ### Within one hour -/

theorem statisticsUnit_eq_some_iff {sample : UpstreamSample} {unit : ℤ} :
    statisticsUnit sample = some unit ↔
      sample.observationStarted / statisticsUnitSeconds = unit ∧
      sample.timestamp / statisticsUnitSeconds = unit := by
  unfold statisticsUnit
  simp only
  split
  case isTrue h =>
    rw [Option.some.injEq, h]
    exact ⟨fun hu => ⟨hu, hu⟩, And.left⟩
  case isFalse h =>
    simp only [reduceCtorEq, false_iff, not_and]
    exact fun h1 h2 => h (h1.trans h2.symm)

/-- From 1970 on, truncation to seconds stays in the hour. -/
theorem hourOf_eq_of_nonneg {t : Timestamp} (h : 0 ≤ t.nanoseconds) :
    hourOf t.nanoseconds = t.asSecond / statisticsUnitSeconds := by
  unfold hourOf Timestamp.asSecond
  rw [Int.tdiv_eq_ediv_of_nonneg h, Int.ediv_ediv_of_nonneg (by decide), mul_comm]

theorem hourOf_mono {a b : Timestamp} (h : a ≤ b) : hourOf a.nanoseconds ≤ hourOf b.nanoseconds :=
  Int.ediv_le_ediv (by decide) h

/-- The unit of a sample is the hour its counters were read in. -/
theorem hourOf_eq_of_statisticsUnit {truth : TrueCounters} {sample : UpstreamSample}
    {start read completion : Timestamp} (h : ReadsAt truth sample start read completion)
    (hstart : 0 ≤ start.nanoseconds) {unit : ℤ} (hunit : statisticsUnit sample = some unit) :
    hourOf read.nanoseconds = unit := by
  obtain ⟨hs, hc⟩ := statisticsUnit_eq_some_iff.mp hunit
  have hcompletion := calc 0 ≤ start.nanoseconds := hstart
    _ ≤ read.nanoseconds := h.after
    _ ≤ completion.nanoseconds := h.before
  rw [h.observationStarted, ← hourOf_eq_of_nonneg hstart] at hs
  rw [h.timestamp, ← hourOf_eq_of_nonneg hcompletion] at hc
  have h1 := hourOf_mono h.after
  have h2 := hourOf_mono h.before
  omega

/-! ### The totals -/

theorem find_eq_zero_of_notMem {sample : UpstreamSample} {identity : String}
    (h : identity ∉ sample.upstreams.map (·.identity)) : sample.find identity = {} := by
  unfold UpstreamSample.find
  rw [List.find?_eq_none.mpr]
  intro counter hc
  simp only [decide_eq_true_eq]
  exact fun he => h (List.mem_map.mpr ⟨counter, hc, he⟩)

/-- What a window says: its readings share a statistics unit, and each listed
total is the difference of two counters. -/
theorem upstreamWindow_spec {previous current : UpstreamSample} {elapsed : ℤ}
    {totals : List (String × UpstreamTotals)} (h : upstreamWindow previous current = some (elapsed, totals)) :
    elapsed = current.timestamp - previous.timestamp ∧ 0 < elapsed ∧
    (∃ unit, statisticsUnit previous = some unit ∧ statisticsUnit current = some unit) ∧
    totals.map Prod.fst = windowIdentities previous current ∧
    ∀ e ∈ totals,
      (previous.find e.1).responses.toNat + e.2.responses.toNat = (current.find e.1).responses.toNat ∧
      (previous.find e.1).totalMicroseconds.toNat + e.2.totalMicroseconds.toNat =
        (current.find e.1).totalMicroseconds.toNat := by
  unfold upstreamWindow at h
  simp only at h
  split at h
  · cases h
  rename_i hgap
  simp only [Option.bind_eq_bind, Option.bind_eq_some_iff] at h
  obtain ⟨unit, hunit, unit', hunit', h⟩ := h
  split at h
  · cases h
  rename_i hne
  rw [not_not] at hne
  rw [Option.bind_eq_some_iff] at h
  obtain ⟨totals', htotals, h⟩ := h
  obtain ⟨rfl, rfl⟩ := Prod.mk.inj (Option.some.inj h)
  have hall := Fallible.mapM_eq_some_iff.mp htotals
  have hitem : ∀ identity e, (checkedSub (current.find identity).responses (previous.find identity).responses).bind
      (fun responses => (checkedSub (current.find identity).totalMicroseconds
        (previous.find identity).totalMicroseconds).bind fun totalMicroseconds =>
          some (identity, ({ responses, totalMicroseconds } : UpstreamTotals))) = some e →
      identity = e.1 ∧
      (previous.find e.1).responses.toNat + e.2.responses.toNat = (current.find e.1).responses.toNat ∧
      (previous.find e.1).totalMicroseconds.toNat + e.2.totalMicroseconds.toNat =
        (current.find e.1).totalMicroseconds.toNat := by
    intro identity e he
    obtain ⟨responses, h1, he⟩ := Option.bind_eq_some_iff.mp he
    obtain ⟨micros, h2, he⟩ := Option.bind_eq_some_iff.mp he
    obtain rfl := Option.some.inj he
    exact ⟨rfl, checkedSub_eq_some.mp h1, checkedSub_eq_some.mp h2⟩
  refine ⟨rfl, ?_, ⟨unit, hunit, hne ▸ hunit'⟩, ?_, fun e he => ?_⟩
  · simp only [not_or, not_le] at hgap
    exact hgap.1
  · have := Fallible.map_eq_map_of_forall₂ (f := id) (hall.imp fun identity e he => (hitem identity e he).1)
    rw [← this, List.map_id]
  · obtain ⟨identity, -, he⟩ := Fallible.exists_of_forall₂_right hall e he
    exact (hitem identity e he).2

/-- **A window measures what occurred.** For two runs that do not overlap and
do not start before 1970, a window's readings were taken in one UTC hour, and
its totals are the responses and durations that occurred between them; what
it does not list did not occur. -/
theorem upstreamWindow_exact {truth : TrueCounters} {previous current : UpstreamSample}
    {start₁ read₁ completion₁ start₂ read₂ completion₂ : Timestamp}
    (h₁ : ReadsAt truth previous start₁ read₁ completion₁)
    (h₂ : ReadsAt truth current start₂ read₂ completion₂)
    (hruns : completion₁ ≤ start₂) (hepoch : 0 ≤ start₁.nanoseconds) {elapsed : ℤ}
    {totals : List (String × UpstreamTotals)} (h : upstreamWindow previous current = some (elapsed, totals)) :
    hourOf read₁.nanoseconds = hourOf read₂.nanoseconds ∧
    (∀ e ∈ totals,
      e.2.responses.toNat = (truth.responses e.1).between read₁ read₂ ∧
      e.2.totalMicroseconds.toNat = (truth.microseconds e.1).between read₁ read₂) ∧
    ∀ identity ∉ totals.map Prod.fst,
      (truth.responses identity).between read₁ read₂ = 0 ∧
      (truth.microseconds identity).between read₁ read₂ = 0 := by
  obtain ⟨-, -, ⟨unit, hunit₁, hunit₂⟩, hlisted, htotals⟩ := upstreamWindow_spec h
  have hepoch₂ := calc 0 ≤ start₁.nanoseconds := hepoch
    _ ≤ read₁.nanoseconds := h₁.after
    _ ≤ completion₁.nanoseconds := h₁.before
    _ ≤ start₂.nanoseconds := hruns
  refine ⟨?_, fun e he => ?_, fun identity hidentity => ?_⟩
  · rw [hourOf_eq_of_statisticsUnit h₁ hepoch hunit₁, hourOf_eq_of_statisticsUnit h₂ hepoch₂ hunit₂]
  · obtain ⟨hr, hm⟩ := htotals e he
    rw [h₁.responses, h₂.responses] at hr
    rw [h₁.microseconds, h₂.microseconds] at hm
    unfold HourlyCounter.between
    omega
  · -- an identity neither reading lists has counted nothing yet
    rw [hlisted, windowIdentities, mem_distinct, List.map_append, List.mem_append, not_or] at hidentity
    have hr := h₂.responses identity
    have hm := h₂.microseconds identity
    rw [find_eq_zero_of_notMem hidentity.2] at hr hm
    simp only [HourlyCounter.between, ← hr, ← hm]
    simp

/-! ### Two runs of one resolver -/

/-- One response a second since 1970, counted by the hour. -/
def ticking : HourlyCounter where
  value t := if 0 ≤ t then (t % (statisticsUnitSeconds * nanosecondsPerSecond) / nanosecondsPerSecond).toNat else 0
  nondecreasing a b hab hhour := by
    unfold hourOf at hhour
    have ha := Int.emod_add_mul_ediv a (statisticsUnitSeconds * nanosecondsPerSecond)
    have hb := Int.emod_add_mul_ediv b (statisticsUnitSeconds * nanosecondsPerSecond)
    rw [hhour] at ha
    split
    · rw [if_pos (by omega)]
      exact Int.toNat_le_toNat (Int.ediv_le_ediv (by decide) (by linarith))
    · exact Nat.zero_le _
  restarts hour := by simp

def silent : HourlyCounter := ⟨fun _ => 0, fun _ _ _ _ => le_rfl, fun _ => rfl⟩

/-- Only the upstream `one` answers. -/
def tickingTruth : TrueCounters where
  responses identity := if identity = "one" then ticking else silent
  microseconds _ := silent

def tickingSample (responses : UInt64) (start completion : Timestamp) : UpstreamSample :=
  ⟨"resolver", start.asSecond, completion.asSecond, [⟨"one", responses, 0⟩]⟩

theorem readsAt_tickingSample {responses : UInt64} {start read completion : Timestamp} (h1 : start ≤ read)
    (h2 : read ≤ completion) (h3 : responses.toNat = ticking.value read.nanoseconds) :
    ReadsAt tickingTruth (tickingSample responses start completion) start read completion where
  observationStarted := rfl
  timestamp := rfl
  after := h1
  before := h2
  responses identity := by
    by_cases h : identity = "one"
    · subst h
      simpa [tickingTruth, tickingSample, UpstreamSample.find] using h3
    · simp [tickingTruth, tickingSample, UpstreamSample.find, h, Ne.symm h, silent]
  microseconds identity := by
    by_cases h : identity = "one"
    · simp [tickingTruth, tickingSample, UpstreamSample.find, h, silent]
    · simp [tickingTruth, tickingSample, UpstreamSample.find, Ne.symm h, silent]

theorem upstreamWindow_exact_ticking :
    let start₁ : Timestamp := ⟨10000000000, by decide, by decide⟩
    let read₁ : Timestamp := ⟨11000000000, by decide, by decide⟩
    let start₂ : Timestamp := ⟨310000000000, by decide, by decide⟩
    let read₂ : Timestamp := ⟨311000000000, by decide, by decide⟩
    upstreamWindow (tickingSample 11 start₁ read₁) (tickingSample 311 start₂ read₂) =
      some (300, [("one", ⟨300, 0⟩)]) ∧
    (tickingTruth.responses "one").between read₁ read₂ = 300 := by
  intro start₁ read₁ start₂ read₂
  have hwindow : upstreamWindow (tickingSample 11 start₁ read₁) (tickingSample 311 start₂ read₂) =
      some (300, [("one", ⟨300, 0⟩)]) := by decide +kernel
  have h := upstreamWindow_exact
    (readsAt_tickingSample (by decide) le_rfl (by decide) : ReadsAt _ (tickingSample 11 start₁ read₁) start₁ read₁ read₁)
    (readsAt_tickingSample (by decide) le_rfl (by decide) : ReadsAt _ (tickingSample 311 start₂ read₂) start₂ read₂ read₂)
    (by decide) (by decide) hwindow
  exact ⟨hwindow, (h.2.1 _ List.mem_cons_self).1.symm⟩

/-- Before 1970 truncation moves an instant into a later hour: a run in the
last second before the epoch is given the epoch's hour, and a window joins it
to a reading of that hour. -/
theorem window_spans_hours_before_epoch :
    ¬∀ (truth : TrueCounters) (previous current : UpstreamSample)
      (start₁ read₁ completion₁ start₂ read₂ completion₂ : Timestamp),
      ReadsAt truth previous start₁ read₁ completion₁ → ReadsAt truth current start₂ read₂ completion₂ →
      completion₁ ≤ start₂ → (upstreamWindow previous current).isSome →
      hourOf read₁.nanoseconds = hourOf read₂.nanoseconds := by
  intro h
  let before : Timestamp := ⟨-500000000, by decide, by decide⟩
  let after : Timestamp := ⟨100000000000, by decide, by decide⟩
  have hours := h tickingTruth (tickingSample 0 before before) (tickingSample 100 after after) before before before
    after after after (readsAt_tickingSample le_rfl le_rfl (by decide))
    (readsAt_tickingSample le_rfl le_rfl (by decide)) (by decide) (by decide +kernel)
  exact absurd hours (by decide)

end Sentinel

/-
# Rate conditions, by their definition

A target's rate conditions compare the window from its last sample to the
current reading with the windows it measured in the same local hour. Whether
two readings measure a window is a fact about the two (`Measures`), every
window's rate and ratio are finite, so a population that is large enough has
bounds, and a verdict is the first of its reasons that applies.

Key theorems: `windowBetween_eq`, `readyBounds_eq`, `evaluateTargetBehavior_verdict`.
-/
import Sentinel.Core.Aggregate
import Sentinel.Core.Latency

namespace Sentinel

open Collections

/-! ### Windows -/

/-- Two consecutive readings measure a window: they are at most ten minutes
apart, no counter decreased, and no more was blocked than queried. -/
structure Measures (previous current : Reading) : Prop where
  rises : previous.timestamp < current.timestamp
  near : current.timestamp - previous.timestamp ≤ 600
  counters : CountersRise previous current

theorem measures_iff {previous current : Reading} : Measures previous current ↔
    (previous.timestamp < current.timestamp ∧ current.timestamp - previous.timestamp ≤ 600) ∧
      CountersRise previous current :=
  ⟨fun h => ⟨⟨h.rises, h.near⟩, h.counters⟩, fun h => ⟨h.1.1, h.1.2, h.2⟩⟩

instance (previous current : Reading) : Decidable (Measures previous current) := decidable_of_iff _ measures_iff.symm

/-- What two readings measure. -/
def windowOf (localHour : UInt8) (pair : Reading × Reading) : RateWindow where
  localHour
  queries := pair.2.queries - pair.1.queries
  elapsedSeconds := .ofInt (pair.2.timestamp - pair.1.timestamp)
  queryRate := (Binary64.ofNat (pair.2.queries - pair.1.queries).toNat).div
    (.ofInt (pair.2.timestamp - pair.1.timestamp))
  blockedRatio := shareOf (pair.2.blocked - pair.1.blocked) (pair.2.queries - pair.1.queries)

/-- **When two instants are the ends of a window.** -/
theorem withinGap_iff (previous current : ℤ) :
    withinGap previous current = true ↔ previous < current ∧ current - previous ≤ 600 := by
  have hzero := Binary64.ofInt_le_zero_iff (current - previous)
  have hfar := rateWindow_lt_ofInt (current - previous)
  simp only [withinGap, Bool.and_eq_true, Bool.not_eq_true']
  rw [← Bool.not_eq_true, ← Bool.not_eq_true, hzero, hfar]
  constructor
  · rintro ⟨⟨-, hrises⟩, hnear⟩
    omega
  · rintro ⟨hrises, hnear⟩
    refine ⟨⟨?_, by omega⟩, by omega⟩
    rw [Binary64.ofInt_of_nonneg (by omega)]
    apply Binary64.isFinite_ofNat
    omega

/-- **The window between two readings.** -/
theorem windowBetween_eq (previous current : Reading) (localHour : UInt8) :
    windowBetween previous current localHour =
      if Measures previous current then some (windowOf localHour (previous, current)) else none := by
  have hsome := windowBetween_isSome_iff previous current localHour
  rw [withinGap_iff, ← measures_iff] at hsome
  by_cases h : Measures previous current
  · rw [if_pos h]
    obtain ⟨window, hwindow⟩ := Option.isSome_iff_exists.mp (hsome.mpr h)
    rw [hwindow]
    unfold windowBetween at hwindow
    split at hwindow
    · cases hwindow
    · split at hwindow
      · cases hwindow
      · simp only at hwindow
        split at hwindow
        · cases hwindow
        · rw [← hwindow]
          rfl
  · rw [if_neg h]
    exact Option.not_isSome_iff_eq_none.mp (mt hsome.mp h)

/-- The windows between consecutive readings that end in a local hour. -/
def learnedWindows (packages : Packages) (timeZone : String) (localHour : UInt8) (readings : List Reading) :
    List RateWindow :=
  ((pairs readings).filter fun pair =>
    decide (localHourOf packages pair.2.timestamp timeZone = some localHour) && decide (Measures pair.1 pair.2)).map
      (windowOf localHour)

/-- The history of a subject is what its readings measured in the local hour. -/
theorem sameHourWindows_eq_learnedWindows (packages : Packages) (timeZone : String) (localHour : UInt8)
    (readings : List Reading) :
    sameHourWindows packages timeZone localHour readings = learnedWindows packages timeZone localHour readings := by
  rw [sameHourWindows_eq, learnedWindows, filterMap_eq_map_filter (f := windowOf localHour), List.filter_filter]
  · congr 2
    funext pair
    obtain ⟨previous, current⟩ := pair
    show ((windowBetween previous current localHour).isSome && _) = _
    rw [Bool.and_comm, windowBetween_eq]
    by_cases h : Measures previous current <;> simp [h]
  · intro pair hwindow
    obtain ⟨previous, current⟩ := pair
    change (windowBetween previous current localHour).isSome = true at hwindow
    show windowBetween previous current localHour = _
    rw [windowBetween_eq] at hwindow ⊢
    by_cases h : Measures previous current
    · rw [if_pos h]
    · rw [if_neg h] at hwindow
      cases hwindow

/-! ### Finite rates -/

/-- The rate and the ratio of a window are finite. -/
structure RateWindow.Finite (window : RateWindow) : Prop where
  queryRate : window.queryRate.isFinite = true
  blockedRatio : window.blockedRatio.isFinite = true

/-- A share of a total is finite. -/
theorem isFinite_shareOf (part total : UInt64) : (shareOf part total).isFinite = true := by
  unfold shareOf
  split
  case isTrue => decide +kernel
  case isFalse hne =>
    have hpart := part.toNat_lt
    have htotal := total.toNat_lt
    have hpositive : 0 < total.toNat := Nat.pos_of_ne_zero fun hzero => hne (UInt64.toNat_inj.mp hzero)
    obtain ⟨low, hlow, hquotient⟩ := Binary64.div_ofSign (Binary64.count_encode hpart.le)
      (Binary64.count_encode htotal.le) (Binary64.one_le_encode hpositive)
    rw [Binary64.ofNat_eq, Binary64.ofNat_eq, hquotient]
    exact Binary64.isFinite_ofSign hlow.lt

/-- **What a window measures is finite.** -/
theorem Measures.finite {previous current : Reading} (h : Measures previous current) (localHour : UInt8) :
    (windowOf localHour (previous, current)).Finite where
  queryRate := by
    have hrises := h.rises
    have hnear := h.near
    have hqueries := (current.queries - previous.queries).toNat_lt
    have hpositive : 0 < (current.timestamp - previous.timestamp).toNat := by omega
    have hbound : (current.timestamp - previous.timestamp).toNat ≤ 2 ^ 64 := by omega
    obtain ⟨low, hlow, hquotient⟩ := Binary64.div_ofSign (Binary64.count_encode hqueries.le)
      (Binary64.count_encode hbound) (Binary64.one_le_encode hpositive)
    show ((Binary64.ofNat (current.queries - previous.queries).toNat).div
      (.ofInt (current.timestamp - previous.timestamp))).isFinite = true
    rw [Binary64.ofInt_of_nonneg (by omega), Binary64.ofNat_eq, Binary64.ofNat_eq, hquotient]
    exact Binary64.isFinite_ofSign hlow.lt
  blockedRatio := isFinite_shareOf _ _

theorem finite_of_mem_learnedWindows {packages : Packages} {timeZone : String} {localHour : UInt8} {readings : List Reading}
    {window : RateWindow} (h : window ∈ learnedWindows packages timeZone localHour readings) : window.Finite := by
  obtain ⟨pair, hpair, rfl⟩ := List.mem_map.mp h
  have hmeasures := (List.mem_filter.mp hpair).2
  rw [Bool.and_eq_true, decide_eq_true_eq, decide_eq_true_eq] at hmeasures
  exact hmeasures.2.finite localHour

/-! ### Bounds -/

/-- The scaled median deviation of some values, at least a billionth. -/
def deviationOf (values : List Binary64) : Binary64 :=
  ((Binary64.ofRat 1.4826).mul (median (values.map fun value => (value.sub (median values)).abs))).max (.ofRat 1e-9)

/-- Finite values have bounds, if there are any. -/
theorem robustBounds_eq {values : List Binary64} (hfinite : ∀ value ∈ values, value.isFinite = true) :
    robustBounds values = if values = [] then none else some (median values, deviationOf values) := by
  have hany : values.any (!·.isFinite) = false := by
    rw [List.any_eq_false]
    intro value hvalue
    rw [hfinite value hvalue]
    exact Bool.false_ne_true
  unfold robustBounds
  rw [hany, Bool.or_false]
  by_cases hempty : values = []
  · rw [if_pos (by simp [hempty]), if_pos hempty]
  · rw [if_neg (by simpa using hempty), if_neg hempty]
    rfl

/-- **When a population has bounds**: it is ready, and large enough. -/
theorem readyBounds_eq (values : List Binary64) (hfinite : ∀ value ∈ values, value.isFinite = true) {minimumWindows : ℕ}
    (hminimum : 0 < minimumWindows) (baselineReady : Bool) :
    readyBounds baselineReady minimumWindows values =
      if baselineReady = true ∧ minimumWindows ≤ values.length then some (median values, deviationOf values) else none := by
  unfold readyBounds
  rw [robustBounds_eq hfinite]
  by_cases hready : baselineReady = true ∧ minimumWindows ≤ values.length
  · have hsome : values ≠ [] := fun hempty => by
      rw [hempty, List.length_nil] at hready
      omega
    rw [if_pos hready, if_pos (by simpa using hready), if_neg hsome]
  · rw [if_neg hready, if_neg (by simpa using hready)]

/-! ### The verdicts -/

/-- A verdict is the first of its reasons that applies, and otherwise whether
the current window exceeds its bound. -/
structure BehaviorVerdict (isLearning isUnavailable isTooSmall exceeds : Prop) (whenActive whenClear : String)
    (e : ConditionEvaluation) : Prop where
  learning : e.outcome = .notEvaluated ∧ e.reason = "baseline_learning" ↔ isLearning
  unavailable : e.outcome = .notEvaluated ∧ e.reason = "rate_window_unavailable" ↔ ¬isLearning ∧ isUnavailable
  tooSmall : e.outcome = .notEvaluated ∧ e.reason = "window_too_small" ↔ ¬isLearning ∧ ¬isUnavailable ∧ isTooSmall
  active : e.outcome = .active ↔ ¬isLearning ∧ ¬isUnavailable ∧ ¬isTooSmall ∧ exceeds
  clear : e.outcome = .clear ↔ ¬isLearning ∧ ¬isUnavailable ∧ ¬isTooSmall ∧ ¬exceeds
  activeReason : e.outcome = .active → e.reason = whenActive
  clearReason : e.outcome = .clear → e.reason = whenClear

namespace BehaviorVerdict

variable {isLearning isUnavailable isTooSmall exceeds : Prop} {whenActive whenClear : String} {e : ConditionEvaluation}

theorem of_learning (h : isLearning) (houtcome : e.outcome = .notEvaluated) (hreason : e.reason = "baseline_learning") :
    BehaviorVerdict isLearning isUnavailable isTooSmall exceeds whenActive whenClear e := by
  constructor <;> simp [h, houtcome, hreason]

theorem of_unavailable (hlearning : ¬isLearning) (h : isUnavailable) (houtcome : e.outcome = .notEvaluated)
    (hreason : e.reason = "rate_window_unavailable") :
    BehaviorVerdict isLearning isUnavailable isTooSmall exceeds whenActive whenClear e := by
  constructor <;> simp [hlearning, h, houtcome, hreason]

theorem of_tooSmall (hlearning : ¬isLearning) (hunavailable : ¬isUnavailable) (h : isTooSmall)
    (houtcome : e.outcome = .notEvaluated) (hreason : e.reason = "window_too_small") :
    BehaviorVerdict isLearning isUnavailable isTooSmall exceeds whenActive whenClear e := by
  constructor <;> simp [hlearning, hunavailable, h, houtcome, hreason]

/-- A verdict that was reached compares. -/
theorem of_flag (hlearning : ¬isLearning) (hunavailable : ¬isUnavailable) (htooSmall : ¬isTooSmall) (isActive : Bool)
    (hexceeds : exceeds ↔ isActive = true) {activeSummary clearSummary : String}
    (houtcome : e.outcome = (Verdict.fromFlag isActive (whenActive, activeSummary) (whenClear, clearSummary)).outcome)
    (hreason : e.reason = (Verdict.fromFlag isActive (whenActive, activeSummary) (whenClear, clearSummary)).reason) :
    BehaviorVerdict isLearning isUnavailable isTooSmall exceeds whenActive whenClear e := by
  cases isActive
  · constructor <;> simp [hlearning, hunavailable, htooSmall, hexceeds, houtcome, hreason, Verdict.fromFlag, Verdict.clear]
  · constructor <;> simp [hlearning, hunavailable, htooSmall, hexceeds, houtcome, hreason, Verdict.fromFlag, Verdict.active]

end BehaviorVerdict

section Conditions

variable (subject : BehavioralSubject) (profile : ConditionProfile) (baselineReady : Bool) {history : List RateWindow}
  (current : Option RateWindow) {minimumWindows : ℕ}

/-- The bound of a query rate: three medians, or four deviations above one. -/
def rateLimit (values : List Binary64) : Binary64 :=
  ((median values).mul (.ofNat 3)).max ((median values).add ((Binary64.ofNat 4).mul (deviationOf values)))

/-- The bound of a ratio's distance from its median. -/
def ratioLimit (values : List Binary64) : Binary64 :=
  (Binary64.ofRat 0.04).max ((Binary64.ofNat 6).mul (deviationOf values))

/-- The ratios of the windows with enough queries to carry one. -/
def comparableRatios (history : List RateWindow) : List Binary64 :=
  (history.filter fun window => decide (100 ≤ window.queries)).map (·.blockedRatio)

theorem filterMap_comparableBlockedRatio (history : List RateWindow) :
    history.filterMap (·.comparableBlockedRatio) = comparableRatios history := by
  rw [comparableRatios, filterMap_eq_map_filter (f := (·.blockedRatio))]
  · congr 2
    funext window
    unfold RateWindow.comparableBlockedRatio rateWindowMinimumQueries
    by_cases h : 100 ≤ window.queries <;> simp [h]
  · intro window h
    unfold RateWindow.comparableBlockedRatio at h ⊢
    by_cases hqueries : rateWindowMinimumQueries ≤ window.queries
    · rw [if_pos hqueries]
    · rw [if_neg hqueries] at h
      cases h

theorem queryRateEvaluation_verdict (hfinite : ∀ window ∈ history, window.Finite) (hminimum : 0 < minimumWindows) :
    BehaviorVerdict (¬(baselineReady = true ∧ minimumWindows ≤ history.length)) (current = none) False
      (∃ window, current = some window ∧ (rateLimit (history.map (·.queryRate))).lt window.queryRate = true)
      "above_baseline" "within_baseline"
      (queryRateEvaluation subject profile baselineReady history current minimumWindows) := by
  have hbounds := readyBounds_eq (history.map (·.queryRate)) (fun value hvalue => by
    obtain ⟨window, hwindow, rfl⟩ := List.mem_map.mp hvalue
    exact (hfinite window hwindow).queryRate) hminimum baselineReady
  rw [List.length_map] at hbounds
  unfold queryRateEvaluation
  simp only [hbounds]
  by_cases hready : baselineReady = true ∧ minimumWindows ≤ history.length
  · rw [if_pos hready]
    cases current with
    | none => exact .of_unavailable (not_not.mpr hready) rfl rfl rfl
    | some window =>
      exact .of_flag (not_not.mpr hready) (Option.some_ne_none _) not_false _ (by simp; rfl) rfl rfl
  · rw [if_neg hready]
    exact .of_learning hready rfl rfl

/-- A ratio differs too much from its median, or has fallen below a quarter of
it. -/
def ratioExceeds (collapse : Bool) (values : List Binary64) (ratio : Binary64) : Bool :=
  if collapse then ratio.lt ((median values).div (.ofNat 4))
  else (ratioLimit values).lt (ratio.sub (median values)).abs

theorem ratioEvaluation_verdict (hfinite : ∀ window ∈ history, window.Finite) (hminimum : 0 < minimumWindows)
    (id kind : String) (severity : Severity) (collapse : Bool) :
    BehaviorVerdict (¬(baselineReady = true ∧ minimumWindows ≤ (comparableRatios history).length)) (current = none)
      (∃ window, current = some window ∧ window.queries < 100)
      (∃ window, current = some window ∧ ratioExceeds collapse (comparableRatios history) window.blockedRatio = true)
      (if collapse then "blocking_collapsed" else "outside_baseline")
      (if collapse then "blocking_sustained" else "within_baseline")
      (ratioEvaluation subject profile baselineReady history current minimumWindows id kind severity collapse) := by
  have hbounds := readyBounds_eq (comparableRatios history) (fun value hvalue => by
    obtain ⟨window, hwindow, rfl⟩ := List.mem_map.mp hvalue
    exact (hfinite window (List.mem_filter.mp hwindow).1).blockedRatio) hminimum baselineReady
  unfold ratioEvaluation
  simp only [filterMap_comparableBlockedRatio, hbounds]
  by_cases hready : baselineReady = true ∧ minimumWindows ≤ (comparableRatios history).length
  · rw [if_pos hready]
    cases current with
    | none => exact .of_unavailable (not_not.mpr hready) rfl rfl rfl
    | some window =>
      by_cases hqueries : rateWindowMinimumQueries ≤ window.queries
      · have hcomparable : window.comparableBlockedRatio = some window.blockedRatio := if_pos hqueries
        simp only [hcomparable, Binary64.mul_quarter]
        have htooSmall : ¬∃ window', some window = some window' ∧ window'.queries < 100 := by
          rintro ⟨window', hwindow, hsmall⟩
          obtain rfl := Option.some.inj hwindow
          exact absurd hqueries (UInt64.not_le.mpr hsmall)
        cases collapse
        · exact .of_flag (not_not.mpr hready) (Option.some_ne_none _) htooSmall _ (by simp; rfl) rfl rfl
        · exact .of_flag (not_not.mpr hready) (Option.some_ne_none _) htooSmall _ (by simp; rfl) rfl rfl
      · have hcomparable : window.comparableBlockedRatio = none := if_neg hqueries
        simp only [hcomparable]
        exact .of_tooSmall (not_not.mpr hready) (Option.some_ne_none _) ⟨window, rfl, UInt64.not_le.mp hqueries⟩ rfl rfl
  · rw [if_neg hready]
    exact .of_learning hready rfl rfl

end Conditions

/-! ### One target -/

/-- The readings of a target, in the order of its samples. -/
def readingsOf (targetId : String) (samples : List TargetSample) : List Reading :=
  (samples.filter (·.targetId = targetId)).map TargetSample.reading

/-- The age gate of `evaluate_target_behavior`: the oldest sample is old enough. -/
def learningGate (baseline : BehavioralBaselineConfig) (samples : List TargetSample) (targetId : String)
    (nowUnixSeconds : ℤ) : Bool :=
  ((samples.filter (·.targetId = targetId)).map TargetSample.reading).head?.any fun oldest =>
    (baseline.learningDays.toNat : ℤ) * 86400 ≤ saturatingSub nowUnixSeconds oldest.timestamp

/-- The gate decides whether a member's conditions are compared. -/
theorem evaluateTargetBehavior_eq (packages : Packages) {baseline : BehavioralBaselineConfig} (profile : ConditionProfile)
    {report : TargetReport} {operational : OperationalObservation} (samples : List TargetSample) (nowUnixSeconds : ℤ)
    (localHour : UInt8) (hmember : report.id ∈ baseline.targetIds) (hcomplete : report.complete = true)
    (hoperational : report.operational = some operational) :
    evaluateTargetBehavior packages baseline profile report samples nowUnixSeconds localHour =
      behavioralEvaluations (.target report.id report.name) profile
        (learningGate baseline samples report.id nowUnixSeconds)
        (sameHourWindows packages baseline.timeZone localHour
          ((samples.filter (·.targetId = report.id)).map TargetSample.reading))
        (((samples.filter (·.targetId = report.id)).map TargetSample.reading).getLast?.bind fun previous =>
          windowBetween previous ⟨nowUnixSeconds, operational.queries, operational.blocked⟩ localHour)
        baseline.minimumSameHourSamples := by
  unfold evaluateTargetBehavior
  rw [if_neg (not_not.mpr hmember), hoperational]
  simp only [hcomplete, Bool.not_true, Bool.false_eq_true, if_false]
  rfl

/-- The oldest reading is younger than the days of learning. -/
def IsYoung (config : BehavioralBaselineConfig) (readings : List Reading) (now : ℤ) : Prop :=
  ∃ oldest, readings.head? = some oldest ∧ now - oldest.timestamp < (config.learningDays.toNat : ℤ) * 86400

/-- The window from the last reading to the current one. -/
def currentWindow (readings : List Reading) (current : Reading) (localHour : UInt8) : Option RateWindow :=
  readings.getLast?.bind fun previous =>
    if Measures previous current then some (windowOf localHour (previous, current)) else none

/-- An age reaches the days of learning, also where it saturates. -/
theorem learningDays_le_saturatingSub (config : BehavioralBaselineConfig) (now oldest : ℤ) :
    (config.learningDays.toNat : ℤ) * 86400 ≤ saturatingSub now oldest ↔
      ¬now - oldest < (config.learningDays.toNat : ℤ) * 86400 := by
  have hdays := config.learningDays.toNat_lt
  simp only [saturatingSub, saturate, i64Minimum, i64Maximum]
  omega

/-- A population is learning where its target is young, or it is too small. -/
theorem not_ready_iff {config : BehavioralBaselineConfig} (hminimum : 0 < config.minimumSameHourSamples)
    {samples : List TargetSample} {targetId : String} (now : ℤ) (count : ℕ)
    (hcount : readingsOf targetId samples = [] → count = 0) :
    ¬(learningGate config samples targetId now = true ∧ config.minimumSameHourSamples ≤ count) ↔
      IsYoung config (readingsOf targetId samples) now ∨ count < config.minimumSameHourSamples := by
  unfold IsYoung learningGate
  rw [← readingsOf]
  cases hreadings : readingsOf targetId samples with
  | nil =>
    have hzero := hcount hreadings
    simp only [List.head?_nil, Option.any_none, Bool.false_eq_true, false_and, not_false_iff, true_iff]
    exact .inr (by omega)
  | cons oldest rest =>
    simp only [List.head?_cons, Option.any_some, decide_eq_true_eq, learningDays_le_saturatingSub, Option.some.injEq,
      exists_eq_left']
    omega

/-- What the definitions say of the three rate conditions of a target. -/
structure TargetBehavior (isYoung : Prop) (population : List RateWindow) (current : Option RateWindow)
    (minimumWindows : ℕ) (rate ratio collapse : ConditionEvaluation) : Prop where
  rate : BehaviorVerdict (isYoung ∨ population.length < minimumWindows) (current = none) False
    (∃ window, current = some window ∧ (rateLimit (population.map (·.queryRate))).lt window.queryRate = true)
    "above_baseline" "within_baseline" rate
  ratio : BehaviorVerdict (isYoung ∨ (comparableRatios population).length < minimumWindows) (current = none)
    (∃ window, current = some window ∧ window.queries < 100)
    (∃ window, current = some window ∧ (ratioLimit (comparableRatios population)).lt
      (window.blockedRatio.sub (median (comparableRatios population))).abs = true)
    "outside_baseline" "within_baseline" ratio
  collapse : BehaviorVerdict (isYoung ∨ (comparableRatios population).length < minimumWindows) (current = none)
    (∃ window, current = some window ∧ window.queries < 100)
    (∃ window, current = some window ∧
      window.blockedRatio.lt ((median (comparableRatios population)).div (.ofNat 4)) = true)
    "blocking_collapsed" "blocking_sustained" collapse

/-- What a target's rate conditions are evaluated from: what its readings
measured. -/
theorem evaluateTargetBehavior_learned (packages : Packages) {config : BehavioralBaselineConfig} (profile : ConditionProfile)
    {report : TargetReport} {operational : OperationalObservation} (samples : List TargetSample) (now : ℤ)
    (localHour : UInt8) (hmember : report.id ∈ config.targetIds) (hcomplete : report.complete = true)
    (hoperational : report.operational = some operational) :
    evaluateTargetBehavior packages config profile report samples now localHour =
      behavioralEvaluations (.target report.id report.name) profile (learningGate config samples report.id now)
        (learnedWindows packages config.timeZone localHour (readingsOf report.id samples))
        (currentWindow (readingsOf report.id samples) ⟨now, operational.queries, operational.blocked⟩ localHour)
        config.minimumSameHourSamples := by
  rw [evaluateTargetBehavior_eq packages profile samples now localHour hmember hcomplete hoperational,
    sameHourWindows_eq_learnedWindows]
  simp only [windowBetween_eq]
  rfl

/-- **A target's rate conditions are their definitions**, for every member of the
group with a complete report and every list of samples. -/
theorem evaluateTargetBehavior_verdict (packages : Packages) (config : BehavioralBaselineConfig)
    (profile : ConditionProfile) (report : TargetReport) (operational : OperationalObservation)
    (samples : List TargetSample) (now : ℤ) (localHour : UInt8) (hminimum : 0 < config.minimumSameHourSamples)
    (hmember : report.id ∈ config.targetIds) (hcomplete : report.complete = true)
    (hoperational : report.operational = some operational) :
    ∃ rate ratio collapse, evaluateTargetBehavior packages config profile report samples now localHour =
        [rate, ratio, collapse] ∧
      rate.id = s!"target:{report.id}:query-rate" ∧ ratio.id = s!"target:{report.id}:blocked-ratio" ∧
      collapse.id = s!"target:{report.id}:blocking-collapsed" ∧
      TargetBehavior (IsYoung config (readingsOf report.id samples) now)
        (learnedWindows packages config.timeZone localHour (readingsOf report.id samples))
        (currentWindow (readingsOf report.id samples) ⟨now, operational.queries, operational.blocked⟩ localHour)
        config.minimumSameHourSamples rate ratio collapse := by
  have hfinite : ∀ window ∈ learnedWindows packages config.timeZone localHour (readingsOf report.id samples),
      window.Finite := fun window => finite_of_mem_learnedWindows
  have hempty : readingsOf report.id samples = [] →
      learnedWindows packages config.timeZone localHour (readingsOf report.id samples) = [] := by
    intro hempty
    rw [hempty]
    rfl
  rw [evaluateTargetBehavior_learned packages profile samples now localHour hmember hcomplete hoperational]
  have hrate := not_ready_iff hminimum now _ fun h => List.length_eq_zero_iff.mpr (hempty h)
  have hratio := not_ready_iff hminimum now (comparableRatios (learnedWindows packages config.timeZone localHour
    (readingsOf report.id samples))).length fun h => by rw [hempty h]; rfl
  refine ⟨_, _, _, rfl, queryRateEvaluation_id .., ratioEvaluation_id .., ratioEvaluation_id .., ?_⟩
  constructor
  · rw [← hrate]
    exact queryRateEvaluation_verdict _ _ _ _ hfinite hminimum
  · rw [← hratio]
    exact ratioEvaluation_verdict _ _ _ _ hfinite hminimum _ _ _ false
  · rw [← hratio]
    exact ratioEvaluation_verdict _ _ _ _ hfinite hminimum _ _ _ true

/-- A learned window of one query a second, and a reading two days later. -/
def samplesOfOne : List TargetSample :=
  [⟨"first", "a", 0, 1000, 0⟩, ⟨"second", "a", 300, 1300, 0⟩, ⟨"third", "a", 172800, 5000, 0⟩]

/-- Ten thousand queries in five minutes, where one a second was learned. -/
theorem evaluateTargetBehavior_verdict_surge :
    ∃ rate ratio collapse,
      evaluateTargetBehavior universalTime groupOfTwo {} (reportOf "a" 15000) samplesOfOne 173100 0 =
        [rate, ratio, collapse] ∧ rate.outcome = .active := by
  obtain ⟨rate, ratio, collapse, heq, -, -, -, hverdict⟩ := evaluateTargetBehavior_verdict universalTime groupOfTwo {}
    (reportOf "a" 15000) _ samplesOfOne 173100 0 (by decide) (by decide) rfl rfl
  refine ⟨rate, ratio, collapse, heq, hverdict.rate.active.mpr ⟨?_, by decide +kernel, not_false, ?_⟩⟩
  · rintro (⟨oldest, holdest, hyoung⟩ | hfew)
    · obtain rfl := Option.some.inj holdest
      revert hyoung
      decide +kernel
    · revert hfew
      decide +kernel
  · exact ⟨⟨0, 10000, .ofNat 300, (Binary64.ofNat 10000).div (.ofNat 300), .ofNat 0⟩, by decide +kernel, by decide +kernel⟩

end Sentinel

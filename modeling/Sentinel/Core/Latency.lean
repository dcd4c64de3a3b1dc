/-
# Upstream latency, by its definition

A check pools the windows of a target's readings that end within the lookback.
Whether two consecutive readings are a window is a fact about the two
(`ValidWindow`), what an identity contributes is a difference of its counters,
and the pool is the capped sum of these. The verdict is then a statement about
the largest average of the pool.

The readings a check loads reach back further than the lookback by the longest
gap of a window, so a window that counts begins within what is loaded.

Key theorems: `upstreamWindow_isSome_iff`, `pools_foldl`,
`evaluateUpstreamLatency_verdict`, `evaluateUpstreamLatency_lookback`.
-/
import Sentinel.Core.Evaluate
import Sentinel.Core.Identity
import Sentinel.Core.UpstreamWindow
import Sentinel.Lib.Binary64Order

namespace Sentinel

open Binary64

/-! ### Windows -/

/-- An integer number of seconds exceeds the longest gap of a window just when
its double does. -/
theorem rateWindow_lt_ofInt (n : ℤ) : rateWindowMaximumSeconds.lt (.ofInt n) = true ↔ 600 < n := by
  have hstep : (ofNat 600).order < (ofNat (600 + 1)).order := by decide
  exact ofNat_lt_ofInt_iff hstep n

/-- Two consecutive readings measure a window: they are at most ten minutes
apart, both runs lie in one UTC hour, and no counter decreased. -/
structure ValidWindow (previous current : UpstreamSample) : Prop where
  rises : previous.timestamp < current.timestamp
  near : current.timestamp - previous.timestamp ≤ 600
  startedInHour : previous.observationStarted / 3600 = current.timestamp / 3600
  completedInHour : previous.timestamp / 3600 = current.timestamp / 3600
  currentInHour : current.observationStarted / 3600 = current.timestamp / 3600
  counters : ∀ identity, (previous.find identity).responses ≤ (current.find identity).responses ∧
    (previous.find identity).totalMicroseconds ≤ (current.find identity).totalMicroseconds

/-- What an identity contributes to a window; zero where it is not listed. -/
def contribution (window : UpstreamSample × UpstreamSample) (identity : String) : UpstreamTotals where
  responses := (window.2.find identity).responses - (window.1.find identity).responses
  totalMicroseconds := (window.2.find identity).totalMicroseconds - (window.1.find identity).totalMicroseconds

/-- A window as the check pools it: its seconds, and what each listed identity
contributes. -/
def measured (window : UpstreamSample × UpstreamSample) : ℤ × List (String × UpstreamTotals) :=
  (window.2.timestamp - window.1.timestamp,
    (windowIdentities window.1 window.2).map fun identity => (identity, contribution window identity))

theorem notMem_windowIdentities {previous current : UpstreamSample} {identity : String}
    (h : identity ∉ windowIdentities previous current) : previous.find identity = {} ∧ current.find identity = {} := by
  rw [windowIdentities, mem_distinct, List.map_append, List.mem_append, not_or] at h
  exact ⟨find_eq_zero_of_notMem h.1, find_eq_zero_of_notMem h.2⟩

theorem checkedSub_of_le {a b : UInt64} (h : b ≤ a) : checkedSub a b = some (a - b) := if_pos h

/-- Two readings of one hour share its statistics unit. -/
theorem statisticsUnit_of_hour {sample : UpstreamSample} {hour : ℤ} (hstarted : sample.observationStarted / 3600 = hour)
    (hcompleted : sample.timestamp / 3600 = hour) : statisticsUnit sample = some hour :=
  statisticsUnit_eq_some_iff.mpr ⟨hstarted, hcompleted⟩

/-- **A valid window** is measured. -/
theorem ValidWindow.measured {previous current : UpstreamSample} (h : ValidWindow previous current) :
    upstreamWindow previous current = some (measured (previous, current)) := by
  have hrises := h.rises
  have hnear := h.near
  have hgap : ¬(current.timestamp - previous.timestamp ≤ 0 ∨
      rateWindowMaximumSeconds.lt (.ofInt (current.timestamp - previous.timestamp)) = true) := by
    rw [rateWindow_lt_ofInt]
    omega
  have hidentity : ∀ identity ∈ windowIdentities previous current,
      ((checkedSub (current.find identity).responses (previous.find identity).responses).bind fun responses =>
        (checkedSub (current.find identity).totalMicroseconds (previous.find identity).totalMicroseconds).bind
          fun totalMicroseconds => some (identity, ({ responses, totalMicroseconds } : UpstreamTotals))) =
        some (identity, contribution (previous, current) identity) := by
    intro identity _
    rw [checkedSub_of_le (h.counters identity).1, checkedSub_of_le (h.counters identity).2]
    rfl
  unfold upstreamWindow
  simp only
  rw [if_neg hgap, statisticsUnit_of_hour h.startedInHour h.completedInHour, statisticsUnit_of_hour h.currentInHour rfl]
  simp only [Option.bind_eq_bind, Option.bind_some, ne_eq, not_true_eq_false, if_false, Option.pure_def]
  have hall : (windowIdentities previous current).mapM (fun identity =>
      (checkedSub (current.find identity).responses (previous.find identity).responses).bind fun responses =>
        (checkedSub (current.find identity).totalMicroseconds (previous.find identity).totalMicroseconds).bind
          fun totalMicroseconds => some (identity, ({ responses, totalMicroseconds } : UpstreamTotals))) =
      some (Sentinel.measured (previous, current)).2 := by
    rw [Fallible.mapM_eq_some_iff]
    exact List.forall₂_map_right_iff.mpr (List.forall₂_same.mpr hidentity)
  rw [hall]
  rfl

/-- **When two readings are a window.** -/
theorem upstreamWindow_isSome_iff (previous current : UpstreamSample) :
    (upstreamWindow previous current).isSome ↔ ValidWindow previous current := by
  refine ⟨fun h => ?_, fun h => by rw [h.measured]; rfl⟩
  obtain ⟨⟨elapsed, totals⟩, hwindow⟩ := Option.isSome_iff_exists.mp h
  obtain ⟨rfl, hrises, ⟨unit, hprevious, hcurrent⟩, hlisted, htotals⟩ := upstreamWindow_spec hwindow
  have hnear : ¬rateWindowMaximumSeconds.lt (.ofInt (current.timestamp - previous.timestamp)) = true := by
    intro hfar
    rw [upstreamWindow] at hwindow
    simp only [hfar, or_true, if_true, reduceCtorEq] at hwindow
  obtain ⟨hstarted, hcompleted⟩ := statisticsUnit_eq_some_iff.mp hprevious
  obtain ⟨hstarted', hcompleted'⟩ := statisticsUnit_eq_some_iff.mp hcurrent
  rw [rateWindow_lt_ofInt] at hnear
  refine ⟨by omega, by omega, hstarted.trans hcompleted'.symm, hcompleted.trans hcompleted'.symm,
    hstarted'.trans hcompleted'.symm, fun identity => ?_⟩
  by_cases hmem : identity ∈ windowIdentities previous current
  · rw [← hlisted] at hmem
    obtain ⟨entry, hentry, rfl⟩ := List.mem_map.mp hmem
    obtain ⟨hresponses, hmicroseconds⟩ := htotals entry hentry
    rw [UInt64.le_iff_toNat_le, UInt64.le_iff_toNat_le]
    omega
  · obtain ⟨hprevious, hcurrent⟩ := notMem_windowIdentities hmem
    rw [hprevious, hcurrent]
    exact ⟨UInt64.le_refl _, UInt64.le_refl _⟩

instance (previous current : UpstreamSample) : Decidable (ValidWindow previous current) :=
  decidable_of_iff _ (upstreamWindow_isSome_iff previous current)

/-! ### The pool -/

/-- The nearest unsigned 64-bit integer. -/
def capped (n : ℕ) : UInt64 := UInt64.ofNat (min n (2 ^ 64 - 1))

theorem toNat_capped (n : ℕ) : (capped n).toNat = min n (2 ^ 64 - 1) := by
  rw [capped, UInt64.toNat_ofNat']
  omega

/-- Adding to a capped sum caps the sum. -/
theorem saturatingAddU64_capped (n : ℕ) (a : UInt64) : saturatingAddU64 (capped n) a = capped (n + a.toNat) := by
  rw [saturatingAddU64, toNat_capped, capped]
  congr 1
  omega

/-- The capped sum of what an identity contributes to each window. -/
def pooledTotals (windows : List (UpstreamSample × UpstreamSample)) (identity : String) : UpstreamTotals where
  responses := capped (windows.map fun window => (contribution window identity).responses.toNat).sum
  totalMicroseconds := capped (windows.map fun window => (contribution window identity).totalMicroseconds.toNat).sum

/-- Adds totals to totals, saturating. -/
def UpstreamTotals.add (totals window : UpstreamTotals) : UpstreamTotals where
  responses := saturatingAddU64 totals.responses window.responses
  totalMicroseconds := saturatingAddU64 totals.totalMicroseconds window.totalMicroseconds

theorem UpstreamTotals.add_zero (totals : UpstreamTotals) : totals.add {} = totals := by
  have hcap : ∀ a : UInt64, saturatingAddU64 a 0 = a := by
    intro a
    have := a.toNat_lt
    rw [saturatingAddU64, ← UInt64.toNat_inj, UInt64.toNat_ofNat']
    simp only [UInt64.toNat_zero, Nat.add_zero]
    omega
  rw [add, hcap, hcap]

theorem pooledTotals_concat (windows : List (UpstreamSample × UpstreamSample)) (last : UpstreamSample × UpstreamSample)
    (identity : String) :
    pooledTotals (windows ++ [last]) identity = (pooledTotals windows identity).add (contribution last identity) := by
  simp only [pooledTotals, UpstreamTotals.add, saturatingAddU64_capped, List.map_append, List.sum_append, List.map_cons,
    List.map_nil, List.sum_cons, List.sum_nil, Nat.add_zero]

/-- The pool holds the totals `sums`, zero where it has no entry. -/
structure Pools (pooled : List (String × UpstreamTotals)) (sums : String → UpstreamTotals) : Prop where
  sorted : Collections.Sorted pooled
  getD_lookup : ∀ identity, (pooled.lookup identity).getD {} = sums identity

theorem Pools.upsert {pooled : List (String × UpstreamTotals)} {sums : String → UpstreamTotals} (h : Pools pooled sums)
    (identity : String) (totals : UpstreamTotals) :
    Pools (Collections.upsert identity (fun entry => (entry.getD {}).add totals) pooled)
      (Function.update sums identity ((sums identity).add totals)) where
  sorted := h.sorted.upsert
  getD_lookup key := by
    rw [Collections.lookup_upsert key h.sorted]
    by_cases hkey : key = identity
    · subst hkey
      rw [if_pos rfl, Function.update_self, Option.getD_some, h.getD_lookup]
    · rw [if_neg hkey, Function.update_of_ne hkey, h.getD_lookup]

/-- Totals of distinct identities are each added once. -/
theorem Pools.pool (totals : String → UpstreamTotals) : ∀ {identities : List String} {pooled : List (String × UpstreamTotals)}
    {sums : String → UpstreamTotals}, identities.Nodup → Pools pooled sums →
    Pools (Sentinel.pool pooled (identities.map fun identity => (identity, totals identity)))
      fun identity => if identity ∈ identities then (sums identity).add (totals identity) else sums identity
  | [], _, _, _, h => by simpa [Sentinel.pool] using h
  | first :: identities, _, _, hnodup, h => by
    obtain ⟨hfirst, hnodup⟩ := List.nodup_cons.mp hnodup
    have hrest := Pools.pool totals hnodup (h.upsert first (totals first))
    refine ⟨hrest.sorted, fun key => (hrest.getD_lookup key).trans ?_⟩
    by_cases hkey : key = first
    · subst hkey
      simp [hfirst]
    · simp [hkey]

theorem nodup_windowIdentities (previous current : UpstreamSample) : (windowIdentities previous current).Nodup := by
  unfold windowIdentities
  exact nodup_distinct _

/-- **The pool of some windows** holds the capped sums of their contributions. -/
theorem pools_foldl (windows : List (UpstreamSample × UpstreamSample)) :
    Pools ((windows.map measured).foldl (fun pooled window => pool pooled window.2) []) (pooledTotals windows) := by
  induction windows using List.reverseRecOn with
  | nil => exact ⟨List.Pairwise.nil, fun _ => rfl⟩
  | append_singleton windows last ih =>
    rw [List.map_append, List.foldl_append]
    have hlast := Pools.pool (contribution last) (nodup_windowIdentities last.1 last.2) ih
    refine ⟨hlast.sorted, fun key => (hlast.getD_lookup key).trans ?_⟩
    rw [pooledTotals_concat]
    by_cases hkey : key ∈ windowIdentities last.1 last.2
    · rw [if_pos hkey]
    · -- an identity neither reading lists contributes nothing
      obtain ⟨hprevious, hcurrent⟩ := notMem_windowIdentities hkey
      have hzero : contribution last key = {} := by
        rw [contribution, hprevious, hcurrent]
        rfl
      rw [if_neg hkey, hzero, UpstreamTotals.add_zero]

/-- An identity has an entry, with its totals, where they are not zero. -/
theorem Pools.mem_iff {pooled : List (String × UpstreamTotals)} {sums : String → UpstreamTotals} (h : Pools pooled sums)
    {identity : String} {totals : UpstreamTotals} (hsome : 0 < totals.responses) :
    (identity, totals) ∈ pooled ↔ sums identity = totals := by
  rw [Collections.mem_iff_lookup h.sorted, ← h.getD_lookup]
  cases pooled.lookup identity with
  | none =>
    refine iff_of_false (by simp) fun hzero => ?_
    rw [← hzero] at hsome
    exact absurd hsome (by decide)
  | some entry => simp

/-! ### The verdict -/

/-- The valid windows that end within the lookback; none if the current counts
are unknown. -/
def lookbackWindows (report : TargetReport) (history : List UpstreamSample) (current : Option UpstreamSample)
    (now : ℤ) : List (UpstreamSample × UpstreamSample) :=
  if current.isNone then []
  else (Collections.pairs (upstreamReadings report history current now)).filter fun pair =>
    decide (now - 1800 < pair.2.timestamp ∧ ValidWindow pair.1 pair.2)

/-- An identity with enough pooled responses to be judged. -/
def Eligible (windows : List (UpstreamSample × UpstreamSample)) (identity : String) : Prop :=
  20 ≤ (pooledTotals windows identity).responses

/-- The average of an eligible identity is the largest; among equal ones its
identity is the smallest. -/
structure Slowest (windows : List (UpstreamSample × UpstreamSample)) (identity : String) (average : Binary64) : Prop where
  eligible : Eligible windows identity
  average_eq : (pooledTotals windows identity).averageSeconds = some average
  largest : ∀ other otherAverage, Eligible windows other →
    (pooledTotals windows other).averageSeconds = some otherAverage →
    otherAverage.le average = true ∧ (otherAverage = average → identity ≤ other)

theorem mem_lookbackWindows_iff {report : TargetReport} {history : List UpstreamSample} {current : UpstreamSample}
    {now : ℤ} {window : UpstreamSample × UpstreamSample} :
    window ∈ lookbackWindows report history (some current) now ↔
      window ∈ Collections.pairs (upstreamReadings report history (some current) now) ∧
        now - 1800 < window.2.timestamp ∧ ValidWindow window.1 window.2 := by
  rw [lookbackWindows, if_neg (by simp), List.mem_filter, decide_eq_true_eq]

/-- What a check pools is what the valid windows of the lookback measure. -/
theorem upstreamWindows_eq (report : TargetReport) (history : List UpstreamSample) (current : Option UpstreamSample)
    (now : ℤ) : upstreamWindows report history current now = (lookbackWindows report history current now).map measured := by
  unfold upstreamWindows lookbackWindows
  by_cases hnone : current.isNone
  · rw [if_pos hnone, if_pos hnone, List.map_nil]
  · rw [if_neg hnone, if_neg hnone, Collections.filterMap_eq_map_filter (f := measured), List.filter_filter]
    · congr 2
      funext pair
      rw [Bool.and_comm, Bool.decide_and]
      exact congrArg _ (Bool.eq_iff_iff.mpr (by rw [upstreamWindow_isSome_iff, decide_eq_true_eq]))
    · intro pair hwindow
      exact ((upstreamWindow_isSome_iff pair.1 pair.2).mp hwindow).measured

/-- An average of counts, as the bits of a double. -/
theorem averageSeconds_eq {totals : UpstreamTotals} (h : 0 < totals.responses) :
    ∃ low, Count low ∧ totals.averageSeconds = some (ofSign false low) := by
  have hresponses := totals.responses.toNat_lt
  have hmicroseconds := totals.totalMicroseconds.toNat_lt
  have hpositive : 0 < totals.responses.toNat := UInt64.lt_iff_toNat_lt.mp h
  obtain ⟨micros, hmicros, hquotient⟩ := div_ofSign (count_encode hmicroseconds.le) (count_encode hresponses.le)
    (one_le_encode hpositive)
  obtain ⟨low, hlow, haverage⟩ := div_ofSign hmicros (count_encode (show 1000000 ≤ 2 ^ 64 by norm_num))
    (one_le_encode (by norm_num))
  refine ⟨low, hlow, ?_⟩
  rw [UpstreamTotals.averageSeconds, if_pos h, ofNat_eq, ofNat_eq, ofNat_eq, hquotient, haverage]

theorem minimum_positive {totals : UpstreamTotals} (h : 20 ≤ totals.responses) : 0 < totals.responses := by
  rw [UInt64.lt_iff_toNat_lt]
  rw [UInt64.le_iff_toNat_le] at h
  exact lt_of_lt_of_le (by decide) h

section Slowest

variable {windows : List (UpstreamSample × UpstreamSample)} {pooled : List (String × UpstreamTotals)}

/-- The upstreams whose average counts, with their responses and average. -/
def candidates (pooled : List (String × UpstreamTotals)) : List (String × UInt64 × Binary64) :=
  (pooled.filter fun entry => upstreamMinimumResponses ≤ entry.2.responses).filterMap fun entry =>
    entry.2.averageSeconds.map fun seconds => (entry.1, entry.2.responses, seconds)

theorem mem_candidates_iff (h : Pools pooled (pooledTotals windows)) {identity : String} {responses : UInt64}
    {average : Binary64} : (identity, responses, average) ∈ candidates pooled ↔
      Eligible windows identity ∧ (pooledTotals windows identity).responses = responses ∧
        (pooledTotals windows identity).averageSeconds = some average := by
  rw [candidates, List.mem_filterMap]
  constructor
  · rintro ⟨⟨key, totals⟩, hentry, hsome⟩
    obtain ⟨hentry, hminimum⟩ := List.mem_filter.mp hentry
    have hminimum : 20 ≤ totals.responses := of_decide_eq_true hminimum
    obtain ⟨seconds, hseconds, heq⟩ := Option.map_eq_some_iff.mp hsome
    obtain ⟨rfl, rfl, rfl⟩ := heq
    have hsums := (h.mem_iff (minimum_positive hminimum)).mp hentry
    rw [Eligible, hsums]
    exact ⟨hminimum, rfl, hseconds⟩
  · rintro ⟨heligible, rfl, haverage⟩
    refine ⟨(identity, pooledTotals windows identity), List.mem_filter.mpr ⟨?_, decide_eq_true heligible⟩, ?_⟩
    · exact (h.mem_iff (minimum_positive heligible)).mpr rfl
    · exact Option.map_eq_some_iff.mpr ⟨average, haverage, rfl⟩

theorem slowestUpstream_eq_maxBy (pooled : List (String × UpstreamTotals)) :
    slowestUpstream pooled = Collections.maxBy slowerThan (candidates pooled) := rfl

/-- No upstream is named where none is eligible. -/
theorem slowestUpstream_eq_none_iff (h : Pools pooled (pooledTotals windows)) :
    slowestUpstream pooled = none ↔ ∀ identity, ¬Eligible windows identity := by
  rw [slowestUpstream_eq_maxBy, Collections.maxBy_eq_none_iff, List.eq_nil_iff_forall_not_mem]
  constructor
  · intro hnone identity heligible
    obtain ⟨low, -, haverage⟩ := averageSeconds_eq (minimum_positive heligible)
    exact hnone _ ((mem_candidates_iff h).mpr ⟨heligible, rfl, haverage⟩)
  · rintro hnone ⟨identity, responses, average⟩ hmem
    exact hnone identity ((mem_candidates_iff h).mp hmem).1

/-- **The upstream that is named** is the slowest. -/
theorem slowest_of_slowestUpstream (h : Pools pooled (pooledTotals windows)) {identity : String} {responses : UInt64}
    {average : Binary64} (hslowest : slowestUpstream pooled = some (identity, responses, average)) :
    Slowest windows identity average ∧ (pooledTotals windows identity).responses = responses := by
  rw [slowestUpstream_eq_maxBy] at hslowest
  have hgreatest := Collections.maxBy_eq_some slowerThan ?refl ?total ?trans hslowest
  case refl =>
    intro a
    simp [slowerThan]
  case total =>
    intro a b hab
    simp only [slowerThan, Bool.or_eq_false_iff, Bool.and_eq_false_iff, decide_eq_false_iff_not, not_lt, not_le,
      Bool.or_eq_true, Bool.and_eq_true, decide_eq_true_eq] at hab ⊢
    rcases lt_or_eq_of_le hab.1 with hlt | heq
    · exact .inl hlt
    · exact .inr ⟨heq, (hab.2.resolve_left fun hne => hne heq.symm).le⟩
  case trans =>
    intro a b c hab hbc
    simp only [slowerThan, Bool.or_eq_true, Bool.and_eq_true, decide_eq_true_eq] at hab hbc ⊢
    rcases hab with hab | ⟨hab, hab'⟩
    · rcases hbc with hbc | ⟨hbc, -⟩
      · exact .inl (hab.trans hbc)
      · exact .inl (hab.trans_eq hbc)
    · rcases hbc with hbc | ⟨hbc, hbc'⟩
      · exact .inl (hab.trans_lt hbc)
      · exact .inr ⟨hab.trans hbc, hbc'.trans hab'⟩
  obtain ⟨heligible, hresponses, haverage⟩ := (mem_candidates_iff h).mp hgreatest.1
  refine ⟨⟨heligible, haverage, fun other otherAverage hother hotherAverage => ?_⟩, hresponses⟩
  have hle := hgreatest.2 _ ((mem_candidates_iff h).mpr ⟨hother, rfl, hotherAverage⟩)
  obtain ⟨low, hlow, hlowAverage⟩ := averageSeconds_eq (minimum_positive heligible)
  obtain ⟨low', hlow', hlowAverage'⟩ := averageSeconds_eq (minimum_positive hother)
  obtain rfl := Option.some.inj (haverage.symm.trans hlowAverage)
  obtain rfl := Option.some.inj (hotherAverage.symm.trans hlowAverage')
  have hbound := hlow.lt
  have hbound' := hlow'.lt
  simp only [slowerThan, totalKey_ofSign (show low < 2 ^ 63 by omega), totalKey_ofSign (show low' < 2 ^ 63 by omega),
    Bool.or_eq_true, Bool.and_eq_true, decide_eq_true_eq] at hle
  have hlow : low' ≤ low := by omega
  constructor
  · rw [le, isNan_ofSign hbound, isNan_ofSign hbound', order_ofSign hbound, order_ofSign hbound']
    exact decide_eq_true (magnitude_ofSign_le hbound hlow)
  · intro heq
    have hkey := congrArg totalKey heq
    rw [totalKey_ofSign (by omega), totalKey_ofSign (by omega)] at hkey
    rcases hle with hlt | ⟨-, hidentity⟩
    · exact absurd hkey hlt.ne
    · exact hidentity

/-- Some eligible average exceeds a bound just when the largest does. -/
theorem Slowest.exceeds_iff {identity : String} {average : Binary64} (h : Slowest windows identity average)
    (bound : Binary64) :
    (∃ other otherAverage, Eligible windows other ∧ (pooledTotals windows other).averageSeconds = some otherAverage ∧
      bound.lt otherAverage = true) ↔ bound.lt average = true := by
  constructor
  · rintro ⟨other, otherAverage, hother, hotherAverage, hexceeds⟩
    have hle := (h.largest other otherAverage hother hotherAverage).1
    simp only [lt, le, Bool.and_eq_true, decide_eq_true_eq] at hexceeds hle ⊢
    exact ⟨⟨hexceeds.1.1, hle.1.2⟩, hexceeds.2.trans_le hle.2⟩
  · intro hexceeds
    exact ⟨identity, average, h.eligible, h.average_eq, hexceeds⟩

end Slowest

/-- The seconds of valid windows sum to zero just when there is none. -/
theorem sum_measured_eq_zero_iff {report : TargetReport} {history : List UpstreamSample} {current : Option UpstreamSample}
    {now : ℤ} : (((lookbackWindows report history current now).map measured).map Prod.fst).sum = 0 ↔
      lookbackWindows report history current now = [] := by
  have hpositive : ∀ window ∈ lookbackWindows report history current now, 0 < (measured window).1 := by
    intro window hwindow
    cases current with
    | none => simp [lookbackWindows] at hwindow
    | some current =>
      have hrises := (mem_lookbackWindows_iff.mp hwindow).2.2.rises
      show 0 < window.2.timestamp - window.1.timestamp
      omega
  generalize lookbackWindows report history current now = windows at hpositive ⊢
  rw [List.map_map]
  cases windows with
  | nil => simp
  | cons first rest =>
    have hfirst := hpositive first List.mem_cons_self
    have hrest : 0 ≤ (rest.map (Prod.fst ∘ measured)).sum := by
      apply List.sum_nonneg
      intro seconds hseconds
      obtain ⟨window, hwindow, rfl⟩ := List.mem_map.mp hseconds
      exact (hpositive window (List.mem_cons_of_mem _ hwindow)).le
    rw [List.map_cons, List.sum_cons]
    simp only [Function.comp_apply, reduceCtorEq, iff_false]
    omega

/-- What the definition says of the one evaluation `e` of a target's upstreams,
from the windows of its lookback. -/
structure LatencyVerdict (target : TargetConfig) (profile : ConditionProfile)
    (windows : List (UpstreamSample × UpstreamSample)) (e : ConditionEvaluation) : Prop where
  unavailable : e.outcome = .notEvaluated ∧ e.reason = "window_unavailable" ↔ windows = []
  insufficient : e.outcome = .notEvaluated ∧ e.reason = "insufficient_responses" ↔
    windows ≠ [] ∧ ∀ identity, ¬Eligible windows identity
  active : e.outcome = .active ↔ windows ≠ [] ∧ ∃ identity average, Eligible windows identity ∧
    (pooledTotals windows identity).averageSeconds = some average ∧
    ((Binary64.ofNat profile.upstreamLatencyMs.toNat).div (.ofNat 1000)).lt average = true
  clear : e.outcome = .clear ↔ windows ≠ [] ∧ (∃ identity, Eligible windows identity) ∧
    ∀ identity average, Eligible windows identity → (pooledTotals windows identity).averageSeconds = some average →
      ((Binary64.ofNat profile.upstreamLatencyMs.toNat).div (.ofNat 1000)).lt average = false
  /-- A judged evaluation observed the slowest upstream, and an active one
  names it in its summary. -/
  named : e.outcome ≠ .notEvaluated → ∃ identity average upstreams, Slowest windows identity average ∧
    e.observed = .object [("seconds", .ofF64 average), ("upstream", .string identity),
      ("responses", .integer (pooledTotals windows identity).responses.toNat),
      ("window_seconds", .integer (windows.map fun window => window.2.timestamp - window.1.timestamp).sum),
      ("upstreams", upstreams)] ∧
    (e.outcome = .active → e.summary = s!"{target.name} upstream {identity} is persistently slow: {(average.mul (.ofNat 1000)).toText} ms average over {(pooledTotals windows identity).responses.toNat} responses")

/-- **The upstream latency verdict is its definition**: the one evaluation of an
observed target's upstreams, for every history. -/
theorem evaluateUpstreamLatency_verdict (target : TargetConfig) (profile : ConditionProfile) (report : TargetReport)
    (history : List UpstreamSample) (started now : ℤ) (h : report.observed = true) :
    ∃ e, evaluateUpstreamLatency target profile report history started now = [e] ∧
      LatencyVerdict target profile
        (lookbackWindows report history (currentUpstreamSample report started now) now) e := by
  rw [TargetReport.observed, Bool.and_eq_true, Option.isSome_iff_ne_none] at h
  have hguard : ¬((!report.complete || report.operational.isNone) = true) := by
    simp [h.1, h.2]
  have hzero := @sum_measured_eq_zero_iff report history (currentUpstreamSample report started now) now
  unfold evaluateUpstreamLatency
  rw [if_neg hguard]
  simp only [upstreamWindows_eq]
  refine ⟨_, rfl, ?_⟩
  generalize lookbackWindows report history (currentUpstreamSample report started now) now = windows at hzero ⊢
  have hseconds : (windows.map measured).map (fun window => window.1) =
      windows.map fun window => window.2.timestamp - window.1.timestamp := List.map_map
  rw [hseconds] at hzero ⊢
  have hpools := pools_foldl windows
  generalize (windows.map measured).foldl (fun pooled window => pool pooled window.2) [] = pooled at hpools ⊢
  by_cases hnone : windows = []
  · rw [if_pos (hzero.mpr hnone)]
    constructor <;> simp [evaluation, Verdict.notEvaluated, hnone]
  · rw [if_neg (mt hzero.mp hnone)]
    cases hslowest : slowestUpstream pooled with
    | none =>
      have hfew := (slowestUpstream_eq_none_iff hpools).mp hslowest
      constructor <;> simp [evaluation, Verdict.notEvaluated, hnone, hfew]
    | some entry =>
      obtain ⟨identity, responses, average⟩ := entry
      obtain ⟨hslow, rfl⟩ := slowest_of_slowestUpstream hpools hslowest
      have hexceeds := hslow.exceeds_iff ((Binary64.ofNat profile.upstreamLatencyMs.toNat).div (.ofNat 1000))
      have hsome : ∃ identity, Eligible windows identity := ⟨identity, hslow.eligible⟩
      cases hflag : ((Binary64.ofNat profile.upstreamLatencyMs.toNat).div (.ofNat 1000)).lt average with
      | true =>
        have habove := hexceeds.mpr hflag
        refine ⟨?_, ?_, ?_, ?_, fun _ => ?_⟩
        · simp [evaluation, hflag, Verdict.fromFlag, Verdict.active, hnone]
        · simp [evaluation, hflag, Verdict.fromFlag, Verdict.active, hsome]
        · exact iff_of_true (by simp [evaluation, hflag, Verdict.fromFlag, Verdict.active]) ⟨hnone, habove⟩
        · refine iff_of_false (by simp [evaluation, hflag, Verdict.fromFlag, Verdict.active]) fun hclear => ?_
          rw [hclear.2.2 identity average hslow.eligible hslow.average_eq] at hflag
          cases hflag
        · exact ⟨identity, average, _, hslow, rfl, fun _ => by simp [evaluation, hflag, Verdict.fromFlag, Verdict.active]⟩
      | false =>
        have hwithin : ¬∃ other otherAverage, Eligible windows other ∧
            (pooledTotals windows other).averageSeconds = some otherAverage ∧
            ((Binary64.ofNat profile.upstreamLatencyMs.toNat).div (.ofNat 1000)).lt otherAverage = true := by
          rw [hexceeds, hflag]
          exact Bool.false_ne_true
        refine ⟨?_, ?_, ?_, ?_, fun _ => ?_⟩
        · simp [evaluation, hflag, Verdict.fromFlag, Verdict.clear, hnone]
        · simp [evaluation, hflag, Verdict.fromFlag, Verdict.clear, hsome]
        · exact iff_of_false (by simp [evaluation, hflag, Verdict.fromFlag, Verdict.clear]) fun hactive => hwithin hactive.2
        · refine iff_of_true (by simp [evaluation, hflag, Verdict.fromFlag, Verdict.clear]) ⟨hnone, hsome, ?_⟩
          intro other otherAverage hother hotherAverage
          by_contra habove
          exact hwithin ⟨other, otherAverage, hother, hotherAverage, by simpa using habove⟩
        · refine ⟨identity, average, _, hslow, rfl, fun hactive => ?_⟩
          simp [evaluation, hflag, Verdict.fromFlag, Verdict.clear] at hactive

/-! ### One slow upstream -/

/-- A complete report of one target with the upstreams it listed. -/
def listing (upstreams : List UpstreamObservation) : TargetReport :=
  { TargetReport.incomplete "one" "One" .complete "" "" with
    complete := true
    operational := some ⟨true, 0, 0, .ofNat 0, .ofNat 0, .ofNat 0, .ofNat 0⟩
    upstreams
    errorKind := none
    errorDetail := none }

def resolverOne : TargetConfig := { id := "one", name := "One", baseUrl := "http://one" }

/-- A reading five minutes before the one of `listing`. -/
def earlierReading (responses totalMicroseconds : UInt64) : UpstreamSample :=
  ⟨"one", 0, 0, [⟨"dns", responses, totalMicroseconds⟩]⟩

/-- Thirty responses of a second each. -/
theorem evaluateUpstreamLatency_verdict_slow :
    ∃ e, evaluateUpstreamLatency resolverOne {} (listing [⟨"dns", .ofNat 1, some 40⟩]) [earlierReading 10 10000000] 299 300 =
        [e] ∧ e.outcome = .active := by
  obtain ⟨e, he, hverdict⟩ := evaluateUpstreamLatency_verdict resolverOne {} (listing [⟨"dns", .ofNat 1, some 40⟩])
    [earlierReading 10 10000000] 299 300 (by decide +kernel)
  refine ⟨e, he, hverdict.active.mpr ⟨by decide +kernel, "dns", .ofNat 1, ?_, by decide +kernel, by decide +kernel⟩⟩
  show 20 ≤ (pooledTotals _ "dns").responses
  decide +kernel

/-- **An average above the threshold is rounded onto it**: 4322072577 responses
took a microsecond more than 2084 milliseconds each, and the check calls it
within the threshold. -/
theorem average_rounded_onto_threshold :
    ¬∀ (target : TargetConfig) (profile : ConditionProfile) (report : TargetReport) (history : List UpstreamSample)
      (started now : ℤ), report.observed = true → started ≤ now →
      ∀ e ∈ evaluateUpstreamLatency target profile report history started now, ∀ identity,
      let totals := pooledTotals (lookbackWindows report history (currentUpstreamSample report started now) now) identity
      20 ≤ totals.responses →
      (profile.upstreamLatencyMs.toNat : ℚ) / 1000 < (totals.totalMicroseconds.toNat : ℚ) / totals.responses.toNat / 10 ^ 6 →
      e.outcome = .active := by
  intro h
  let report := listing [⟨"dns", .ofRat (2084 / 1000), some 4322072578⟩]
  let history := [earlierReading 1 2083999]
  have houtcome : (evaluateUpstreamLatency resolverOne { upstreamLatencyMs := 2084 } report history 300 300).map (·.outcome) =
      [.clear] := by decide +kernel
  have htotals : pooledTotals (lookbackWindows report history (currentUpstreamSample report 300 300) 300) "dns" =
      ⟨4322072577, 9007199250468001⟩ := by decide +kernel
  obtain ⟨e, he, hclear⟩ := List.mem_map.mp (houtcome ▸ List.mem_singleton_self EvaluationOutcome.clear)
  have hactive := h resolverOne { upstreamLatencyMs := 2084 } report history 300 300 (by decide +kernel) le_rfl e he "dns"
  simp only [htotals] at hactive
  have habove : ((2084 : UInt64).toNat : ℚ) / 1000 <
      ((9007199250468001 : UInt64).toNat : ℚ) / (4322072577 : UInt64).toNat / 10 ^ 6 := by
    rw [show (2084 : UInt64).toNat = 2084 from rfl, show (9007199250468001 : UInt64).toNat = 9007199250468001 from rfl,
      show (4322072577 : UInt64).toNat = 4322072577 from rfl]
    norm_num
  rw [hactive (by decide) habove] at hclear
  cases hclear

/-! ### What is loaded -/

/-- A window that ends within the lookback begins within what is loaded. -/
theorem upstreamWindow_eq_none_of_early {previous current : UpstreamSample} {now : ℤ}
    (hprevious : previous.timestamp < now - upstreamHistorySeconds) (hcurrent : now - upstreamLookbackSeconds < current.timestamp) :
    upstreamWindow previous current = none := by
  rw [← Option.not_isSome_iff_eq_none, upstreamWindow_isSome_iff]
  intro hvalid
  have hnear := hvalid.near
  simp only [upstreamHistorySeconds, upstreamLookbackSeconds] at hprevious hcurrent
  omega

theorem timestamp_currentUpstreamSample {report : TargetReport} {started now : ℤ} {sample : UpstreamSample}
    (h : currentUpstreamSample report started now = some sample) : sample.timestamp = now := by
  obtain ⟨upstreams, -, hsample⟩ := Option.bind_eq_some_iff.mp h
  rw [← Option.some.inj hsample]

/-- The readings of a sorted history are sorted. -/
theorem pairwise_upstreamReadings {history : List UpstreamSample} (h : history.Pairwise fun a b => a.timestamp ≤ b.timestamp)
    (report : TargetReport) (started now : ℤ) :
    (upstreamReadings report history (currentUpstreamSample report started now) now).Pairwise fun a b =>
      a.timestamp ≤ b.timestamp := by
  refine List.pairwise_append.mpr ⟨h.filter _, ?_, fun sample hsample current hcurrent => ?_⟩
  · cases currentUpstreamSample report started now with
    | none => exact List.Pairwise.nil
    | some current => exact List.pairwise_singleton ..
  · have hbefore := (List.mem_filter.mp hsample).2
    simp only [Bool.and_eq_true, decide_eq_true_eq] at hbefore
    rw [timestamp_currentUpstreamSample (Option.mem_toList.mp hcurrent)]
    exact hbefore.2.le

/-- Cutting the history cuts the readings, of which the current one is last. -/
theorem upstreamReadings_filter (report : TargetReport) (history : List UpstreamSample) (started now : ℤ) :
    upstreamReadings report (history.filter fun sample => decide (now - upstreamHistorySeconds ≤ sample.timestamp))
        (currentUpstreamSample report started now) now =
      (upstreamReadings report history (currentUpstreamSample report started now) now).filter fun sample =>
        decide (now - upstreamHistorySeconds ≤ sample.timestamp) := by
  unfold upstreamReadings
  rw [List.filter_append, List.filter_filter, List.filter_filter]
  congr 1
  · congr 1
    funext sample
    exact Bool.and_comm _ _
  · symm
    rw [List.filter_eq_self]
    intro sample hsample
    rw [timestamp_currentUpstreamSample (Option.mem_toList.mp hsample)]
    exact decide_eq_true (by simp only [upstreamHistorySeconds, upstreamLookbackSeconds]; omega)

/-- The pooled windows of a history are those of its part that is loaded. -/
theorem upstreamWindows_filter {history : List UpstreamSample} (h : history.Pairwise fun a b => a.timestamp ≤ b.timestamp)
    (report : TargetReport) (started now : ℤ) :
    upstreamWindows report (history.filter fun sample => decide (now - upstreamHistorySeconds ≤ sample.timestamp))
        (currentUpstreamSample report started now) now =
      upstreamWindows report history (currentUpstreamSample report started now) now := by
  have hordered : (upstreamReadings report history (currentUpstreamSample report started now) now).Pairwise fun a b =>
      decide (now - upstreamHistorySeconds ≤ a.timestamp) → decide (now - upstreamHistorySeconds ≤ b.timestamp) := by
    refine (pairwise_upstreamReadings h report started now).imp fun hle hloaded => ?_
    exact decide_eq_true ((of_decide_eq_true hloaded).trans hle)
  unfold upstreamWindows
  rw [upstreamReadings_filter]
  by_cases hnone : (currentUpstreamSample report started now).isNone
  · rw [if_pos hnone, if_pos hnone]
  · rw [if_neg hnone, if_neg hnone, List.filterMap_filter, List.filterMap_filter]
    refine Collections.filterMap_pairs_filter (fun previous current hearly => ?_) hordered
    have hearly : previous.timestamp < now - upstreamHistorySeconds := not_le.mp (of_decide_eq_false hearly)
    by_cases hrecent : now - upstreamLookbackSeconds < current.timestamp
    · rw [if_pos (decide_eq_true hrecent)]
      exact upstreamWindow_eq_none_of_early hearly hrecent
    · rw [if_neg (by simpa using hrecent)]

/-- **The lookback query loses nothing**: a check that loads the readings of the
last `upstreamHistorySeconds` evaluates the upstreams as one that loads all. -/
theorem evaluateUpstreamLatency_lookback {history : List UpstreamSample}
    (h : history.Pairwise fun a b => a.timestamp ≤ b.timestamp) (target : TargetConfig) (profile : ConditionProfile)
    (report : TargetReport) (started now : ℤ) :
    evaluateUpstreamLatency target profile report
        (history.filter fun sample => decide (now - upstreamHistorySeconds ≤ sample.timestamp)) started now =
      evaluateUpstreamLatency target profile report history started now := by
  unfold evaluateUpstreamLatency
  simp only [upstreamWindows_filter h]

/-- An hour of readings every five minutes, of which the last eight are loaded. -/
theorem evaluateUpstreamLatency_lookback_hour :
    let history := (List.range 12).map fun n => (⟨"one", 300 * n, 300 * n, [⟨"dns", 40, 1000000⟩]⟩ : UpstreamSample)
    (history.filter fun sample => decide ((3599 : ℤ) - upstreamHistorySeconds ≤ sample.timestamp)).length = 8 ∧
    evaluateUpstreamLatency resolverOne {} (listing [⟨"dns", .ofNat 1, some 80⟩])
        (history.filter fun sample => decide ((3599 : ℤ) - upstreamHistorySeconds ≤ sample.timestamp)) 3590 3599 =
      evaluateUpstreamLatency resolverOne {} (listing [⟨"dns", .ofNat 1, some 80⟩]) history 3590 3599 := by
  intro history
  exact ⟨by decide, evaluateUpstreamLatency_lookback (by decide) resolverOne {} (listing [⟨"dns", .ofNat 1, some 80⟩]) 3590 3599⟩

end Sentinel

/-
# Stored runs follow one another

A run is committed only if it ends no earlier than it starts, and starts no
earlier than every stored run ended. Retention only takes runs away, and
delivery leaves when they ran, so the stored runs are always in the order of
time; what is loaded of them is too, and nothing of it is later than a check
whose clock has not run backwards.

Key theorems: `kept_chronological`, `checks_chronological`.
-/
import Sentinel.Cli.Circumstances
import Sentinel.Cli.Storable
import Sentinel.Delivery.Recollect

namespace Sentinel

open Collections CrashTxn

/-! ### Runs -/

/-- Every stored run ended after it started, and before the next one started. -/
structure Chronological (store : StateStore) : Prop where
  within : ∀ run ∈ store.runs.rows, run.startedAt ≤ run.completedAt
  between : store.runs.rows.Pairwise fun earlier later => earlier.completedAt ≤ later.startedAt

/-- When the stored runs started and ended. -/
def StateStore.spans (store : StateStore) : List (Timestamp × Timestamp) :=
  store.runs.rows.map fun run => (run.startedAt, run.completedAt)

/-- Delivery leaves when the runs were. -/
theorem SameHistory.spans {store store' : StateStore} (h : SameHistory store store') : store'.spans = store.spans := by
  refine (Fallible.map_eq_map_of_forall₂ (h.imp fun run run' hrun => ?_)).symm
  have hsame := congrArg (fun run : RunRow => (run.startedAt, run.completedAt)) hrun.1
  exact hsame.symm

theorem chronological_iff {store : StateStore} : Chronological store ↔
    (∀ span ∈ store.spans, span.1 ≤ span.2) ∧ store.spans.Pairwise fun earlier later => earlier.2 ≤ later.1 := by
  rw [StateStore.spans, List.pairwise_map, List.forall_mem_map]
  exact ⟨fun h => ⟨h.within, h.between⟩, fun h => ⟨h.1, h.2⟩⟩

theorem Chronological.delivered {store store' : StateStore} (h : Chronological store) (hsame : SameHistory store store') :
    Chronological store' := by
  rw [chronological_iff] at h ⊢
  rwa [hsame.spans]

/-- **A commit stores its run last**: it started after every stored run ended. -/
theorem IsCommitted.chronological {report : RunReport} {suppress : Bool} {cutoff : Timestamp} {store : StateStore}
    {committed : Committed} {latching : Latching} {persisted : StateStore}
    (h : IsCommitted report suppress cutoff store committed latching persisted) (hbefore : Chronological store) :
    Chronological committed.store := by
  obtain ⟨run, hruns, hrecords⟩ := h.records
  obtain ⟨horder, hlatest⟩ := h.clock
  have hpersisted : Chronological persisted := by
    constructor
    · intro stored hstored
      rw [hruns] at hstored
      rcases List.mem_append.mp hstored with hold | hnew
      · exact hbefore.within stored hold
      · rw [List.mem_singleton.mp hnew, hrecords.startedAt, hrecords.completedAt]
        exact horder
    · rw [hruns, List.pairwise_append]
      refine ⟨hbefore.between, List.pairwise_singleton _ _, fun old hold new hnew => ?_⟩
      rw [List.mem_singleton.mp hnew, hrecords.startedAt]
      exact hlatest old hold
  -- retention takes runs away
  have hkept : committed.store.runs.rows.Sublist persisted.runs.rows := by
    rw [h.pruned]
    exact List.filter_sublist
  exact ⟨fun run hrun => hpersisted.within run (hkept.subset hrun), hpersisted.between.sublist hkept⟩

/-- **Every transaction keeps the runs in order.** -/
theorem kept_chronological : Kept Chronological where
  commit hs _ ok := by
    obtain ⟨latching, persisted, hcommitted⟩ := commitRun_eq_ok ok
    exact hcommitted.chronological hs
  claim hs ok := hs.delivered (keeps_of_claim ok).1
  record hs ok := hs.delivered (keeps_of_record ok).1
  refresh hs ok := hs.delivered (keeps_of_refresh ok).1

theorem CheckReachable.chronological {store : StateStore} (h : CheckReachable store) : Chronological store :=
  h.kept kept_chronological ⟨fun _ hrun => absurd hrun List.not_mem_nil, List.Pairwise.nil⟩

/-! ### Readings -/

/-- The upstream samples of a run are timed by its end. -/
theorem timestamp_of_readingOf {entry : RunRow × TargetRow} {key : String × String} {sample : UpstreamSample}
    (h : readingOf entry = .ok (key, some sample)) : sample.timestamp = entry.1.completedAt.asSecond := by
  simp only [readingOf, Fallible.bind_eq_ok_iff] at h
  obtain ⟨counters, -, h⟩ := h
  obtain ⟨-, hsome⟩ := Prod.mk.inj (Except.ok.inj h)
  obtain ⟨known, -, rfl⟩ := Option.map_eq_some_iff.mp hsome
  rfl

/-- **Upstream samples are in order of time**, and each is of a stored run. -/
theorem upstreamSamples_sorted {store : StateStore} {sinceUnixSeconds : ℤ} {samples : List UpstreamSample}
    (h : store.loadUpstreamSamples sinceUnixSeconds = .ok samples) :
    (samples.Pairwise fun a b => a.timestamp ≤ b.timestamp) ∧
      ∀ sample ∈ samples, ∃ run ∈ store.runs.rows, sample.timestamp = run.completedAt.asSecond := by
  obtain ⟨readings, hkeyed, h⟩ := Fallible.bind_eq_ok_iff.mp h
  obtain rfl := Except.ok.inj h
  have hread := StateStore.keyedReadings_eq_ok hkeyed
  have hrows : (store.completeObservations sinceUnixSeconds).Sublist (observations store) := List.filter_sublist
  constructor
  · rw [List.pairwise_filterMap]
    refine Fallible.pairwise_of_forall₂ ?_ hread ((observations_sorted store).sublist hrows)
    rintro entry entry' ⟨key, reading⟩ ⟨key', reading'⟩ hreading hreading' hle sample hsome sample' hsome'
    obtain rfl : reading = some sample := hsome
    obtain rfl : reading' = some sample' := hsome'
    rw [timestamp_of_readingOf hreading, timestamp_of_readingOf hreading']
    exact Timestamp.asSecond_mono hle
  · intro sample hsample
    obtain ⟨⟨key, reading⟩, hmem, hsome⟩ := List.mem_filterMap.mp hsample
    obtain rfl : reading = some sample := hsome
    obtain ⟨entry, hentry, hreading⟩ := Fallible.exists_of_forall₂_right hread _ hmem
    exact ⟨entry.1, (mem_observations.mp (hrows.subset hentry)).1, timestamp_of_readingOf hreading⟩

/-! ### The clock of a check -/

namespace Circumstances

variable {c : Circumstances} {store : StateStore}

/-- The clock runs backwards before the check can commit. -/
def Regresses (c : Circumstances) (store : StateStore) : Prop :=
  c.completed < c.started ∨ ∃ latest, store.latestCompletedAt = some latest ∧ c.started < latest

/-- **A check whose clock regresses** fails, and leaves what its recovery leaves. -/
theorem Regresses.unchanged (h : c.Regresses store) :
    (∀ left ∈ crashStates (checkWithSink c.inputs) store,
      left ∈ crashStates (StateStore.recoverInterruptedAttempts c.started) store) ∧
      ∃ error, (checkWithSink c.inputs store).2 = .error error := by
  rcases h with hcompleted | ⟨latest, hlatest, hbehind⟩
  · refine (checkWithSink_of_unobserved store fun recovered now => ?_).fails rfl List.mem_cons_self
    cases hobserved : c.observation recovered now with
    | error error => exact ⟨error, hobserved⟩
    | ok report =>
      obtain ⟨_, -, horder, -⟩ := observation_eq_ok hobserved
      exact absurd hcompleted (not_lt.mpr horder)
  · have hbehind : c.inputs.started < latest := hbehind
    obtain ⟨hleft, herror⟩ := (checkWithSink_of_behind hlatest hbehind).fails rfl rfl
    exact ⟨fun left hmem => hleft left hmem ▸ List.mem_cons_self, herror⟩

/-- What a check evaluates is not later than the check. -/
structure Follows (c : Circumstances) (recovered : List DeliveryActivity) (now : StateStore) : Prop where
  order : c.started ≤ c.completed
  targetSamples : ∀ since samples, now.loadTargetSamples since = .ok samples →
    ∀ sample ∈ samples, sample.timestamp ≤ c.started.asSecond
  upstreamSamples : ∀ since samples, now.loadUpstreamSamples since = .ok samples →
    ∀ sample ∈ samples, sample.timestamp ≤ c.started.asSecond
  age : ∀ report, c.observation recovered now = .ok report →
    ∀ aggregate ∈ report.aggregate, 0 ≤ aggregate.baselineAgeSeconds

/-- **A check whose clock does not regress** follows every stored run. -/
theorem follows_of_not_regresses (h : ¬c.Regresses store) {now : StateStore} (hsame : SameHistory store now)
    (recovered : List DeliveryActivity) : c.Follows recovered now := by
  obtain ⟨horder, hlatest⟩ := not_or.mp h
  have horder := not_lt.mp horder
  have hended : ∀ run ∈ now.runs.rows, run.completedAt ≤ c.started := by
    intro run hrun
    obtain ⟨old, hold, hdelivered⟩ := Fallible.exists_of_forall₂_right hsame run hrun
    obtain ⟨latest, hsome, hle⟩ := StateStore.le_latestCompletedAt hold
    rw [hdelivered.observed.2.1]
    exact hle.trans (not_lt.mp fun hbehind => hlatest ⟨latest, hsome, hbehind⟩)
  have hsamples : ∀ since samples, now.loadTargetSamples since = .ok samples →
      ∀ sample ∈ samples, sample.timestamp ≤ c.started.asSecond := by
    intro since samples hload sample hsample
    obtain ⟨entry, hentry, -, -, hread⟩ := StateStore.mem_samples hload hsample
    rw [(StateStore.sampleOf_eq_ok hread).2.2]
    exact Timestamp.asSecond_mono (hended entry.1 (mem_observations.mp hentry).1)
  refine ⟨horder, hsamples, fun since samples hload sample hsample => ?_, fun report hreport aggregate haggregate => ?_⟩
  · obtain ⟨run, hrun, htime⟩ := (upstreamSamples_sorted hload).2 sample hsample
    rw [htime]
    exact Timestamp.asSecond_mono (hended run hrun)
  · obtain ⟨evaluated, hphase, -, rfl⟩ := observation_eq_ok hreport
    obtain ⟨_, _, samples, _, result, hload, -, hresult, rfl⟩ := aggregate_of_phase hphase haggregate
    exact baselineAgeSeconds_nonneg hresult fun sample hsample =>
      (hsamples _ samples hload sample hsample).trans (Timestamp.asSecond_mono horder)

end Circumstances

/-- **Stored runs are chronological**, whatever the clock of any check. A check
whose clock regresses changes nothing but what recovery changes; what is loaded
is in order of time, and no check that goes on is earlier than any of it, so the
age of a baseline is never negative. -/
theorem checks_chronological {store : StateStore} (h : CheckReachable store) :
    Chronological store ∧
      (∀ c : Circumstances, c.Regresses store →
        (∀ left ∈ crashStates (checkWithSink c.inputs) store,
          left ∈ crashStates (StateStore.recoverInterruptedAttempts c.started) store) ∧
        ∃ error, (checkWithSink c.inputs store).2 = .error error) ∧
      (∀ since samples, store.loadTargetSamples since = .ok samples →
        samples.Pairwise fun a b => a.timestamp ≤ b.timestamp) ∧
      (∀ since samples, store.loadUpstreamSamples since = .ok samples →
        samples.Pairwise fun a b => a.timestamp ≤ b.timestamp) ∧
      ∀ c : Circumstances, ¬c.Regresses store → ∀ recovered now,
        Returns (StateStore.recoverInterruptedAttempts c.started) store recovered now → c.Follows recovered now := by
  refine ⟨h.chronological, fun c => Circumstances.Regresses.unchanged, fun _ _ => StateStore.samples_sorted,
    fun _ _ hload => (upstreamSamples_sorted hload).1, fun c hclock recovered now hreturns => ?_⟩
  have hkept := ((spec_recover_keeps c.started store) store ⟨.refl _, .refl _⟩).2 recovered now hreturns
  exact Circumstances.follows_of_not_regresses hclock hkept.1.1 recovered

/-- Two checks, one after the other. -/
theorem checks_chronological_twice : ∃ store, CheckReachable store ∧
    store.spans = [(second 1, second 1), (second 5, second 5)] ∧ Chronological store := by
  have hany : (checkWithSink (apiCheck "first" .active 1) .empty).1.any (fun store =>
      (checkWithSink (apiCheck "next" .clear 5) store).1.any fun store =>
        store.spans = [(second 1, second 1), (second 5, second 5)]) := by decide +kernel
  obtain ⟨first, hfirst, hany⟩ := List.any_eq_true.mp hany
  obtain ⟨next, hnext, hspans⟩ := List.any_eq_true.mp hany
  have hreachable : CheckReachable next :=
    .check _ (.check _ .empty (List.mem_cons_of_mem _ hfirst)) (List.mem_cons_of_mem _ hnext)
  exact ⟨next, hreachable, of_decide_eq_true hspans, (checks_chronological hreachable).1⟩

end Sentinel

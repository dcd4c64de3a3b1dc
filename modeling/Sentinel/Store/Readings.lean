/-
# The readings of stored observations

The join of the observations with their upstreams, folded into readings, is
one reading for each complete observation, in order: its counters if all are
known, and nothing otherwise. An observation without upstreams has no unknown
counter, so its reading is empty rather than absent.

Key theorems: `keyedReadings_eq_ok`, `mem_keyedReadings_iff`.
-/
import Sentinel.Store.Load

namespace Sentinel

open Collections

/-! ### One observation -/

/-- The key of an observation's reading. -/
def readingKey (entry : RunRow × TargetRow) : String × String := (entry.1.id, entry.2.targetId)

/-- The counters of a stored observation, if all are known. -/
def TargetRow.counters (row : TargetRow) : Except StoreError (Option (List UpstreamCounter)) := do
  return (← (orderBy (·.ordinal) row.upstreams.rows).mapM (·.counter)).mapM id

/-- The reading of a stored observation. -/
def readingOf (entry : RunRow × TargetRow) : Except StoreError UpstreamReading := do
  return (readingKey entry, (← entry.2.counters).map fun upstreams =>
    ⟨entry.2.targetId, entry.1.startedAt.asSecond, entry.1.completedAt.asSecond, upstreams⟩)

/-- Counters extend a reading one by one, or end it. -/
theorem foldl_extendReading (sample : UpstreamSample) (counters : List (Option UpstreamCounter)) :
    counters.foldl (fun entry counter => extendReading counter entry) (some sample) =
      (counters.mapM id).map fun known => { sample with upstreams := sample.upstreams ++ known } := by
  have hnone : ∀ counters : List (Option UpstreamCounter),
      counters.foldl (fun entry counter => extendReading counter entry) none = none := by
    intro counters
    induction counters with
    | nil => rfl
    | cons counter counters ih => exact ih
  induction counters generalizing sample with
  | nil => simp
  | cons counter counters ih =>
    rw [List.foldl_cons]
    cases counter with
    | none => exact hnone counters
    | some counter =>
      show counters.foldl _ (some { sample with upstreams := sample.upstreams ++ [counter] }) = _
      rw [ih, List.mapM_cons]
      cases counters.mapM id <;> simp

/-- The rows of an observation extend its reading. -/
theorem foldlM_addReading_upstreams {run : RunRow} {row : TargetRow} {rest : List UpstreamReading} :
    ∀ {upstreams : List UpstreamRow} {entry : Option UpstreamSample} {result : List UpstreamReading},
    (upstreams.map fun upstream => (⟨run, row, some upstream⟩ : UpstreamJoin)).foldlM addReading
      (((run.id, row.targetId), entry) :: rest) = .ok result →
    ∃ counters, upstreams.mapM (·.counter) = .ok counters ∧
      result = ((run.id, row.targetId), counters.foldl (fun entry counter => extendReading counter entry) entry) :: rest
  | [], entry, result, h => by
    obtain rfl := Except.ok.inj h
    exact ⟨[], rfl, rfl⟩
  | upstream :: upstreams, entry, result, h => by
    rw [List.map_cons, List.foldlM_cons, Fallible.bind_eq_ok_iff] at h
    obtain ⟨next, hnext, h⟩ := h
    have hsame : withReading ⟨run, row, some upstream⟩ (((run.id, row.targetId), entry) :: rest) =
        ((run.id, row.targetId), entry) :: rest := if_pos rfl
    simp only [addReading, hsame, Fallible.bind_eq_ok_iff] at hnext
    obtain ⟨counter, hcounter, hnext⟩ := hnext
    obtain rfl := Except.ok.inj hnext
    obtain ⟨counters, hcounters, rfl⟩ := foldlM_addReading_upstreams h
    refine ⟨counter :: counters, ?_, rfl⟩
    rw [List.mapM_cons, hcounter, hcounters]
    rfl

/-- **An observation adds its reading.** -/
theorem foldlM_addReading_observation {entry : RunRow × TargetRow} {readings result : List UpstreamReading}
    (hnew : ∀ reading ∈ readings, reading.1 ≠ readingKey entry)
    (h : (joinUpstreams entry.1 entry.2).foldlM addReading readings = .ok result) :
    ∃ reading, readingOf entry = .ok reading ∧ result = reading :: readings := by
  obtain ⟨run, row⟩ := entry
  have hwith : ∀ upstream : Option UpstreamRow,
      withReading ⟨run, row, upstream⟩ readings = emptyReading run row :: readings := by
    intro upstream
    cases readings with
    | nil => rfl
    | cons last rest => exact if_neg (hnew last List.mem_cons_self)
  cases hu : orderBy (·.ordinal) row.upstreams.rows with
  | nil =>
    simp only [joinUpstreams, hu, List.foldlM_cons, List.foldlM_nil, addReading, hwith] at h
    obtain rfl := Except.ok.inj h
    refine ⟨emptyReading run row, ?_, rfl⟩
    simp only [readingOf, TargetRow.counters, hu]
    rfl
  | cons upstream upstreams =>
    simp only [joinUpstreams, hu] at h
    -- the first row opens the reading, as if it were there already
    have hopen : (((upstream :: upstreams).map fun upstream => (⟨run, row, some upstream⟩ : UpstreamJoin)).foldlM
        addReading (emptyReading run row :: readings)) = .ok result := by
      have hsame : withReading ⟨run, row, some upstream⟩ (emptyReading run row :: readings) =
          withReading ⟨run, row, some upstream⟩ readings := by
        rw [hwith]
        exact if_pos rfl
      rw [List.map_cons, List.foldlM_cons] at h ⊢
      simpa only [addReading, hsame] using h
    obtain ⟨counters, hcounters, rfl⟩ := foldlM_addReading_upstreams hopen
    refine ⟨_, ?_, rfl⟩
    rw [foldl_extendReading]
    simp only [readingOf, TargetRow.counters, hu, hcounters]
    rfl

/-! ### All observations -/

/-- **Observations add their readings**, in order. -/
theorem foldlM_addReading : ∀ {entries : List (RunRow × TargetRow)} {readings result : List UpstreamReading},
    (entries.map readingKey).Nodup → (∀ entry ∈ entries, ∀ reading ∈ readings, reading.1 ≠ readingKey entry) →
    (entries.flatMap fun (run, row) => joinUpstreams run row).foldlM addReading readings = .ok result →
    ∃ added, List.Forall₂ (fun entry reading => readingOf entry = .ok reading) entries added ∧
      result = added.reverse ++ readings
  | [], readings, result, _, _, h => by
    obtain rfl := Except.ok.inj h
    exact ⟨[], .nil, rfl⟩
  | entry :: entries, readings, result, hnodup, hnew, h => by
    rw [List.flatMap_cons, List.foldlM_append, Fallible.bind_eq_ok_iff] at h
    obtain ⟨next, hnext, h⟩ := h
    obtain ⟨reading, hreading, rfl⟩ := foldlM_addReading_observation (hnew entry List.mem_cons_self) hnext
    rw [List.map_cons, List.nodup_cons] at hnodup
    have hkey : reading.1 = readingKey entry := by
      simp only [readingOf, Fallible.bind_eq_ok_iff] at hreading
      obtain ⟨_, -, hreading⟩ := hreading
      rw [← Except.ok.inj hreading]
    have hnew' : ∀ other ∈ entries, ∀ r ∈ reading :: readings, r.1 ≠ readingKey other := by
      intro other hother r hr
      rcases List.mem_cons.mp hr with rfl | hr
      · rw [hkey]
        exact fun he => hnodup.1 (List.mem_map.mpr ⟨other, hother, he.symm⟩)
      · exact hnew other (List.mem_cons_of_mem _ hother) r hr
    obtain ⟨added, hadded, rfl⟩ := foldlM_addReading hnodup.2 hnew' h
    refine ⟨reading :: added, .cons hreading hadded, ?_⟩
    rw [List.reverse_cons, List.append_assoc, List.singleton_append]

namespace StateStore

variable {store : StateStore}

/-- An observation has a run and a target of its own. -/
theorem nodup_observations : ((observations store).map readingKey).Nodup := by
  have hruns : (orderBy (·.completedAt) store.runs.rows).Pairwise fun a b => a.id ≠ b.id :=
    List.pairwise_map.mp (((perm_orderBy _ _).map _).nodup_iff.mpr store.runs.distinct)
  rw [observations, List.map_flatMap, List.nodup_flatMap]
  constructor
  · intro run _
    rw [List.map_map]
    have htargets : ((orderBy (·.targetId) run.targets.rows).map (·.targetId)).Nodup :=
      ((perm_orderBy _ _).map _).nodup_iff.mpr run.targets.distinct
    rw [show readingKey ∘ (fun row => (run, row)) = (fun id => (run.id, id)) ∘ fun row => row.targetId from rfl,
      ← List.map_map]
    exact htargets.map fun _ _ h => (Prod.mk.inj h).2
  · refine hruns.imp fun {a b} hne key ha hb => ?_
    simp only [List.mem_map] at ha hb
    obtain ⟨_, ⟨_, -, rfl⟩, rfl⟩ := ha
    obtain ⟨_, ⟨_, -, rfl⟩, he⟩ := hb
    exact hne (Prod.mk.inj he).1.symm

/-- The complete observations of the runs that completed since an instant. -/
def completeObservations (store : StateStore) (sinceUnixSeconds : ℤ) : List (RunRow × TargetRow) :=
  (observations store).filter fun (run, row) =>
    row.complete && decide (sinceUnixSeconds * nanosecondsPerSecond ≤ run.completedAt.nanoseconds)

/-- **The readings are those of the complete observations**, in order. -/
theorem keyedReadings_eq_ok {sinceUnixSeconds : ℤ} {readings : List UpstreamReading}
    (h : store.keyedReadings sinceUnixSeconds = .ok readings) :
    List.Forall₂ (fun entry reading => readingOf entry = .ok reading) (store.completeObservations sinceUnixSeconds)
      readings.reverse := by
  simp only [keyedReadings, Fallible.bind_eq_ok_iff, Fallible.demand_eq_ok_iff] at h
  obtain ⟨since, hsince, since', hcanonical, h⟩ := h
  obtain rfl := canonicalTimestamp_eq_ok hcanonical
  have hnanoseconds : since'.nanoseconds = sinceUnixSeconds * nanosecondsPerSecond := by
    unfold Timestamp.new at hsince
    dsimp only at hsince
    split at hsince
    · rw [← Option.some.inj hsince]
      exact Int.add_zero _
    · cases hsince
  have hrows : ((observations store).filter fun (run, row) => row.complete && since' ≤ run.completedAt) =
      store.completeObservations sinceUnixSeconds := by
    refine List.filter_congr fun entry _ => ?_
    simp only [Timestamp.le_iff, hnanoseconds]
  rw [hrows] at h
  obtain ⟨added, hadded, rfl⟩ := foldlM_addReading (nodup_observations.sublist (List.filter_sublist.map _))
    (fun _ _ _ hr => absurd hr List.not_mem_nil) h
  rwa [List.append_nil, List.reverse_reverse]

/-- **When a stored observation has a reading**: it is complete, its run
completed since the instant, and its counters are all known. -/
theorem mem_keyedReadings_iff {sinceUnixSeconds : ℤ} {readings : List UpstreamReading}
    (h : store.keyedReadings sinceUnixSeconds = .ok readings) {run : RunRow} (hrun : run ∈ store.runs.rows)
    {row : TargetRow} (hrow : row ∈ run.targets.rows) :
    (∃ sample, ((run.id, row.targetId), some sample) ∈ readings) ↔
      row.complete ∧ sinceUnixSeconds * nanosecondsPerSecond ≤ run.completedAt.nanoseconds ∧
        ∃ known, row.counters = .ok (some known) := by
  have hall := keyedReadings_eq_ok h
  constructor
  · rintro ⟨sample, hm⟩
    obtain ⟨entry, hentry, hreading⟩ := Fallible.exists_of_forall₂_right hall _ (List.mem_reverse.mpr hm)
    simp only [readingOf, Fallible.bind_eq_ok_iff] at hreading
    obtain ⟨counters, hcounters, hreading⟩ := hreading
    obtain ⟨hkey, hsome⟩ := Prod.mk.inj (Except.ok.inj hreading)
    obtain ⟨hentry, hkept⟩ := List.mem_filter.mp hentry
    have hown : (run, row) ∈ observations store := mem_observations.mpr ⟨hrun, hrow⟩
    obtain rfl := List.inj_on_of_nodup_map nodup_observations hentry hown hkey
    obtain ⟨known, rfl, -⟩ := Option.map_eq_some_iff.mp hsome
    simp only [Bool.and_eq_true, decide_eq_true_eq] at hkept
    exact ⟨hkept.1, hkept.2, known, hcounters⟩
  · rintro ⟨hcomplete, hsince, known, hknown⟩
    have hentry : (run, row) ∈ store.completeObservations sinceUnixSeconds := by
      refine List.mem_filter.mpr ⟨mem_observations.mpr ⟨hrun, hrow⟩, ?_⟩
      simp only [hcomplete, Bool.true_and, decide_eq_true_eq]
      exact hsince
    obtain ⟨reading, hm, hreading⟩ := Fallible.exists_of_forall₂_left hall _ hentry
    simp only [readingOf, hknown] at hreading
    obtain rfl := Except.ok.inj hreading
    exact ⟨_, List.mem_reverse.mp hm⟩

end StateStore

/-! ### Unknown counts -/

/-- An observation whose upstreams all have unknown counts has its counters
known just when it has no upstreams. -/
theorem counters_of_unknown {row : TargetRow} (h : ∀ upstream ∈ row.upstreams.rows, upstream.responses = none) :
    (∃ known, row.counters = .ok (some known)) ↔ row.upstreams.rows = [] := by
  have hcounters : (orderBy (·.ordinal) row.upstreams.rows).mapM (·.counter) =
      .ok ((orderBy (·.ordinal) row.upstreams.rows).map fun _ => none) := by
    rw [Fallible.mapM_eq_ok_iff, List.forall₂_map_right_iff, List.forall₂_same]
    intro upstream hm
    rw [UpstreamRow.counter, h upstream (mem_orderBy.mp hm)]
    rfl
  have hperm := perm_orderBy (·.ordinal) row.upstreams.rows
  simp only [TargetRow.counters, hcounters]
  cases hu : orderBy (·.ordinal) row.upstreams.rows with
  | nil =>
    rw [hu] at hperm
    exact ⟨fun _ => List.nil_perm.mp hperm, fun _ => ⟨[], rfl⟩⟩
  | cons upstream upstreams =>
    constructor
    · rintro ⟨known, hknown⟩
      cases hknown
    · intro hnil
      rw [hu, hnil] at hperm
      cases List.perm_nil.mp hperm

end Sentinel

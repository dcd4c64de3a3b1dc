/-
# Group windows and the windows of their members

The group's reading of a run is the sum of its members' readings, and a group
window is the difference of two such sums. It is the sum of the members' own
windows when every member has one; but only the sums are inspected, so a
member whose counter restarted can be made up for by another
(`masked_reset`). The property therefore holds of a check's windows exactly
when none of them masks a member (`groupWindows_iff`).

Key theorems: `sums_of_mem_combinedRuns`, `sums_currentPoint`,
`evaluateAggregate_eq`, `groupWindows_iff`.
-/
import Sentinel.Core.Evaluate
import Sentinel.Lib.Fallible
import Mathlib.Algebra.Order.BigOperators.Group.List
import Mathlib.Algebra.GroupWithZero.Nat

namespace Sentinel

/-! ### A member's own readings -/

/-- A member's reading in a run: its first sample. -/
def memberReading (samples : List TargetSample) (runId id : String) : Option Reading :=
  (samples.find? fun sample => sample.runId = runId && sample.targetId = id).map TargetSample.reading

theorem memberReading_concat (samples : List TargetSample) (x : TargetSample) (runId id : String) :
    memberReading (samples ++ [x]) runId id =
      (memberReading samples runId id).or
        (if x.runId = runId ∧ x.targetId = id then some x.reading else none) := by
  unfold memberReading
  rw [List.find?_append]
  cases samples.find? fun sample => sample.runId = runId && sample.targetId = id with
  | some s => rfl
  | none => by_cases h : x.runId = runId ∧ x.targetId = id <;> simp [h]

/-- The samples of one run were taken at one time, as they are loaded. -/
def SameRunSameTime (samples : List TargetSample) : Prop :=
  ∀ s ∈ samples, ∀ t ∈ samples, s.runId = t.runId → s.timestamp = t.timestamp

instance (samples : List TargetSample) : Decidable (SameRunSameTime samples) := by
  unfold SameRunSameTime; infer_instance

/-- A field of the readings of some members, summed; nothing for a missing one. -/
def total (member : String → Option Reading) (field : Reading → UInt64) (ids : List String) : ℕ :=
  (ids.map fun id => ((member id).map fun reading => (field reading).toNat).getD 0).sum

theorem total_congr {member member' : String → Option Reading} (field : Reading → UInt64) {ids : List String}
    (h : ∀ id ∈ ids, member id = member' id) : total member field ids = total member' field ids := by
  unfold total
  rw [List.map_congr_left fun id hid => by rw [h id hid]]

/-! ### The sums of a run -/

/-- An entry holds the declared members that have a reading among the
samples, and their sums. -/
structure Summed (config : BehavioralBaselineConfig) (samples : List TargetSample) (entry : CombinedEntry) :
    Prop where
  nodup : entry.members.Nodup
  mem_iff : ∀ id, id ∈ entry.members ↔
    id ∈ config.targetIds ∧ (memberReading samples entry.runId id).isSome
  queries : entry.queries.toNat = total (memberReading samples entry.runId) Reading.queries entry.members
  blocked : entry.blocked.toNat = total (memberReading samples entry.runId) Reading.blocked entry.members

/-- What `CombinedEntry.add` can do. -/
theorem add_cases {sample : TargetSample} {entry entry' : CombinedEntry}
    (h : CombinedEntry.add sample entry = some entry') :
    ((entry.runId ≠ sample.runId ∨ sample.targetId ∈ entry.members) ∧ entry' = entry) ∨
    (entry.runId = sample.runId ∧ sample.targetId ∉ entry.members ∧ ∃ queries blocked,
      entry.queries.toNat + sample.queries.toNat = queries.toNat ∧
      entry.blocked.toNat + sample.blocked.toNat = blocked.toNat ∧
      entry' = { entry with members := entry.members ++ [sample.targetId], queries, blocked }) := by
  unfold CombinedEntry.add at h
  split at h
  case isTrue hc => exact .inl ⟨hc, (Option.some.inj h).symm⟩
  case isFalse hc =>
    push Not at hc
    simp only [Option.bind_eq_bind, Option.bind_eq_some_iff] at h
    obtain ⟨queries, hq, blocked, hb, h⟩ := h
    exact .inr ⟨hc.1, hc.2, queries, blocked, checkedAdd_eq_some.mp hq, checkedAdd_eq_some.mp hb,
      (Option.some.inj h).symm⟩

theorem add_runId {sample : TargetSample} {entry entry' : CombinedEntry}
    (h : CombinedEntry.add sample entry = some entry') :
    entry'.runId = entry.runId ∧ entry'.timestamp = entry.timestamp := by
  rcases add_cases h with ⟨-, rfl⟩ | ⟨-, -, _, _, -, -, rfl⟩ <;> exact ⟨rfl, rfl⟩

section Sample

variable {config : BehavioralBaselineConfig} {samples : List TargetSample} {x : TargetSample} {entry : CombinedEntry}

/-- A declared target that is not a member has no reading. -/
theorem Summed.memberReading_eq_none (h : Summed config samples entry) {id : String} (hdeclared : id ∈ config.targetIds)
    (hnew : id ∉ entry.members) : memberReading samples entry.runId id = none := by
  by_contra hsome
  exact hnew ((h.mem_iff _).mpr ⟨hdeclared, Option.isSome_iff_ne_none.mpr hsome⟩)

/-- A sample of another run, or of a member, changes no first reading. -/
theorem Summed.kept (h : Summed config samples entry) (hold : entry.runId ≠ x.runId ∨ x.targetId ∈ entry.members) :
    Summed config (samples ++ [x]) entry := by
  have hsame : ∀ id, (id ∈ config.targetIds ∧ (memberReading (samples ++ [x]) entry.runId id).isSome ↔
      id ∈ config.targetIds ∧ (memberReading samples entry.runId id).isSome) ∧
      (id ∈ entry.members → memberReading (samples ++ [x]) entry.runId id = memberReading samples entry.runId id) := by
    intro id
    rw [memberReading_concat]
    by_cases hx : x.runId = entry.runId ∧ x.targetId = id
    · obtain ⟨hxr, rfl⟩ := hx
      have hmem := hold.resolve_left (not_not.mpr hxr.symm)
      obtain ⟨reading, hr⟩ := Option.isSome_iff_exists.mp ((h.mem_iff _).mp hmem).2
      simp [hr]
    · simp [hx]
  exact
    { nodup := h.nodup
      mem_iff := fun id => (h.mem_iff id).trans (hsame id).1.symm
      queries := h.queries.trans (total_congr _ fun id hid => ((hsame id).2 hid).symm)
      blocked := h.blocked.trans (total_congr _ fun id hid => ((hsame id).2 hid).symm) }

/-- A new member joins with its reading. -/
theorem Summed.joined (h : Summed config samples entry) (hdeclared : x.targetId ∈ config.targetIds)
    (hrun : entry.runId = x.runId) (hnew : x.targetId ∉ entry.members) {queries blocked : UInt64}
    (hqueries : entry.queries.toNat + x.queries.toNat = queries.toNat)
    (hblocked : entry.blocked.toNat + x.blocked.toNat = blocked.toNat) :
    Summed config (samples ++ [x]) { entry with members := entry.members ++ [x.targetId], queries, blocked } := by
  have hx : memberReading (samples ++ [x]) entry.runId x.targetId = some x.reading := by
    rw [memberReading_concat, h.memberReading_eq_none hdeclared hnew, if_pos ⟨hrun.symm, rfl⟩]
    rfl
  have hother : ∀ id, id ≠ x.targetId →
      memberReading (samples ++ [x]) entry.runId id = memberReading samples entry.runId id := fun id hid => by
    rw [memberReading_concat, if_neg fun he => hid he.2.symm, Option.or_none]
  have hsum : ∀ field : Reading → UInt64,
      total (memberReading (samples ++ [x]) entry.runId) field (entry.members ++ [x.targetId]) =
        total (memberReading samples entry.runId) field entry.members + (field x.reading).toNat := by
    intro field
    have hcongr := total_congr field fun id (hid : id ∈ entry.members) => hother id fun he => hnew (he ▸ hid)
    rw [← hcongr]
    simp [total, hx]
  refine ⟨?_, fun id => ?_, ?_, ?_⟩
  · exact List.nodup_append.mpr ⟨h.nodup, List.nodup_singleton _, by
      rintro a ha b hb rfl
      exact hnew (List.mem_singleton.mp hb ▸ ha)⟩
  · rw [List.mem_append, List.mem_singleton]
    by_cases hid : id = x.targetId
    · subst hid
      simp [hx, hdeclared]
    · rw [hother id hid, ← h.mem_iff]
      simp [hid]
  · rw [hsum, ← h.queries]
    exact hqueries.symm
  · rw [hsum, ← h.blocked]
    exact hblocked.symm

/-- **One more sample of a declared member.** -/
theorem Summed.add {entry' : CombinedEntry} (hdeclared : x.targetId ∈ config.targetIds) (h : Summed config samples entry)
    (hadd : CombinedEntry.add x entry = some entry') : Summed config (samples ++ [x]) entry' := by
  rcases add_cases hadd with ⟨hold, rfl⟩ | ⟨hrun, hnew, queries, blocked, hqueries, hblocked, rfl⟩
  · exact h.kept hold
  · exact h.joined hdeclared hrun hnew hqueries hblocked

end Sample

/-- What the entries hold after some samples: one entry a run that a declared
member reported in, with the sums, at the time of one of its samples. -/
structure Combines (config : BehavioralBaselineConfig) (samples : List TargetSample)
    (entries : List CombinedEntry) : Prop where
  summed : ∀ entry ∈ entries, Summed config samples entry
  timed : ∀ entry ∈ entries, ∃ s ∈ samples, s.runId = entry.runId ∧ s.timestamp = entry.timestamp
  covered : ∀ s ∈ samples, s.targetId ∈ config.targetIds → ∃ entry ∈ entries, entry.runId = s.runId

/-- An entry just made for a run has no members, and none of its declared members has a reading. -/
theorem Combines.summed_withEntry {config : BehavioralBaselineConfig} {samples : List TargetSample}
    {entries : List CombinedEntry} (h : Combines config samples entries) (x : TargetSample) {entry : CombinedEntry}
    (hentry : entry ∈ withEntry x entries) :
    Summed config samples entry ∧ ∃ s ∈ samples ++ [x], s.runId = entry.runId ∧ s.timestamp = entry.timestamp := by
  unfold withEntry at hentry
  split at hentry
  case isTrue =>
    obtain ⟨s, hs, hr⟩ := h.timed entry hentry
    exact ⟨h.summed entry hentry, s, List.mem_append_left _ hs, hr⟩
  case isFalse hnone =>
    rcases List.mem_append.mp hentry with hentry | hentry
    · obtain ⟨s, hs, hr⟩ := h.timed entry hentry
      exact ⟨h.summed entry hentry, s, List.mem_append_left _ hs, hr⟩
    · obtain rfl := List.mem_singleton.mp hentry
      refine ⟨⟨List.nodup_nil, fun id => ?_, rfl, rfl⟩, x, by simp, rfl, rfl⟩
      simp only [List.not_mem_nil, false_iff, not_and]
      intro hid hsome
      obtain ⟨reading, hr⟩ := Option.isSome_iff_exists.mp hsome
      obtain ⟨s, hs, -⟩ := Option.map_eq_some_iff.mp hr
      have hp := List.find?_some hs
      simp only [Bool.and_eq_true, decide_eq_true_eq] at hp
      obtain ⟨entry, he, her⟩ := h.covered s (List.mem_of_find?_eq_some hs) (hp.2 ▸ hid)
      exact hnone (List.any_eq_true.mpr ⟨entry, he, by simpa using her.trans hp.1⟩)

theorem Combines.step {config : BehavioralBaselineConfig} {samples : List TargetSample} {x : TargetSample}
    {entries entries' : List CombinedEntry} (h : Combines config samples entries)
    (hstep : combineSample config entries x = some entries') : Combines config (samples ++ [x]) entries' := by
  unfold combineSample at hstep
  split at hstep
  case isFalse hnot =>
    obtain rfl := Option.some.inj hstep
    have hkeep : ∀ entry : CombinedEntry, ∀ id ∈ config.targetIds,
        memberReading (samples ++ [x]) entry.runId id = memberReading samples entry.runId id := by
      intro entry id hid
      have hne : ¬(x.runId = entry.runId ∧ x.targetId = id) := fun he => hnot (he.2 ▸ hid)
      rw [memberReading_concat, if_neg hne, Option.or_none]
    refine ⟨fun entry hentry => ?_, fun entry hentry => ?_, fun s hs hdeclared => ?_⟩
    · obtain ⟨h1, h2, h3, h4⟩ := h.summed entry hentry
      refine ⟨h1, fun id => ?_, h3.trans ?_, h4.trans ?_⟩
      · rw [h2]
        exact and_congr_right fun hid => by rw [hkeep entry id hid]
      all_goals exact total_congr _ fun id hid => (hkeep entry id ((h2 id).mp hid).1).symm
    · obtain ⟨s, hs, hr⟩ := h.timed entry hentry
      exact ⟨s, List.mem_append_left _ hs, hr⟩
    · rcases List.mem_append.mp hs with hs | hs
      · exact h.covered s hs hdeclared
      · exact absurd (List.mem_singleton.mp hs ▸ hdeclared) hnot
  case isTrue hdeclared =>
    have hall := Fallible.mapM_eq_some_iff.mp hstep
    have hsummed := fun entry (hentry : entry ∈ withEntry x entries) => h.summed_withEntry x hentry
    refine ⟨fun entry' hentry' => ?_, fun entry' hentry' => ?_, fun s hs hdec => ?_⟩
    · obtain ⟨entry, hentry, hadd⟩ := Fallible.exists_of_forall₂_right hall entry' hentry'
      exact (hsummed entry hentry).1.add hdeclared hadd
    · obtain ⟨entry, hentry, hadd⟩ := Fallible.exists_of_forall₂_right hall entry' hentry'
      obtain ⟨h1, h2⟩ := add_runId hadd
      rw [h1, h2]
      exact (hsummed entry hentry).2
    · have hin : ∃ entry ∈ withEntry x entries, entry.runId = s.runId := by
        unfold withEntry
        rcases List.mem_append.mp hs with hs | hs
        · obtain ⟨entry, he, hr⟩ := h.covered s hs hdec
          split
          · exact ⟨entry, he, hr⟩
          · exact ⟨entry, List.mem_append_left _ he, hr⟩
        · obtain rfl := List.mem_singleton.mp hs
          split
          case isTrue hany =>
            obtain ⟨entry, he, hr⟩ := List.any_eq_true.mp hany
            exact ⟨entry, he, by simpa using hr⟩
          case isFalse => exact ⟨⟨s.runId, [], s.timestamp, 0, 0⟩, by simp, rfl⟩
      obtain ⟨entry, he, hr⟩ := hin
      obtain ⟨entry', he', hadd⟩ := Fallible.exists_of_forall₂_left hall entry he
      exact ⟨entry', he', (add_runId hadd).1.trans hr⟩

theorem combines_foldlM {config : BehavioralBaselineConfig} {samples : List TargetSample}
    {entries : List CombinedEntry} (h : samples.foldlM (combineSample config) [] = some entries) :
    Combines config samples entries := by
  have h0 : Combines config [] ([] : List CombinedEntry) := ⟨by simp, by simp, by simp⟩
  have := Fallible.foldlM_some (I := Combines config) (fun _ _ _ _ h hstep => h.step hstep) h0 h
  rwa [List.nil_append] at this

/-! ### Points of the group -/

/-- The group's counters at one time, with what each member's own were. -/
structure GroupPoint where
  combined : Reading
  member : String → Option Reading

/-- The point is the sum of its members, read at the same time. -/
structure GroupPoint.Sums (config : BehavioralBaselineConfig) (point : GroupPoint) : Prop where
  member : ∀ id ∈ config.targetIds, ∃ reading, point.member id = some reading ∧
    reading.timestamp = point.combined.timestamp
  queries : point.combined.queries.toNat = total point.member Reading.queries config.targetIds
  blocked : point.combined.blocked.toNat = total point.member Reading.blocked config.targetIds

/-- A run's entry as a point. -/
def CombinedEntry.point (samples : List TargetSample) (entry : CombinedEntry) : GroupPoint :=
  ⟨entry.reading, memberReading samples entry.runId⟩

/-- A member's current counters. -/
def memberNow (targetReports : List TargetReport) (nowUnixSeconds : ℤ) (id : String) : Option Reading := do
  let report ← Collections.findLast (·.id = id) targetReports
  let operational ← report.operational
  return ⟨nowUnixSeconds, operational.queries, operational.blocked⟩

/-- **A combined run is the sum of its members.** -/
theorem sums_of_mem_combinedRuns {config : BehavioralBaselineConfig} {samples : List TargetSample}
    {entries : List CombinedEntry} (htime : SameRunSameTime samples)
    (h : combinedRuns config samples = some entries) {entry : CombinedEntry} (hentry : entry ∈ entries) :
    (entry.point samples).Sums config := by
  obtain ⟨all, hall, rfl⟩ := Option.map_eq_some_iff.mp h
  have hc := combines_foldlM hall
  obtain ⟨hmem, hlength⟩ := List.mem_filter.mp hentry
  obtain ⟨hnodup, hiff, hqueries, hblocked⟩ := hc.summed entry hmem
  obtain ⟨s, hs, hrun, hts⟩ := hc.timed entry hmem
  -- as many distinct declared members as were declared: all of them
  have hperm : entry.members.Perm config.targetIds :=
    (List.subperm_of_subset hnodup fun id hid => ((hiff id).mp hid).1).perm_of_length_le
      (by simpa using (of_decide_eq_true hlength).ge)
  have htotal : ∀ field, total (memberReading samples entry.runId) field entry.members =
      total (memberReading samples entry.runId) field config.targetIds :=
    fun field => (hperm.map _).sum_eq
  refine ⟨fun id hid => ?_, hqueries.trans (htotal _), hblocked.trans (htotal _)⟩
  obtain ⟨reading, hr⟩ := Option.isSome_iff_exists.mp ((hiff id).mp (hperm.mem_iff.mpr hid)).2
  refine ⟨reading, hr, ?_⟩
  obtain ⟨t, ht, rfl⟩ := Option.map_eq_some_iff.mp hr
  have hp := List.find?_some ht
  simp only [Bool.and_eq_true, decide_eq_true_eq] at hp
  exact (htime t (List.mem_of_find?_eq_some ht) s hs (hp.1.trans hrun.symm)).trans hts

theorem foldlM_checkedAdd {α : Type} (f : α → UInt64) : ∀ (items : List α) (start result : UInt64),
    items.foldlM (fun sum item => checkedAdd sum (f item)) start = some result →
    result.toNat = start.toNat + (items.map fun item => (f item).toNat).sum
  | [], start, result, h => by
    obtain rfl : start = result := by simpa using h
    simp
  | item :: items, start, result, h => by
    rw [List.foldlM_cons, Option.bind_eq_bind, Option.bind_eq_some_iff] at h
    obtain ⟨next, hnext, h⟩ := h
    rw [foldlM_checkedAdd f items next result h, ← checkedAdd_eq_some.mp hnext, List.map_cons, List.sum_cons,
      Nat.add_assoc]

/-- **The current point is the sum of its members.** -/
theorem sums_currentPoint {config : BehavioralBaselineConfig} {targetReports : List TargetReport}
    {members : List (TargetReport × OperationalObservation)} {nowUnixSeconds : ℤ} {combined : Reading}
    (hmembers : groupMembers config targetReports = some members)
    (hcombined : currentCombined members nowUnixSeconds = some combined) :
    (GroupPoint.mk combined (memberNow targetReports nowUnixSeconds)).Sums config := by
  have hall : List.Forall₂ (fun id (member : TargetReport × OperationalObservation) =>
      memberNow targetReports nowUnixSeconds id = some ⟨nowUnixSeconds, member.2.queries, member.2.blocked⟩)
      config.targetIds members := (Fallible.mapM_eq_some_iff.mp hmembers).imp fun id member h => by
    simp only [Option.bind_eq_bind, Option.bind_eq_some_iff] at h
    obtain ⟨report, hreport, operational, hoperational, h⟩ := h
    split at h
    · obtain rfl := Option.some.inj h
      simp [memberNow, hreport, hoperational]
    · cases h
  have htotal : ∀ (field : Reading → UInt64) (f : TargetReport × OperationalObservation → UInt64),
      (∀ member, field ⟨nowUnixSeconds, member.2.queries, member.2.blocked⟩ = f member) →
      total (memberNow targetReports nowUnixSeconds) field config.targetIds =
        (members.map fun member => (f member).toNat).sum := by
    intro field f hf
    unfold total
    congr 1
    exact Fallible.map_eq_map_of_forall₂ (hall.imp fun id member h => by simp [h, hf])
  simp only [currentCombined, Option.bind_eq_bind, Option.bind_eq_some_iff] at hcombined
  obtain ⟨queries, hqueries, blocked, hblocked, h⟩ := hcombined
  obtain rfl := Option.some.inj h
  refine ⟨fun id hid => ?_, ?_, ?_⟩
  · obtain ⟨member, -, h⟩ := Fallible.exists_of_forall₂_left hall id hid
    exact ⟨_, h, rfl⟩
  · rw [htotal Reading.queries (·.2.queries) fun _ => rfl]
    simpa using foldlM_checkedAdd _ _ _ _ hqueries
  · rw [htotal Reading.blocked (·.2.blocked) fun _ => rfl]
    simpa using foldlM_checkedAdd _ _ _ _ hblocked

/-! ### The windows of a check -/

/-- The successive points a check looks for group windows between: past ones
that end in its local hour, and the last one with the current one. -/
def measuredPairs (packages : Packages) (config : BehavioralBaselineConfig) (samples : List TargetSample)
    (targetReports : List TargetReport) (nowUnixSeconds : ℤ) (localHour : UInt8) :
    List (GroupPoint × GroupPoint) :=
  match groupMembers config targetReports, combinedRuns config samples with
  | some members, some entries =>
    match currentCombined members nowUnixSeconds with
    | none => []
    | some combined =>
      let points := entries.map (CombinedEntry.point samples)
      (Collections.pairs points).filter (fun (_, current) =>
        localHourOf packages current.combined.timestamp config.timeZone = some localHour) ++
      points.getLast?.toList.map fun previous => (previous, ⟨combined, memberNow targetReports nowUnixSeconds⟩)
  | _, _ => []

def pairWindow (localHour : UInt8) (pair : GroupPoint × GroupPoint) : Option RateWindow :=
  windowBetween pair.1.combined pair.2.combined localHour

theorem pairs_map {α β : Type} (f : α → β) (items : List α) :
    Collections.pairs (items.map f) = (Collections.pairs items).map fun pair => (f pair.1, f pair.2) := by
  unfold Collections.pairs
  rw [← List.map_tail, List.zip_map]
  rfl

theorem mem_of_mem_pairs {α : Type} {items : List α} {pair : α × α} (h : pair ∈ Collections.pairs items) :
    pair.1 ∈ items ∧ pair.2 ∈ items :=
  ⟨(List.of_mem_zip h).1, List.mem_of_mem_tail (List.of_mem_zip h).2⟩

/-- The history of a subject, from the pairs that end in the local hour. -/
theorem sameHourWindows_eq (packages : Packages) (timeZone : String) (localHour : UInt8) (readings : List Reading) :
    sameHourWindows packages timeZone localHour readings =
      ((Collections.pairs readings).filter fun (_, current) =>
        localHourOf packages current.timestamp timeZone = some localHour).filterMap fun (previous, current) =>
          windowBetween previous current localHour := by
  unfold sameHourWindows
  rw [List.filterMap_filter]
  refine List.filterMap_congr fun pair _ => ?_
  cases hhour : localHourOf packages pair.2.timestamp timeZone with
  | none => simp [hhour]
  | some hour => by_cases h : hour = localHour <;> simp [hhour, h]

/-- **The aggregate's conditions rest on the windows of the measured pairs.**
The current window is that of the last pair, and the history that of the
others. -/
theorem evaluateAggregate_eq {packages : Packages} {config : BehavioralBaselineConfig} {profile : ConditionProfile}
    {samples : List TargetSample} {targetReports : List TargetReport} {nowUnixSeconds utcOffsetMinutes : ℤ}
    {localHour : UInt8} {result : AggregateEvaluation}
    (h : evaluateAggregate packages config profile samples targetReports nowUnixSeconds localHour
      utcOffsetMinutes = some result) :
    ∃ past last, measuredPairs packages config samples targetReports nowUnixSeconds localHour =
        past ++ Option.toList last ∧
      result.evaluations = behavioralEvaluations .aggregate profile result.observation.baselineReady
        (past.filterMap (pairWindow localHour)) (last.bind (pairWindow localHour))
        config.minimumSameHourSamples := by
  simp only [evaluateAggregate, Option.bind_eq_bind, Option.bind_eq_some_iff] at h
  obtain ⟨members, hmembers, combined, hcombined, readings, hreadings, h⟩ := h
  obtain ⟨entries, hentries, rfl⟩ := Option.map_eq_some_iff.mp hreadings
  obtain rfl := Option.some.inj h
  simp only [measuredPairs, hmembers, hentries, hcombined]
  refine ⟨_, (entries.map (CombinedEntry.point samples)).getLast?.map fun previous =>
    (previous, ⟨combined, memberNow targetReports nowUnixSeconds⟩), congrArg (HAppend.hAppend _) ?_, ?_⟩
  · cases (entries.map (CombinedEntry.point samples)).getLast? <;> rfl
  have hreading : entries.map CombinedEntry.reading =
      (entries.map (CombinedEntry.point samples)).map GroupPoint.combined := by
    rw [List.map_map]
    rfl
  congr 1
  · rw [hreading, sameHourWindows_eq, pairs_map, List.filter_map, List.filterMap_map]
    rfl
  · rw [hreading, List.getLast?_map]
    cases (entries.map (CombinedEntry.point samples)).getLast? <;> rfl

/-! ### Masked resets -/

/-- How far a counter rose between two readings. -/
def rise (field : Reading → UInt64) (previous current : Reading) : ℕ :=
  (field current - field previous).toNat

/-- A pair's group window, if there is one, is the sum of windows of the
members. -/
def WindowIsSum (config : BehavioralBaselineConfig) (localHour : UInt8) (pair : GroupPoint × GroupPoint) : Prop :=
  ∀ window, pairWindow localHour pair = some window →
    ∃ own : String → Reading × Reading,
      (∀ id ∈ config.targetIds, pair.1.member id = some (own id).1 ∧ pair.2.member id = some (own id).2 ∧
        (windowBetween (own id).1 (own id).2 localHour).isSome) ∧
      window.queries.toNat = (config.targetIds.map fun id => rise Reading.queries (own id).1 (own id).2).sum ∧
      rise Reading.blocked pair.1.combined pair.2.combined =
        (config.targetIds.map fun id => rise Reading.blocked (own id).1 (own id).2).sum

/-- What some members counted in all can be differenced: neither sum went
backwards, and no more was blocked than queried. -/
def TotalsRise (ids : List String) (previous current : String → Option Reading) : Prop :=
  total previous Reading.queries ids ≤ total current Reading.queries ids ∧
  total previous Reading.blocked ids ≤ total current Reading.blocked ids ∧
  total current Reading.blocked ids - total previous Reading.blocked ids ≤
    total current Reading.queries ids - total previous Reading.queries ids

/-- No member's restart is made up for by the others: wherever what the members
counted in all rose within the gap, so did what each counted. -/
def Unmasked (config : BehavioralBaselineConfig) (pair : GroupPoint × GroupPoint) : Prop :=
  TotalsRise config.targetIds pair.1.member pair.2.member →
  ∀ id ∈ config.targetIds, ∀ previous current, pair.1.member id = some previous →
    pair.2.member id = some current → withinGap previous.timestamp current.timestamp → CountersRise previous current

/-- The group's counters rose just when the members' did in all. -/
theorem GroupPoint.Sums.countersRise_iff {config : BehavioralBaselineConfig} {previous current : GroupPoint}
    (h₁ : previous.Sums config) (h₂ : current.Sums config) :
    CountersRise previous.combined current.combined ↔ TotalsRise config.targetIds previous.member current.member := by
  rw [CountersRise, h₁.queries, h₁.blocked, h₂.queries, h₂.blocked]
  rfl

theorem sum_rise {config : BehavioralBaselineConfig} (field : Reading → UInt64)
    {previous current : String → Option Reading} {own : String → Reading × Reading}
    (hown : ∀ id ∈ config.targetIds, previous id = some (own id).1 ∧ current id = some (own id).2)
    (hrise : ∀ id ∈ config.targetIds, (field (own id).1).toNat ≤ (field (own id).2).toNat) :
    total previous field config.targetIds +
        (config.targetIds.map fun id => rise field (own id).1 (own id).2).sum =
      total current field config.targetIds := by
  unfold total
  rw [← List.sum_map_add]
  congr 1
  refine List.map_congr_left fun id hid => ?_
  obtain ⟨h1, h2⟩ := hown id hid
  have hle := hrise id hid
  rw [h1, h2, rise, UInt64.toNat_sub_of_le _ _ (UInt64.le_iff_toNat_le.mpr hle)]
  simp only [Option.map_some, Option.getD_some]
  omega

/-- **A pair's window is the sum of its members' when it masks none.** -/
theorem windowIsSum_iff {config : BehavioralBaselineConfig} {localHour : UInt8} {pair : GroupPoint × GroupPoint}
    (h₁ : pair.1.Sums config) (h₂ : pair.2.Sums config) :
    WindowIsSum config localHour pair ↔ Unmasked config pair := by
  constructor
  · intro h hrise id hid previous current hprevious hcurrent hgap
    -- the members were read when the group was
    obtain ⟨r₁, hr₁, ht₁⟩ := h₁.member id hid
    obtain ⟨r₂, hr₂, ht₂⟩ := h₂.member id hid
    obtain rfl := Option.some.inj (hr₁.symm.trans hprevious)
    obtain rfl := Option.some.inj (hr₂.symm.trans hcurrent)
    rw [ht₁, ht₂] at hgap
    obtain ⟨window, hwindow⟩ := Option.isSome_iff_exists.mp
      ((windowBetween_isSome_iff pair.1.combined pair.2.combined localHour).mpr
        ⟨hgap, (h₁.countersRise_iff h₂).mpr hrise⟩)
    obtain ⟨own, hown, -, -⟩ := h window hwindow
    obtain ⟨h1, h2, hsome⟩ := hown id hid
    obtain rfl := Option.some.inj (hprevious.symm.trans h1)
    obtain rfl := Option.some.inj (hcurrent.symm.trans h2)
    exact ((windowBetween_isSome_iff _ _ _).mp hsome).2
  · intro h window hwindow
    obtain ⟨hgap, hrise⟩ := (windowBetween_isSome_iff pair.1.combined pair.2.combined localHour).mp
      (Option.isSome_iff_exists.mpr ⟨window, hwindow⟩)
    let own : String → Reading × Reading := fun id =>
      ((pair.1.member id).getD pair.1.combined, (pair.2.member id).getD pair.2.combined)
    have hown : ∀ id ∈ config.targetIds, pair.1.member id = some (own id).1 ∧
        pair.2.member id = some (own id).2 ∧ (own id).1.timestamp = pair.1.combined.timestamp ∧
        (own id).2.timestamp = pair.2.combined.timestamp := by
      intro id hid
      obtain ⟨r₁, hr₁, ht₁⟩ := h₁.member id hid
      obtain ⟨r₂, hr₂, ht₂⟩ := h₂.member id hid
      simp [own, hr₁, hr₂, ht₁, ht₂]
    have hrises : ∀ id ∈ config.targetIds, CountersRise (own id).1 (own id).2 := by
      intro id hid
      obtain ⟨hprevious, hcurrent, ht₁, ht₂⟩ := hown id hid
      rw [← ht₁, ← ht₂] at hgap
      exact h ((h₁.countersRise_iff h₂).mp hrise) id hid _ _ hprevious hcurrent hgap
    have hpair : ∀ id ∈ config.targetIds,
        pair.1.member id = some (own id).1 ∧ pair.2.member id = some (own id).2 :=
      fun id hid => ⟨(hown id hid).1, (hown id hid).2.1⟩
    refine ⟨own, fun id hid => ⟨(hpair id hid).1, (hpair id hid).2, ?_⟩, ?_, ?_⟩
    · rw [windowBetween_isSome_iff, (hown id hid).2.2.1, (hown id hid).2.2.2]
      exact ⟨hgap, hrises id hid⟩
    · have hsum := sum_rise Reading.queries hpair fun id hid => (hrises id hid).1
      rw [windowBetween_queries hwindow, UInt64.toNat_sub_of_le _ _ (UInt64.le_iff_toNat_le.mpr hrise.1),
        h₁.queries, h₂.queries]
      omega
    · have hsum := sum_rise Reading.blocked hpair fun id hid => (hrises id hid).2.1
      rw [rise, UInt64.toNat_sub_of_le _ _ (UInt64.le_iff_toNat_le.mpr hrise.2.1), h₁.blocked, h₂.blocked]
      omega

theorem sums_of_mem_measuredPairs {packages : Packages} {config : BehavioralBaselineConfig}
    {samples : List TargetSample} {targetReports : List TargetReport} {nowUnixSeconds : ℤ} {localHour : UInt8}
    (htime : SameRunSameTime samples) {pair : GroupPoint × GroupPoint}
    (h : pair ∈ measuredPairs packages config samples targetReports nowUnixSeconds localHour) :
    pair.1.Sums config ∧ pair.2.Sums config := by
  unfold measuredPairs at h
  split at h
  case h_2 => cases h
  rename_i members entries hmembers hentries
  split at h
  · cases h
  rename_i combined hcombined
  have hpoint : ∀ point ∈ entries.map (CombinedEntry.point samples), point.Sums config := by
    rintro point hp
    obtain ⟨entry, he, rfl⟩ := List.mem_map.mp hp
    exact sums_of_mem_combinedRuns htime hentries he
  rcases List.mem_append.mp h with h | h
  · obtain ⟨h1, h2⟩ := mem_of_mem_pairs (List.mem_of_mem_filter h)
    exact ⟨hpoint _ h1, hpoint _ h2⟩
  · obtain ⟨previous, hp, rfl⟩ := List.mem_map.mp h
    exact ⟨hpoint _ (List.mem_of_getLast? (Option.mem_toList.mp hp)), sums_currentPoint hmembers hcombined⟩

/-- **When group windows are sums of member windows.** The conditions of an
aggregate rest on the windows of the measured pairs, and these are sums of the
members' windows exactly when no pair masks a member's restart. -/
theorem groupWindows_iff (packages : Packages) (config : BehavioralBaselineConfig) (samples : List TargetSample)
    (targetReports : List TargetReport) (nowUnixSeconds : ℤ) (localHour : UInt8)
    (htime : SameRunSameTime samples) :
    (∀ profile utcOffsetMinutes result, evaluateAggregate packages config profile samples targetReports nowUnixSeconds
        localHour utcOffsetMinutes = some result →
      ∃ past last, measuredPairs packages config samples targetReports nowUnixSeconds localHour =
          past ++ Option.toList last ∧
        result.evaluations = behavioralEvaluations .aggregate profile result.observation.baselineReady
          (past.filterMap (pairWindow localHour)) (last.bind (pairWindow localHour)) config.minimumSameHourSamples) ∧
    ((∀ pair ∈ measuredPairs packages config samples targetReports nowUnixSeconds localHour,
        WindowIsSum config localHour pair) ↔
      ∀ pair ∈ measuredPairs packages config samples targetReports nowUnixSeconds localHour,
        Unmasked config pair) := by
  refine ⟨fun profile utcOffsetMinutes result => evaluateAggregate_eq, forall₂_congr fun pair hpair => ?_⟩
  obtain ⟨hprevious, hcurrent⟩ := sums_of_mem_measuredPairs htime hpair
  exact windowIsSum_iff hprevious hcurrent

/-! ### Two resolvers -/

def groupOfTwo : BehavioralBaselineConfig := ⟨["a", "b"], "UTC", 1, 1⟩

/-- One run in which `a` had counted 1000 queries and `b` 100. -/
def samplesOfTwo : List TargetSample := [⟨"run", "a", 100, 1000, 0⟩, ⟨"run", "b", 100, 100, 0⟩]

def reportOf (id : String) (queries : UInt64) : TargetReport where
  id
  name := id
  status := .complete
  complete := true
  serverVersion := none
  operational := some ⟨true, queries, 0, .ofNat 0, .ofNat 0, .ofNat 0, .ofNat 0⟩
  dns := none
  filteringEnabled := none
  rewritesEnabled := none
  upstreams := []
  filters := []
  rewrites := []
  errorKind := none
  errorDetail := none

/-- Both resolvers counted on. -/
theorem groupWindows_iff_steady :
    (measuredPairs universalTime groupOfTwo samplesOfTwo [reportOf "a" 1500, reportOf "b" 160] 400 0).length = 1 ∧
    ∀ pair ∈ measuredPairs universalTime groupOfTwo samplesOfTwo [reportOf "a" 1500, reportOf "b" 160] 400 0,
      WindowIsSum groupOfTwo 0 pair := by
  refine ⟨rfl, ?_⟩
  refine (groupWindows_iff universalTime groupOfTwo samplesOfTwo [reportOf "a" 1500, reportOf "b" 160] 400 0 ?_).2.mpr ?_
  · decide
  · intro pair hpair
    obtain rfl := List.mem_singleton.mp hpair
    intro _ id hid previous current hprevious hcurrent _
    rcases List.mem_pair.mp hid with rfl | rfl
    all_goals
      obtain rfl := Option.some.inj hprevious
      obtain rfl := Option.some.inj hcurrent
      decide

/-- **A masked restart.** `a` restarted and counted 10 queries while `b`
counted 1900: the sums rose from 1100 to 2010, so the group has a window of
910 queries and `a` has none. -/
theorem masked_reset :
    ¬∀ (packages : Packages) (config : BehavioralBaselineConfig) (samples : List TargetSample)
      (targetReports : List TargetReport) (nowUnixSeconds : ℤ) (localHour : UInt8), SameRunSameTime samples →
      ∀ pair ∈ measuredPairs packages config samples targetReports nowUnixSeconds localHour,
        WindowIsSum config localHour pair := by
  intro h
  let pair : GroupPoint × GroupPoint :=
    (⟨⟨100, 1100, 0⟩, memberReading samplesOfTwo "run"⟩,
      ⟨⟨400, 2010, 0⟩, memberNow [reportOf "a" 10, reportOf "b" 2000] 400⟩)
  have hpair := h universalTime groupOfTwo samplesOfTwo [reportOf "a" 10, reportOf "b" 2000] 400 0 (by decide) pair
    (List.mem_singleton_self _)
  obtain ⟨window, hwindow⟩ := Option.isSome_iff_exists.mp
    (show (pairWindow 0 pair).isSome = true by decide +kernel)
  obtain ⟨own, hown, -, -⟩ := hpair window hwindow
  obtain ⟨h1, h2, hsome⟩ := hown "a" (by decide)
  have e1 : (own "a").1 = ⟨100, 1000, 0⟩ := (Option.some.inj h1).symm
  have e2 : (own "a").2 = ⟨400, 10, 0⟩ := (Option.some.inj h2).symm
  rw [e1, e2] at hsome
  exact absurd hsome (by decide +kernel)

end Sentinel

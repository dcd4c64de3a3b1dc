/-
# The readings of a group

What the accumulating loop of `combined_readings` computes, without the loop:
one reading for every run in which each declared member has a sample, in the
order the runs were first seen, with the sums of the members' first samples.
Nothing is returned if some run's sums overflow on the way.

Key theorems: `accumulated_foldlM`, `foldlM_eq_none_iff`, `combinedReadings_complete`.
-/
import Sentinel.Core.GroupWindow

namespace Sentinel

variable (config : BehavioralBaselineConfig) (samples : List TargetSample)

/-- The runs with a sample of a declared member, as they are first seen. -/
def memberRuns : List String :=
  ((samples.filter (·.targetId ∈ config.targetIds)).map (·.runId)).eraseDups

/-- The first sample of a declared member in a run. -/
def firstSample (runId : String) : Option TargetSample :=
  samples.find? fun sample => sample.runId = runId && sample.targetId ∈ config.targetIds

/-- The sum of the members' first samples in a run. -/
def groupSum (field : Reading → UInt64) (runId : String) : ℕ :=
  total (memberReading samples runId) field config.targetIds

/-- The group's reading of a run that every declared member has a sample in. -/
def groupReading (runId : String) : Option Reading :=
  if ∀ id ∈ config.targetIds, (memberReading samples runId id).isSome then
    (firstSample config samples runId).map fun first =>
      ⟨first.timestamp, UInt64.ofNat (groupSum config samples Reading.queries runId),
        UInt64.ofNat (groupSum config samples Reading.blocked runId)⟩
  else none

/-- A running sum of a run leaves 64 bits, after some of the samples. -/
def Overflows : Prop :=
  ∃ taken, taken <+: samples ∧ ∃ runId,
    2 ^ 64 ≤ groupSum config taken Reading.queries runId ∨ 2 ^ 64 ≤ groupSum config taken Reading.blocked runId

/-- The sample adds nothing to the samples before it: it is of no declared
member, or repeats one in its run. -/
def Idle (before : List TargetSample) (sample : TargetSample) : Prop :=
  sample.targetId ∉ config.targetIds ∨
    ∃ earlier ∈ before, earlier.runId = sample.runId ∧ earlier.targetId = sample.targetId

variable {config samples}

/-! ### The order and the times of the entries -/

/-- A run is first seen with a sample of a declared member. -/
theorem mem_memberRuns {runId : String} : runId ∈ memberRuns config samples ↔
    ∃ sample ∈ samples, sample.targetId ∈ config.targetIds ∧ sample.runId = runId := by
  simp [memberRuns, and_assoc]

theorem memberRuns_concat_of_mem {x : TargetSample} (hdeclared : x.targetId ∈ config.targetIds) :
    memberRuns config (samples ++ [x]) =
      if x.runId ∈ memberRuns config samples then memberRuns config samples
      else memberRuns config samples ++ [x.runId] := by
  have hone : [x].filter (·.targetId ∈ config.targetIds) = [x] := by simp [hdeclared]
  have hmem : x.runId ∈ memberRuns config samples ↔
      x.runId ∈ (samples.filter (·.targetId ∈ config.targetIds)).map (·.runId) := List.mem_eraseDups
  rw [memberRuns, List.filter_append, List.map_append, hone, List.map_singleton, List.eraseDups_append]
  split_ifs with h
  · rw [List.removeAll, List.filter_singleton]
    simp [hmem.mp h, memberRuns]
  · rw [List.removeAll, List.filter_singleton]
    simp [mt hmem.mpr h, memberRuns, List.eraseDups_cons]

theorem memberRuns_concat_of_notMem {x : TargetSample} (hnot : x.targetId ∉ config.targetIds) :
    memberRuns config (samples ++ [x]) = memberRuns config samples := by
  simp [memberRuns, hnot]

theorem firstSample_concat (x : TargetSample) (runId : String) :
    firstSample config (samples ++ [x]) runId =
      (firstSample config samples runId).or
        (if x.runId = runId ∧ x.targetId ∈ config.targetIds then some x else none) := by
  unfold firstSample
  rw [List.find?_append]
  congr 1
  by_cases h : x.runId = runId ∧ x.targetId ∈ config.targetIds <;> simp [h]

theorem firstSample_eq_none {runId : String} (h : runId ∉ memberRuns config samples) :
    firstSample config samples runId = none := by
  refine List.find?_eq_none.mpr fun sample hsample => ?_
  rw [Bool.and_eq_true, decide_eq_true_eq, decide_eq_true_eq]
  rintro ⟨hrun, hdeclared⟩
  exact h (mem_memberRuns.mpr ⟨sample, hsample, hdeclared, hrun⟩)

/-- The entries are those of the runs, as they were first seen, at the times
of the runs' first samples. -/
structure Accumulated (config : BehavioralBaselineConfig) (samples : List TargetSample)
    (entries : List CombinedEntry) : Prop where
  runs : entries.map (·.runId) = memberRuns config samples
  first : ∀ entry ∈ entries, (firstSample config samples entry.runId).map (·.timestamp) = some entry.timestamp

theorem Accumulated.withEntry {entries : List CombinedEntry} (h : Accumulated config samples entries)
    {x : TargetSample} (hdeclared : x.targetId ∈ config.targetIds) :
    Accumulated config (samples ++ [x]) (withEntry x entries) := by
  have hany : entries.any (·.runId = x.runId) = true ↔ x.runId ∈ memberRuns config samples := by
    rw [← h.runs]
    simp
  have hold : ∀ entry ∈ entries,
      (firstSample config (samples ++ [x]) entry.runId).map (·.timestamp) = some entry.timestamp := by
    intro entry hentry
    obtain ⟨first, hfirst, htime⟩ := Option.map_eq_some_iff.mp (h.first entry hentry)
    rw [firstSample_concat, hfirst, Option.some_or, Option.map_some, htime]
  unfold Sentinel.withEntry
  by_cases hmem : x.runId ∈ memberRuns config samples
  · rw [if_pos (hany.mpr hmem)]
    refine ⟨?_, hold⟩
    rw [h.runs, memberRuns_concat_of_mem hdeclared, if_pos hmem]
  · rw [if_neg (mt hany.mp hmem)]
    constructor
    · rw [List.map_append, h.runs, memberRuns_concat_of_mem hdeclared, if_neg hmem, List.map_singleton]
    · intro entry hentry
      rcases List.mem_append.mp hentry with hentry | hentry
      · exact hold entry hentry
      · obtain rfl := List.mem_singleton.mp hentry
        rw [firstSample_concat, firstSample_eq_none hmem, Option.none_or, if_pos ⟨rfl, hdeclared⟩]
        rfl

/-- **One more sample** keeps the order and the times. -/
theorem Accumulated.step {entries entries' : List CombinedEntry} {x : TargetSample}
    (h : Accumulated config samples entries) (hstep : combineSample config entries x = some entries') :
    Accumulated config (samples ++ [x]) entries' := by
  unfold combineSample at hstep
  split at hstep
  case isFalse hnot =>
    obtain rfl := Option.some.inj hstep
    refine ⟨by rw [h.runs, memberRuns_concat_of_notMem hnot], fun entry hentry => ?_⟩
    rw [firstSample_concat, if_neg (fun hx => hnot hx.2), Option.or_none]
    exact h.first entry hentry
  case isTrue hdeclared =>
    have hall := Fallible.mapM_eq_some_iff.mp hstep
    have hwith := h.withEntry hdeclared
    have hruns : (Sentinel.withEntry x entries).map (·.runId) = entries'.map (·.runId) :=
      Fallible.map_eq_map_of_forall₂ (hall.imp fun _ _ hadd => (add_runId hadd).1.symm)
    refine ⟨hruns ▸ hwith.runs, fun entry' hentry' => ?_⟩
    obtain ⟨entry, hentry, hadd⟩ := Fallible.exists_of_forall₂_right hall entry' hentry'
    obtain ⟨hrun, htime⟩ := add_runId hadd
    rw [hrun, htime]
    exact hwith.first entry hentry

theorem accumulated_foldlM {entries : List CombinedEntry} (h : samples.foldlM (combineSample config) [] = some entries) :
    Accumulated config samples entries := by
  have hstart : Accumulated config [] ([] : List CombinedEntry) := ⟨rfl, by simp⟩
  have := Fallible.foldlM_some (I := Accumulated config) (fun _ _ _ _ h hstep => h.step hstep) hstart h
  rwa [List.nil_append] at this

/-! ### The sums -/

/-- A missing member adds nothing. -/
theorem total_filter (member : String → Option Reading) (field : Reading → UInt64) : ∀ ids : List String,
    total member field (ids.filter fun id => (member id).isSome) = total member field ids
  | [] => rfl
  | id :: ids => by
    have ih := total_filter member field ids
    unfold total at ih ⊢
    cases h : member id with
    | none => simp [h, ih]
    | some reading => simp [h, ih]

section Sums

variable (hnodup : config.targetIds.Nodup)

include hnodup

/-- An entry's members are the declared ones with a sample in its run. -/
theorem Summed.perm_members {entry : CombinedEntry} (h : Summed config samples entry) :
    entry.members.Perm (config.targetIds.filter fun id => (memberReading samples entry.runId id).isSome) := by
  refine (List.perm_ext_iff_of_nodup h.nodup (hnodup.filter _)).mpr fun id => ?_
  rw [h.mem_iff, List.mem_filter]

/-- An entry's sums are those of its run. -/
theorem Summed.sums {entry : CombinedEntry} (h : Summed config samples entry) :
    entry.queries.toNat = groupSum config samples Reading.queries entry.runId ∧
      entry.blocked.toNat = groupSum config samples Reading.blocked entry.runId := by
  have hsum (field : Reading → UInt64) :
      total (memberReading samples entry.runId) field entry.members = groupSum config samples field entry.runId := by
    rw [groupSum, ← total_filter _ _ config.targetIds, total, total, ((h.perm_members hnodup).map _).sum_eq]
  rw [h.queries, h.blocked]
  exact ⟨hsum _, hsum _⟩

theorem Summed.length_members {entry : CombinedEntry} (h : Summed config samples entry) :
    entry.members.length = config.targetIds.length ↔
      ∀ id ∈ config.targetIds, (memberReading samples entry.runId id).isSome := by
  rw [(h.perm_members hnodup).length_eq, List.length_filter_eq_length_iff]

/-- A member's first sample in a run adds to the run's sum. -/
theorem groupSum_concat {x : TargetSample} (hdeclared : x.targetId ∈ config.targetIds)
    (hnone : memberReading samples x.runId x.targetId = none) (field : Reading → UInt64) :
    groupSum config (samples ++ [x]) field x.runId = groupSum config samples field x.runId + (field x.reading).toNat := by
  have hperm := List.perm_cons_erase hdeclared
  have hother : ∀ id ∈ config.targetIds.erase x.targetId,
      memberReading (samples ++ [x]) x.runId id = memberReading samples x.runId id := by
    intro id hid
    have hne : x.targetId ≠ id := fun he => (hnodup.mem_erase_iff.mp hid).1 he.symm
    rw [memberReading_concat, if_neg (fun hx => hne hx.2), Option.or_none]
  have hsplit (samples : List TargetSample) : groupSum config samples field x.runId =
      ((memberReading samples x.runId x.targetId).map fun reading => (field reading).toNat).getD 0 +
        total (memberReading samples x.runId) field (config.targetIds.erase x.targetId) := by
    rw [groupSum, total, (hperm.map _).sum_eq, List.map_cons, List.sum_cons, total]
  rw [hsplit, hsplit, total_congr field hother, memberReading_concat, hnone, if_pos ⟨rfl, rfl⟩]
  simp [Nat.add_comm]

end Sums

/-- A sum of a run that no declared member has a sample in is nothing. -/
theorem groupSum_eq_zero {runId : String} (h : runId ∉ memberRuns config samples) (field : Reading → UInt64) :
    groupSum config samples field runId = 0 := by
  have hnone : ∀ id ∈ config.targetIds, memberReading samples runId id = none := by
    intro id hid
    rw [memberReading, Option.map_eq_none_iff, List.find?_eq_none]
    intro sample hsample
    rw [Bool.and_eq_true, decide_eq_true_eq, decide_eq_true_eq]
    rintro ⟨hrun, rfl⟩
    exact h (mem_memberRuns.mpr ⟨sample, hsample, hid, hrun⟩)
  have htotal : groupSum config samples field runId = total (fun _ => none) field config.targetIds :=
    total_congr field hnone
  rw [htotal, total]
  simp

theorem checkedAdd_eq_none {a b : UInt64} : checkedAdd a b = none ↔ 2 ^ 64 ≤ a.toNat + b.toNat := by
  unfold checkedAdd
  split_ifs with h <;> simp <;> omega

/-! ### Overflow -/

/-- A new member's sample fails just if a sum overflows. -/
theorem CombinedEntry.add_eq_none_iff {entry : CombinedEntry} {x : TargetSample} :
    entry.add x = none ↔ (entry.runId = x.runId ∧ x.targetId ∉ entry.members) ∧
      (2 ^ 64 ≤ entry.queries.toNat + x.queries.toNat ∨ 2 ^ 64 ≤ entry.blocked.toNat + x.blocked.toNat) := by
  unfold CombinedEntry.add
  rw [← checkedAdd_eq_none, ← checkedAdd_eq_none]
  split
  case isTrue hkept =>
    refine iff_of_false (Option.some_ne_none _) ?_
    tauto
  case isFalse hnew =>
    push Not at hnew
    rw [and_iff_right hnew]
    cases checkedAdd entry.queries x.queries <;> cases checkedAdd entry.blocked x.blocked <;> simp

/-- **The loop fails just if a running sum overflows.** -/
theorem foldlM_eq_none_iff (hnodup : config.targetIds.Nodup) :
    samples.foldlM (combineSample config) [] = none ↔ Overflows config samples := by
  constructor
  · intro h
    obtain ⟨done, x, rest, entries, rfl, hdone, hstep⟩ := Fallible.exists_of_foldlM_eq_none h
    unfold combineSample at hstep
    split at hstep
    case isFalse => cases hstep
    case isTrue hdeclared =>
      obtain ⟨entry, hentry, hadd⟩ := Fallible.exists_of_mapM_eq_none hstep
      obtain ⟨hsummed, -⟩ := (combines_foldlM hdone).summed_withEntry x hentry
      obtain ⟨hqueries, hblocked⟩ := hsummed.sums hnodup
      obtain ⟨⟨hrun, hmember⟩, hoverflow⟩ := CombinedEntry.add_eq_none_iff.mp hadd
      have hnone : memberReading done x.runId x.targetId = none :=
        hrun ▸ hsummed.memberReading_eq_none hdeclared hmember
      refine ⟨done ++ [x], ⟨rest, by simp⟩, x.runId, ?_⟩
      rw [groupSum_concat hnodup hdeclared hnone, groupSum_concat hnodup hdeclared hnone, ← hrun, ← hqueries, ← hblocked]
      exact hoverflow
  · rintro ⟨taken, ⟨rest, rfl⟩, runId, hoverflow⟩
    by_contra hsome
    rw [List.foldlM_append] at hsome
    cases htaken : taken.foldlM (combineSample config) [] with
    | none =>
      rw [htaken] at hsome
      exact hsome rfl
    | some entries =>
      by_cases hrun : runId ∈ memberRuns config taken
      · rw [← (accumulated_foldlM htaken).runs] at hrun
        obtain ⟨entry, hentry, rfl⟩ := List.mem_map.mp hrun
        obtain ⟨hqueries, hblocked⟩ := ((combines_foldlM htaken).summed entry hentry).sums hnodup
        have := entry.queries.toNat_lt
        have := entry.blocked.toNat_lt
        omega
      · rw [groupSum_eq_zero hrun, groupSum_eq_zero hrun] at hoverflow
        omega

/-! ### The readings -/

/-- **An entry whose run is complete gives the group's reading of the run.** -/
theorem groupReading_entry (hnodup : config.targetIds.Nodup) {entry : CombinedEntry}
    (hsummed : Summed config samples entry)
    (hfirst : (firstSample config samples entry.runId).map (·.timestamp) = some entry.timestamp) :
    groupReading config samples entry.runId =
      if entry.members.length = config.targetIds.length then some entry.reading else none := by
  obtain ⟨hqueries, hblocked⟩ := hsummed.sums hnodup
  obtain ⟨first, hsample, htime⟩ := Option.map_eq_some_iff.mp hfirst
  unfold groupReading
  rw [hsample, ← hqueries, ← hblocked, UInt64.ofNat_toNat, UInt64.ofNat_toNat, Option.map_some, htime]
  simp only [hsummed.length_members hnodup]
  rfl

theorem combinedReadings_of_foldlM (hnodup : config.targetIds.Nodup) {entries : List CombinedEntry}
    (h : samples.foldlM (combineSample config) [] = some entries) :
    combinedReadings config samples = some ((memberRuns config samples).filterMap (groupReading config samples)) := by
  have haccumulated := accumulated_foldlM h
  have hcombines := combines_foldlM h
  have hreadings : (memberRuns config samples).filterMap (groupReading config samples) =
      (entries.filter (·.members.length = config.targetIds.length)).map CombinedEntry.reading := by
    rw [← haccumulated.runs, List.filterMap_map, ← List.filterMap_eq_map, ← List.filterMap_eq_filter,
      List.filterMap_filterMap]
    refine List.filterMap_congr fun entry hentry => ?_
    rw [Function.comp, groupReading_entry hnodup (hcombines.summed entry hentry) (haccumulated.first entry hentry)]
    by_cases hlength : entry.members.length = config.targetIds.length <;> simp [hlength, Option.guard]
  rw [combinedReadings, combinedRuns, h, Option.map_some, Option.map_some, hreadings]

/-- A sample that adds nothing leaves the entries as they are. -/
theorem combineSample_of_idle {entries : List CombinedEntry} {x : TargetSample}
    (h : samples.foldlM (combineSample config) [] = some entries) (hidle : Idle config samples x) :
    combineSample config entries x = some entries := by
  unfold combineSample
  split_ifs with hdeclared
  · obtain ⟨earlier, hearlier, hrun, htarget⟩ := hidle.resolve_left (not_not.mpr hdeclared)
    have hcombines := combines_foldlM h
    obtain ⟨entry, hentry, hentryRun⟩ := hcombines.covered earlier hearlier (htarget ▸ hdeclared)
    have hwith : withEntry x entries = entries := by
      unfold withEntry
      exact if_pos (List.any_eq_true.mpr ⟨entry, hentry, decide_eq_true (hentryRun.trans hrun)⟩)
    have hsome : (memberReading samples x.runId x.targetId).isSome := by
      rw [memberReading, Option.isSome_map, List.find?_isSome]
      exact ⟨earlier, hearlier, by simp [hrun, htarget]⟩
    rw [hwith]
    refine Fallible.mapM_eq_some_iff.mpr (List.forall₂_same.mpr fun other hother => ?_)
    unfold CombinedEntry.add
    refine if_pos ?_
    by_cases hsame : other.runId = x.runId
    · exact .inr (((hcombines.summed other hother).mem_iff _).mpr ⟨hdeclared, hsame ▸ hsome⟩)
    · exact .inl hsame
  · rfl

theorem foldlM_idle {before after : List TargetSample} {x : TargetSample} (hidle : Idle config before x) :
    (before ++ x :: after).foldlM (combineSample config) [] = (before ++ after).foldlM (combineSample config) [] := by
  rw [List.foldlM_append, List.foldlM_append]
  cases hbefore : before.foldlM (combineSample config) [] with
  | none => rfl
  | some entries =>
    simp only [Option.bind_eq_bind, Option.bind_some, List.foldlM_cons, combineSample_of_idle hbefore hidle]

/-- **The group's readings are its complete runs.** -/
theorem combinedReadings_complete (config : BehavioralBaselineConfig) (samples : List TargetSample)
    (distinct : config.targetIds.Nodup) :
    (combinedReadings config samples = none ↔ Overflows config samples) ∧
      (¬Overflows config samples → combinedReadings config samples =
        some ((memberRuns config samples).filterMap (groupReading config samples))) ∧
      ∀ before x after, samples = before ++ x :: after → Idle config before x →
        combinedReadings config samples = combinedReadings config (before ++ after) := by
  have hnone : combinedReadings config samples = none ↔ samples.foldlM (combineSample config) [] = none := by
    simp [combinedReadings, combinedRuns]
  refine ⟨?_, ?_, ?_⟩
  · rw [hnone, foldlM_eq_none_iff distinct]
  · intro hfits
    rw [← foldlM_eq_none_iff distinct, ← Ne.eq_def, Option.ne_none_iff_exists'] at hfits
    obtain ⟨entries, hentries⟩ := hfits
    exact combinedReadings_of_foldlM distinct hentries
  · rintro before x after rfl hidle
    rw [combinedReadings, combinedReadings, combinedRuns, combinedRuns, foldlM_idle hidle]

theorem combinedReadings_complete_two :
    groupOfTwo.targetIds.Nodup ∧
      combinedReadings groupOfTwo (samplesOfTwo ++ [⟨"run", "a", 101, 5, 0⟩]) =
        combinedReadings groupOfTwo (samplesOfTwo ++ []) :=
  ⟨by decide, (combinedReadings_complete groupOfTwo _ (by decide)).2.2 samplesOfTwo ⟨"run", "a", 101, 5, 0⟩ [] rfl
    (.inr ⟨⟨"run", "a", 100, 1000, 0⟩, by decide, rfl, rfl⟩)⟩

end Sentinel

/-
# The evaluations of a check

What a check passes to the store: every target against its policy, every
target's upstreams, the rates of the declared group's members and of the
group, sorted by id. Ids of distinct conditions are distinct, with one
exception: a required rewrite is digested from its domain and answer joined
by an equals sign, which either may contain (`rewrite_texts_collide`).

Key theorems: `assembledIds_eq`, `evaluationIds_nodup_iff`.
-/
import Sentinel.Core.GroupWindow
import Sentinel.Core.Identity
import Sentinel.Lib.Fallible
import Sentinel.Lib.Table

namespace Sentinel

open Fallible (demand)

/-- How a command fails: with exit code 2, with exit code 5, or by panicking. -/
inductive CommandError where
  | invocation (text : String)
  | state (text : String)
  | panicked (text : String)
  deriving DecidableEq, Repr

/-- The profile of the declared group: that of its first member. -/
def baselineProfile (config : Config) (baseline : BehavioralBaselineConfig) : Except String ConditionProfile := do
  let first ← demand "behavioral target group is empty" baseline.targetIds.head?
  let target ← demand "behavioral target is not configured" (config.targets.find? (·.id = first))
  demand "behavioral target condition profile is missing" (config.conditionProfiles.get? target.conditionProfile)

section Assembly

variable (packages : Packages) (config : Config) (targets : List TargetReport)

def Config.policyOf (config : Config) (target : TargetConfig) : Option PolicyConfig :=
  target.policy.bind config.policies.get?

/-- What is evaluated for each configured target, given its report and profile. -/
def forTargets (evaluate : TargetConfig → ConditionProfile → TargetReport → List ConditionEvaluation) :
    Except CommandError (List ConditionEvaluation) := do
  let evaluations ← config.targets.mapM fun target => do
    let report ← demand (.panicked "every configured target has a report") (targets.find? (·.id = target.id))
    let profile ← demand (.panicked "validated condition profile reference")
      (config.conditionProfiles.get? target.conditionProfile)
    return evaluate target profile report
  return evaluations.flatten

/-- The profile a reported target's rates are judged by. -/
def behaviorProfile (aggregateProfile : ConditionProfile) (report : TargetReport) : ConditionProfile :=
  ((config.targets.find? (·.id = report.id)).bind fun declared =>
    config.conditionProfiles.get? declared.conditionProfile).getD aggregateProfile

variable (upstreamSamples : List UpstreamSample) (targetSamples : List TargetSample) (started completed : Timestamp)

/-- The rates of the declared group and of its members. -/
def assembleBehavior (baseline : BehavioralBaselineConfig) :
    Except CommandError (List ConditionEvaluation × Option AggregateEvaluation) := do
  let (localHour, utcOffsetMinutes) ← demand (.invocation "invalid behavior time zone")
    (localTimeBucket packages completed baseline.timeZone)
  let aggregateProfile ← (baselineProfile config baseline).mapError .invocation
  return (targets.flatMap fun report =>
      evaluateTargetBehavior packages baseline (behaviorProfile config aggregateProfile report) report targetSamples
        completed.asSecond localHour,
    evaluateAggregate packages baseline aggregateProfile targetSamples targets completed.asSecond localHour
      utcOffsetMinutes)

/-- The aggregate observation and the evaluations of a check. -/
def assembleEvaluations : Except CommandError (Option AggregateObservation × List ConditionEvaluation) := do
  let evaluated ← forTargets config targets fun target profile report =>
    evaluateTarget packages target (config.policyOf target) profile report started.asSecond
  let latency ← forTargets config targets fun target profile report =>
    evaluateUpstreamLatency target profile report upstreamSamples started.asSecond completed.asSecond
  match config.behavioralBaseline with
  | none => return (none, Collections.orderBy (·.id) (evaluated ++ latency))
  | some baseline =>
    let (behavior, aggregate) ← assembleBehavior packages config targets targetSamples completed baseline
    let group := match aggregate with
      | some value => value.evaluations
      | none => []
    return (aggregate.map (·.observation), Collections.orderBy (·.id) (evaluated ++ latency ++ behavior ++ group))

end Assembly

/-! ### The keys of a check -/

section Keys

variable (packages : Packages) (config : Config) (targets : List TargetReport)

/-- The aspects of a configured target, from its report. -/
def reportedAspects (aspects : TargetConfig → TargetReport → List Aspect) (target : TargetConfig) : List Aspect :=
  match targets.find? (·.id = target.id) with
  | some report => aspects target report
  | none => []

/-- The keys of what is evaluated for the configured targets. -/
def targetKeys (aspects : TargetConfig → TargetReport → List Aspect) : List ConditionKey :=
  config.targets.flatMap fun target => (reportedAspects targets aspects target).map (.target target.id)

/-- The aspects of a target against its policy. -/
def declaredAspects (target : TargetConfig) (report : TargetReport) : List Aspect :=
  targetAspects packages (config.policyOf target) report

/-- The keys of the rates of some targets. -/
def behaviorKeys (measured : TargetReport → Bool) : List ConditionKey :=
  targets.flatMap fun report =>
    (if measured report then behaviorAspects else []).map fun aspect => .target report.id (.fixed aspect)

variable {packages config targets}

theorem forTargets_ids (aspects : TargetConfig → TargetReport → List Aspect)
    {evaluate : TargetConfig → ConditionProfile → TargetReport → List ConditionEvaluation}
    {evaluations : List ConditionEvaluation}
    (hids : ∀ target profile report, (evaluate target profile report).map (·.id) =
      (aspects target report).map target.conditionId)
    (h : forTargets config targets evaluate = .ok evaluations) :
    evaluations.map (·.id) = (targetKeys config targets aspects).map ConditionKey.text := by
  obtain ⟨lists, hlists, h⟩ := Fallible.bind_eq_ok_iff.mp h
  obtain rfl := Except.ok.inj h
  have hall := Fallible.map_eq_map_of_forall₂ (f := fun target =>
      (reportedAspects targets aspects target).map target.conditionId)
    (g := fun list => list.map (·.id)) ((Fallible.mapM_eq_ok_iff.mp hlists).imp fun target list hlist => by
      obtain ⟨report, hreport, hlist⟩ := Fallible.bind_eq_ok_iff.mp hlist
      obtain ⟨profile, -, hlist⟩ := Fallible.bind_eq_ok_iff.mp hlist
      obtain rfl := Except.ok.inj hlist
      rw [hids, reportedAspects, Fallible.demand_eq_ok_iff.mp hreport])
  rw [List.map_flatten, ← hall, targetKeys, List.map_flatMap, List.flatten_eq_flatMap, List.flatMap_map]
  simp [List.map_map, Function.comp_def]

/-- **The ids of a check are the texts of its keys**, in some order: those of
the targets, of their upstreams, of their rates, and of the group. -/
theorem assembledIds_eq {upstreamSamples : List UpstreamSample} {targetSamples : List TargetSample}
    {started completed : Timestamp} {aggregate : Option AggregateObservation}
    {evaluations : List ConditionEvaluation}
    (h : assembleEvaluations packages config targets upstreamSamples targetSamples started completed =
      .ok (aggregate, evaluations)) :
    ∃ (measured : TargetReport → Bool) (group : List FixedAspect),
      (group = behaviorAspects ∨ group = []) ∧
      (evaluations.map (·.id)).Perm
        ((targetKeys config targets (declaredAspects packages config) ++
          targetKeys config targets (fun _ => upstreamAspects) ++
          behaviorKeys targets measured ++ group.map ConditionKey.aggregate).map ConditionKey.text) := by
  obtain ⟨evaluated, hevaluated, h⟩ := Fallible.bind_eq_ok_iff.mp h
  obtain ⟨latency, hlatency, h⟩ := Fallible.bind_eq_ok_iff.mp h
  have hev := forTargets_ids (declaredAspects packages config)
    (fun target profile report => evaluateTarget_ids packages target profile report _ _) hevaluated
  have hlat := forTargets_ids (fun _ => upstreamAspects)
    (fun target profile report => evaluateUpstreamLatency_ids target profile report _ _ _) hlatency
  cases hb : config.behavioralBaseline with
  | none =>
    rw [hb] at h
    obtain ⟨-, rfl⟩ := Prod.mk.inj (Except.ok.inj h)
    have hnone : behaviorKeys targets (fun _ => false) = [] :=
      List.flatMap_eq_nil_iff.mpr fun _ _ => rfl
    refine ⟨fun _ => false, [], .inr rfl, ((Collections.perm_orderBy _ _).map _).trans ?_⟩
    simp [hev, hlat, hnone]
  | some baseline =>
    rw [hb] at h
    obtain ⟨⟨behavior, group⟩, hbehavior, h⟩ := Fallible.bind_eq_ok_iff.mp h
    obtain ⟨-, rfl⟩ := Prod.mk.inj (Except.ok.inj h)
    obtain ⟨⟨localHour, offset⟩, -, hbehavior⟩ := Fallible.bind_eq_ok_iff.mp hbehavior
    obtain ⟨aggregateProfile, -, hbehavior⟩ := Fallible.bind_eq_ok_iff.mp hbehavior
    obtain ⟨rfl, rfl⟩ := Prod.mk.inj (Except.ok.inj hbehavior)
    have hrates : (targets.flatMap fun report => evaluateTargetBehavior packages baseline
          (behaviorProfile config aggregateProfile report) report targetSamples completed.asSecond localHour).map
          (·.id) =
        (behaviorKeys targets fun report => decide (report.id ∈ baseline.targetIds) && report.observed).map
          ConditionKey.text := by
      rw [behaviorKeys, List.map_flatMap, List.map_flatMap]
      refine List.flatMap_congr fun report _ => ?_
      rw [evaluateTargetBehavior_ids]
      simp
    refine ⟨fun report => decide (report.id ∈ baseline.targetIds) && report.observed, ?_⟩
    cases hgroup : evaluateAggregate packages baseline aggregateProfile targetSamples targets completed.asSecond
        localHour offset with
    | none =>
      refine ⟨[], .inr rfl, ((Collections.perm_orderBy _ _).map _).trans ?_⟩
      simp [hev, hlat, hrates]
    | some result =>
      refine ⟨behaviorAspects, .inl rfl, ((Collections.perm_orderBy _ _).map _).trans ?_⟩
      have hagg := evaluateAggregate_ids aggregateProfile hgroup
      simp [hev, hlat, hrates, hagg, Function.comp_def]

/-! ### When the keys are distinct -/

/-- The four parts of a check's evaluations, told apart by their keys. -/
def ConditionKey.part : ConditionKey → ℕ
  | .target _ (.fixed .upstreamLatency) => 1
  | .target _ (.fixed .queryRate) | .target _ (.fixed .blockedRatio)
  | .target _ (.fixed .blockingCollapsed) => 2
  | .target _ _ => 0
  | .aggregate _ => 3

theorem ne_of_part {a b : List ConditionKey} {m n : ℕ} (hmn : m ≠ n) (ha : ∀ key ∈ a, key.part = m)
    (hb : ∀ key ∈ b, key.part = n) : ∀ x ∈ a, ∀ y ∈ b, x ≠ y := by
  rintro x hx _ hy rfl
  exact hmn ((ha x hx).symm.trans (hb x hy))

theorem mem_policyAspects_part {policy : PolicyConfig} {report : TargetReport} {aspect : Aspect}
    (h : aspect ∈ policyAspects packages policy report) (id : String) :
    (ConditionKey.target id aspect).part = 0 ∧ aspect ∉ [Aspect.fixed .api, .fixed .protection, .fixed .processingLatency] := by
  simp only [policyAspects, List.mem_append, List.mem_map] at h
  rcases h with (((h | h) | ⟨_, -, rfl⟩) | h) | ⟨_, -, rfl⟩
  case inl.inl.inl.inl | inl.inl.inl.inr | inl.inr =>
    split at h
    · obtain rfl := List.mem_singleton.mp h
      exact ⟨rfl, by decide⟩
    · cases h
  all_goals exact ⟨rfl, by simp⟩

theorem targetAspects_part {policy : Option PolicyConfig} {report : TargetReport} {aspect : Aspect}
    (h : aspect ∈ targetAspects packages policy report) (id : String) :
    (ConditionKey.target id aspect).part = 0 := by
  unfold targetAspects at h
  split at h
  · simp only [List.mem_append, List.mem_singleton] at h
    rcases h with ((rfl | h) | rfl) | h
    · rfl
    · split at h
      · obtain rfl := List.mem_singleton.mp h
        rfl
      · cases h
    · rfl
    · cases policy with
      | none => cases h
      | some policy => exact (mem_policyAspects_part h id).1
  · split at h
    · cases h
    · obtain rfl := List.mem_singleton.mp h
      rfl

/-- A target's conditions are distinct unless its policy's are not. -/
theorem nodup_targetAspects_iff {policy : Option PolicyConfig} {report : TargetReport} :
    (targetAspects packages policy report).Nodup ↔
      (report.observed → ∀ p, policy = some p → (policyAspects packages p report).Nodup) := by
  unfold targetAspects
  cases report.observed with
  | false =>
    simp only [Bool.false_eq_true, if_false, false_implies, iff_true]
    split <;> simp
  | true =>
    cases policy with
    | none =>
      simp only [if_true, reduceCtorEq, false_implies, implies_true, iff_true]
      simp
    | some policy =>
      have hne : ∀ aspect ∈ policyAspects packages policy report,
          aspect ∉ [Aspect.fixed .api, .fixed .protection, .fixed .processingLatency] :=
        fun aspect h => (mem_policyAspects_part h "").2
      simp only [if_true, Option.some.injEq, forall_eq', forall_const, List.nodup_append]
      constructor
      · exact fun h => h.2.1
      · refine fun h => ⟨?_, h, fun a ha b hb => ?_⟩
        · rw [Option.bind_some]
          cases policy.protectionEnabled <;> simp
        · rintro rfl
          refine hne a hb ?_
          simp only [List.mem_append, List.mem_singleton] at ha
          rcases ha with (rfl | ha) | rfl
          · simp
          · split at ha
            · simp [List.mem_singleton.mp ha]
            · cases ha
          · simp

/-- Keys of targets with distinct ids are distinct when each target's are. -/
theorem nodup_flatMap_target_iff {α : Type} {items : List α} {id : α → String} (aspects : α → List Aspect)
    (h : (items.map id).Nodup) :
    (items.flatMap fun a => (aspects a).map (ConditionKey.target (id a))).Nodup ↔
      ∀ a ∈ items, (aspects a).Nodup := by
  have hinj : ∀ i : String, Function.Injective (ConditionKey.target i) := fun i a b hab =>
    (ConditionKey.target.inj hab).2
  rw [List.nodup_flatMap]
  constructor
  · exact fun hn a ha => (List.nodup_map_iff (hinj _)).mp (hn.1 a ha)
  · refine fun hn => ⟨fun a ha => (List.nodup_map_iff (hinj _)).mpr (hn a ha), ?_⟩
    refine (List.pairwise_map.mp h).imp fun {a b} hab key ha hb => ?_
    obtain ⟨_, -, rfl⟩ := List.mem_map.mp ha
    obtain ⟨_, -, hk⟩ := List.mem_map.mp hb
    exact hab (ConditionKey.target.inj hk).1.symm

/-- The report of each configured target. -/
theorem find?_report (hreports : (targets.map (·.id)).Perm (config.targets.map (·.id)))
    (hids : (config.targets.map (·.id)).Nodup) {target : TargetConfig} {report : TargetReport} :
    targets.find? (·.id = target.id) = some report ↔ report ∈ targets ∧ report.id = target.id := by
  let reports : Table TargetReport.id := ⟨targets, hreports.nodup_iff.mpr hids⟩
  have hfind : reports.find? target.id = some report ↔ report ∈ targets ∧ report.id = target.id :=
    Table.find?_eq_some_iff
  exact hfind

/-! Each part of the keys. -/

/-- Keys of one part, whose texts tell them apart. -/
def OfPart (part : ℕ) (keys : List ConditionKey) : Prop := ∀ key ∈ keys, key.part = part ∧ key.Separable

theorem ofPart_targetKeys {part : ℕ} {aspects : TargetConfig → TargetReport → List Aspect}
    (hslug : ∀ target ∈ config.targets, ':' ∉ target.id.toList)
    (haspects : ∀ target report, ∀ aspect ∈ aspects target report, (ConditionKey.target target.id aspect).part = part) :
    OfPart part (targetKeys config targets aspects) := by
  intro key hkey
  obtain ⟨target, ht, hkey⟩ := List.mem_flatMap.mp hkey
  obtain ⟨aspect, ha, rfl⟩ := List.mem_map.mp hkey
  refine ⟨?_, hslug target ht⟩
  unfold reportedAspects at ha
  split at ha
  · exact haspects target _ aspect ha
  · cases ha

theorem ofPart_behaviorKeys {measured : TargetReport → Bool} (hslug : ∀ report ∈ targets, ':' ∉ report.id.toList) :
    OfPart 2 (behaviorKeys targets measured) := by
  intro key hkey
  obtain ⟨report, hr, hkey⟩ := List.mem_flatMap.mp hkey
  obtain ⟨aspect, ha, rfl⟩ := List.mem_map.mp hkey
  refine ⟨?_, hslug report hr⟩
  split at ha
  · have hpart : ∀ a ∈ behaviorAspects, (ConditionKey.target report.id (.fixed a)).part = 2 := by
      simp [behaviorAspects, ConditionKey.part]
    exact hpart aspect ha
  · cases ha

theorem ofPart_aggregate (group : List FixedAspect) : OfPart 3 (group.map ConditionKey.aggregate) := by
  intro key hkey
  obtain ⟨aspect, -, rfl⟩ := List.mem_map.mp hkey
  exact ⟨rfl, trivial⟩

theorem nodup_behaviorKeys {measured : TargetReport → Bool} (hids : (targets.map (·.id)).Nodup) :
    (behaviorKeys targets measured).Nodup := by
  have hnodup := (nodup_flatMap_target_iff
    (fun report => (if measured report then behaviorAspects else []).map Aspect.fixed) hids).mpr
      fun report _ => by split <;> decide
  simpa [behaviorKeys, List.map_map, Function.comp_def] using hnodup

theorem nodup_upstreamKeys (hids : (config.targets.map (·.id)).Nodup) :
    (targetKeys config targets (fun _ => upstreamAspects)).Nodup := by
  refine (nodup_flatMap_target_iff _ hids).mpr fun target _ => ?_
  unfold reportedAspects upstreamAspects
  split
  · dsimp only
    split <;> simp
  · simp

/-- Four lists of keys, each of a part of its own, are distinct when each is. -/
theorem nodup_parts_iff {a b c d : List ConditionKey} (ha : OfPart 0 a) (hb : OfPart 1 b) (hc : OfPart 2 c)
    (hd : OfPart 3 d) :
    ((a ++ b ++ c ++ d).map ConditionKey.text).Nodup ↔ a.Nodup ∧ b.Nodup ∧ c.Nodup ∧ d.Nodup := by
  have hseparable : ∀ key ∈ a ++ b ++ c ++ d, key.Separable := by
    simp only [List.mem_append]
    rintro key (((hkey | hkey) | hkey) | hkey)
    exacts [(ha key hkey).2, (hb key hkey).2, (hc key hkey).2, (hd key hkey).2]
  have hab := ne_of_part (m := 0) (n := 1) (by decide) (fun k hk => (ha k hk).1) fun k hk => (hb k hk).1
  have hac := ne_of_part (m := 0) (n := 2) (by decide) (fun k hk => (ha k hk).1) fun k hk => (hc k hk).1
  have hbc := ne_of_part (m := 1) (n := 2) (by decide) (fun k hk => (hb k hk).1) fun k hk => (hc k hk).1
  have had := ne_of_part (m := 0) (n := 3) (by decide) (fun k hk => (ha k hk).1) fun k hk => (hd k hk).1
  have hbd := ne_of_part (m := 1) (n := 3) (by decide) (fun k hk => (hb k hk).1) fun k hk => (hd k hk).1
  have hcd := ne_of_part (m := 2) (n := 3) (by decide) (fun k hk => (hc k hk).1) fun k hk => (hd k hk).1
  rw [nodup_texts_iff hseparable]
  simp only [List.nodup_append, List.mem_append]
  constructor
  · exact fun ⟨⟨⟨ha, hb, _⟩, hc, _⟩, hd, _⟩ => ⟨ha, hb, hc, hd⟩
  · refine fun ⟨ha, hb, hc, hd⟩ => ⟨⟨⟨ha, hb, hab⟩, hc, ?_⟩, hd, ?_⟩
    · rintro key (hkey | hkey)
      exacts [hac key hkey, hbc key hkey]
    · rintro key ((hkey | hkey) | hkey)
      exacts [had key hkey, hbd key hkey, hcd key hkey]

/-- The ids of a check are distinct when each target's are. -/
theorem nodup_assembledIds_iff {upstreamSamples : List UpstreamSample} {targetSamples : List TargetSample}
    {started completed : Timestamp} {aggregate : Option AggregateObservation}
    {evaluations : List ConditionEvaluation}
    (hvalid : ∀ target ∈ config.targets, validId target.id = true)
    (hids : (config.targets.map (·.id)).Nodup)
    (hreports : (targets.map (·.id)).Perm (config.targets.map (·.id)))
    (h : assembleEvaluations packages config targets upstreamSamples targetSamples started completed =
      .ok (aggregate, evaluations)) :
    (evaluations.map (·.id)).Nodup ↔
      ∀ target ∈ config.targets, (reportedAspects targets (declaredAspects packages config) target).Nodup := by
  obtain ⟨measured, group, hgroup, hperm⟩ := assembledIds_eq h
  have hslug : ∀ target ∈ config.targets, ':' ∉ target.id.toList := fun target ht => not_mem_of_validId (hvalid target ht)
  have hslug' : ∀ report ∈ targets, ':' ∉ report.id.toList := by
    intro report hr
    obtain ⟨target, ht, hid⟩ := List.mem_map.mp (hreports.mem_iff.mp (List.mem_map_of_mem hr))
    exact hid ▸ hslug target ht
  have hdeclared : OfPart 0 (targetKeys config targets (declaredAspects packages config)) :=
    ofPart_targetKeys hslug fun target report aspect ha => targetAspects_part ha _
  have hupstream : OfPart 1 (targetKeys config targets (fun _ => upstreamAspects)) := by
    refine ofPart_targetKeys hslug fun target report aspect ha => ?_
    unfold upstreamAspects at ha
    split at ha
    · obtain rfl := List.mem_singleton.mp ha
      rfl
    · cases ha
  have hn4 : (group.map ConditionKey.aggregate).Nodup := by
    rcases hgroup with rfl | rfl <;> decide
  rw [hperm.nodup_iff, nodup_parts_iff hdeclared hupstream (ofPart_behaviorKeys hslug') (ofPart_aggregate group),
    ← nodup_flatMap_target_iff _ hids]
  exact and_iff_left ⟨nodup_upstreamKeys hids, nodup_behaviorKeys (hreports.nodup_iff.mpr hids), hn4⟩

end Keys

/-- **When a check's condition ids are distinct.** For a valid configuration
with one report a target, they are exactly when every observed target's policy
requires rewrites whose texts `domain=answer` are distinct. -/
theorem evaluationIds_nodup_iff {packages : Packages} {config : Config} {checkSecretFiles : Bool}
    {targets : List TargetReport} {upstreamSamples : List UpstreamSample} {targetSamples : List TargetSample}
    {started completed : Timestamp} {aggregate : Option AggregateObservation}
    {evaluations : List ConditionEvaluation}
    (hvalid : config.validate packages checkSecretFiles = .ok ())
    (hreports : (targets.map (·.id)).Perm (config.targets.map (·.id)))
    (hhash : ∀ id policy, config.policies.get? id = some policy → DigestsDiffer packages policy.digestedTexts)
    (h : assembleEvaluations packages config targets upstreamSamples targetSamples started completed =
      .ok (aggregate, evaluations)) :
    (evaluations.map (·.id)).Nodup ↔
      ∀ target ∈ config.targets, ∀ report ∈ targets, report.id = target.id → report.observed →
        ∀ policy, config.policyOf target = some policy →
          (policy.rewrites.required.map RequiredRewrite.text).Nodup := by
  obtain ⟨hslugs, hids⟩ := targets_of_valid hvalid
  rw [nodup_assembledIds_iff hslugs hids hreports h]
  refine forall₂_congr fun target htarget => ?_
  have hone : ∀ policy, config.policyOf target = some policy → ∀ report : TargetReport,
      (policyAspects packages policy report).Nodup ↔ (policy.rewrites.required.map RequiredRewrite.text).Nodup := by
    intro policy hpolicy report
    obtain ⟨id, -, hget⟩ := Option.bind_eq_some_iff.mp hpolicy
    exact nodup_policyAspects_iff (hhash id policy hget) (policy_of_valid hvalid hget).1
  unfold reportedAspects
  constructor
  · intro hn report hmem hid hobs policy hpolicy
    rw [(find?_report hreports hids).mpr ⟨hmem, hid⟩] at hn
    exact (hone policy hpolicy report).mp (nodup_targetAspects_iff.mp hn hobs policy hpolicy)
  · intro hall
    split
    · rename_i report hfind
      obtain ⟨hmem, hid⟩ := (find?_report hreports hids).mp hfind
      exact nodup_targetAspects_iff.mpr fun hobs policy hpolicy =>
        (hone policy hpolicy report).mpr (hall report hmem hid hobs policy hpolicy)
    · exact List.nodup_nil

/-! ### Two required rewrites -/

/-- One resolver whose policy requires some rewrites. -/
def rewritesConfig (required : List RequiredRewrite) : Config where
  schemaVersion := 1
  policies := ⟨[("home", { rewrites := { required } })], by simp⟩
  targets := [{ id := "one", name := "One", baseUrl := "https://one", auth := .none, policy := some "home" }]

/-- Packages that know one URL and some digests. -/
def packagesWith (digests : List (String × List UInt8)) : Packages :=
  { (default : Packages) with
    parseUrl := fun text =>
      if text = "https://one" then some ⟨"https", "", none, some (.domain "one"), "/", none, none⟩ else none
    parsesVersionReq := fun _ => true
    sha256 := fun bytes => ((digests.find? fun digest => digest.1.toUTF8.data.toList = bytes).map (·.2)).getD [] }

/-- Packages whose database knows universal time alone. -/
def universalPackages : Packages :=
  { packagesWith [] with timeZone := fun name => if name = "UTC" then some universalHour else none }

/-- The SHA-256 digests of the texts `a=b` and `c=d`. -/
def digestsApart : List (String × List UInt8) :=
  [("a=b", [66, 20, 79, 57, 57, 195, 255, 187, 240, 191, 139, 31, 18, 175, 251, 92, 35, 164, 197, 189, 65, 224,
      255, 103, 45, 84, 165, 117, 79, 6, 32, 88]),
    ("c=d", [124, 88, 23, 225, 3, 249, 69, 144, 66, 115, 231, 77, 135, 123, 214, 107, 232, 240, 110, 86, 140, 152,
      114, 106, 100, 130, 22, 37, 185, 204, 36, 117])]

/-- The SHA-256 digest of the text `a=b=c`. -/
def digestsCollided : List (String × List UInt8) :=
  [("a=b=c", [121, 134, 183, 165, 20, 246, 234, 252, 150, 190, 173, 0, 11, 68, 244, 142, 203, 108, 146, 194, 171,
      109, 0, 58, 28, 220, 90, 96, 150, 41, 88, 245])]

def rewritesApart : List RequiredRewrite := [⟨"a", "b", true⟩, ⟨"c", "d", true⟩]

/-- Distinct rewrites whose texts are both `a=b=c`. -/
def rewritesCollided : List RequiredRewrite := [⟨"a=b", "c", true⟩, ⟨"a", "b=c", true⟩]

def epoch : Timestamp := ⟨0, by decide, by decide⟩

theorem policyOf_rewritesConfig {required : List RequiredRewrite} {id : String} {policy : PolicyConfig}
    (h : (rewritesConfig required).policies.get? id = some policy) : policy = { rewrites := { required } } :=
  (Prod.mk.inj (List.mem_singleton.mp (SortedMap.mem_of_get? h))).2

theorem evaluationIds_nodup_iff_apart :
    ∃ aggregate evaluations,
      assembleEvaluations (packagesWith digestsApart) (rewritesConfig rewritesApart) [reportOf "one" 5] [] [] epoch
        epoch = .ok (aggregate, evaluations) ∧ (evaluations.map (·.id)).Nodup := by
  obtain ⟨⟨aggregate, evaluations⟩, h⟩ : ∃ result, assembleEvaluations (packagesWith digestsApart)
      (rewritesConfig rewritesApart) [reportOf "one" 5] [] [] epoch epoch = .ok result := ⟨_, rfl⟩
  have hvalid : (rewritesConfig rewritesApart).validate (packagesWith digestsApart) false = .ok () := by
    decide +kernel
  refine ⟨aggregate, evaluations, h, (evaluationIds_nodup_iff hvalid ?_ ?_ h).mpr ?_⟩
  · decide
  · intro id policy hpolicy
    obtain rfl := policyOf_rewritesConfig hpolicy
    unfold DigestsDiffer
    decide +kernel
  · intro target _ report _ _ _ policy hpolicy
    obtain ⟨id, -, hget⟩ := Option.bind_eq_some_iff.mp hpolicy
    obtain rfl := policyOf_rewritesConfig hget
    decide

/-- **Rewrites that collide.** The pairs `a=b`, `c` and `a`, `b=c` are distinct
and accepted, and both are digested from `a=b=c`: two evaluations of the run
have one id. -/
theorem rewrite_texts_collide :
    ¬∀ (packages : Packages) (config : Config) (checkSecretFiles : Bool) (targets : List TargetReport)
      (upstreamSamples : List UpstreamSample) (targetSamples : List TargetSample) (started completed : Timestamp)
      (aggregate : Option AggregateObservation) (evaluations : List ConditionEvaluation),
      config.validate packages checkSecretFiles = .ok () →
      (targets.map (·.id)).Perm (config.targets.map (·.id)) →
      (∀ id policy, config.policies.get? id = some policy → DigestsDiffer packages policy.digestedTexts) →
      assembleEvaluations packages config targets upstreamSamples targetSamples started completed =
        .ok (aggregate, evaluations) →
      (evaluations.map (·.id)).Nodup := by
  intro h
  obtain ⟨⟨aggregate, evaluations⟩, hok⟩ : ∃ result, assembleEvaluations (packagesWith digestsCollided)
      (rewritesConfig rewritesCollided) [reportOf "one" 5] [] [] epoch epoch = .ok result := ⟨_, rfl⟩
  have hvalid : (rewritesConfig rewritesCollided).validate (packagesWith digestsCollided) false = .ok () := by
    decide +kernel
  have hnodup := h (packagesWith digestsCollided) (rewritesConfig rewritesCollided) false [reportOf "one" 5] [] []
    epoch epoch aggregate evaluations hvalid (by decide) (fun id policy hpolicy => by
      obtain rfl := policyOf_rewritesConfig hpolicy
      unfold DigestsDiffer
      decide +kernel) hok
  have htexts := (nodup_assembledIds_iff (targets_of_valid hvalid).1 (by decide) (by decide) hok).mp hnodup _ List.mem_cons_self
  exact absurd htexts (by decide +kernel)

end Sentinel

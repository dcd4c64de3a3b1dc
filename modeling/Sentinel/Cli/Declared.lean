/-
# What a check evaluates

A configuration declares conditions of its targets one by one: those every
target has, a policy's field by field, and the rates of the declared group's
members. A check evaluates just the declared conditions of the targets it has
observed completely; of another target it evaluates the `api` condition alone,
and of the group nothing unless it has observed every member.

Over checks that do not see a condition its latch stays as it was.

Key definitions: `Config.Declares`, `Circumstances.Sees`, `Unseen`, `Withheld`.
Key theorems: `mem_reportAspects_iff`, `evaluates_iff`, `unseen_withheld`.
-/
import Sentinel.Cli.Cooldown
import Sentinel.Delivery.Logbook

namespace Sentinel

open Collections CrashTxn

/-- The configuration asks for this aspect of a target. -/
def Config.Declares (packages : Packages) (config : Config) (target : TargetConfig) : Aspect → Prop
  | .fixed .api | .fixed .processingLatency | .fixed .upstreamLatency => True
  | .fixed .protection => ∃ policy, config.policyOf target = some policy ∧ policy.protectionEnabled.isSome
  | .fixed .upstreamMode => ∃ policy, config.policyOf target = some policy ∧ policy.upstreamMode.isSome
  | .fixed .upstreamSet => ∃ policy, config.policyOf target = some policy ∧ policy.upstreamDns.isSome
  | .fixed .rewritesEnabled => ∃ policy, config.policyOf target = some policy ∧ policy.rewrites.enabled.isSome
  | .fixed .queryRate | .fixed .blockedRatio | .fixed .blockingCollapsed =>
    ∃ baseline, config.behavioralBaseline = some baseline ∧ target.id ∈ baseline.targetIds
  | .filter digest => ∃ policy, config.policyOf target = some policy ∧
    ∃ required ∈ policy.filters, shortHash packages required.url = digest
  | .rewrite digest => ∃ policy, config.policyOf target = some policy ∧
    ∃ required ∈ policy.rewrites.required, shortHash packages required.text = digest

/-- The rates of this report are judged. -/
def Config.measures (config : Config) (report : TargetReport) : Bool :=
  config.behavioralBaseline.any fun baseline => decide (report.id ∈ baseline.targetIds) && report.observed

/-! ### The keys of what was assembled -/

/-- The keys of a check: of the targets, of their upstreams, of their rates,
and of the group when it was observed. -/
def assembledKeys (packages : Packages) (config : Config) (targets : List TargetReport)
    (aggregate : Option AggregateObservation) : List ConditionKey :=
  targetKeys config targets (declaredAspects packages config) ++ targetKeys config targets (fun _ => upstreamAspects) ++
    behaviorKeys targets config.measures ++ (if aggregate.isSome then behaviorAspects else []).map .aggregate

section Assembled

variable {packages : Packages} {config : Config} {targets : List TargetReport} {upstreamSamples : List UpstreamSample}
  {targetSamples : List TargetSample} {started completed : Timestamp} {aggregate : Option AggregateObservation}
  {evaluations : List ConditionEvaluation}

/-- **The ids of a check are the texts of its keys.** -/
theorem assembledIds_measured
    (h : assembleEvaluations packages config targets upstreamSamples targetSamples started completed =
      .ok (aggregate, evaluations)) :
    (evaluations.map (·.id)).Perm ((assembledKeys packages config targets aggregate).map ConditionKey.text) := by
  unfold assembledKeys
  obtain ⟨evaluated, hevaluated, h⟩ := Fallible.bind_eq_ok_iff.mp h
  obtain ⟨latency, hlatency, h⟩ := Fallible.bind_eq_ok_iff.mp h
  have hev := forTargets_ids (declaredAspects packages config)
    (fun target profile report => evaluateTarget_ids packages target profile report _ _) hevaluated
  have hlat := forTargets_ids (fun _ => upstreamAspects)
    (fun target profile report => evaluateUpstreamLatency_ids target profile report _ _ _) hlatency
  cases hb : config.behavioralBaseline with
  | none =>
    rw [hb] at h
    obtain ⟨rfl, rfl⟩ := Prod.mk.inj (Except.ok.inj h)
    have hnone : behaviorKeys targets config.measures = [] := by
      refine List.flatMap_eq_nil_iff.mpr fun report _ => ?_
      simp [Config.measures, hb]
    refine ((perm_orderBy _ _).map _).trans ?_
    simp [hev, hlat, hnone]
  | some baseline =>
    rw [hb] at h
    obtain ⟨⟨behavior, group⟩, hbehavior, h⟩ := Fallible.bind_eq_ok_iff.mp h
    obtain ⟨rfl, rfl⟩ := Prod.mk.inj (Except.ok.inj h)
    obtain ⟨⟨localHour, offset⟩, -, hbehavior⟩ := Fallible.bind_eq_ok_iff.mp hbehavior
    obtain ⟨aggregateProfile, -, hbehavior⟩ := Fallible.bind_eq_ok_iff.mp hbehavior
    obtain ⟨rfl, rfl⟩ := Prod.mk.inj (Except.ok.inj hbehavior)
    have hrates : (targets.flatMap fun report => evaluateTargetBehavior packages baseline
          (behaviorProfile config aggregateProfile report) report targetSamples completed.asSecond localHour).map
          (·.id) = (behaviorKeys targets config.measures).map ConditionKey.text := by
      rw [behaviorKeys, List.map_flatMap, List.map_flatMap]
      refine List.flatMap_congr fun report _ => ?_
      rw [evaluateTargetBehavior_ids]
      simp [Config.measures, hb]
    refine ((perm_orderBy _ _).map _).trans ?_
    cases hgroup : evaluateAggregate packages baseline aggregateProfile targetSamples targets completed.asSecond
        localHour offset with
    | none => simp [hev, hlat, hrates]
    | some result =>
      have hagg := evaluateAggregate_ids aggregateProfile hgroup
      simp [hev, hlat, hrates, hagg, Function.comp_def]

/-- An aggregate was observed of a declared group, every member of it completely. -/
theorem members_of_assembled
    (h : assembleEvaluations packages config targets upstreamSamples targetSamples started completed =
      .ok (aggregate, evaluations)) (observed : aggregate.isSome) :
    ∃ baseline, config.behavioralBaseline = some baseline ∧
      ∀ id ∈ baseline.targetIds, ∃ report ∈ targets, report.id = id ∧ report.complete := by
  obtain ⟨_, -, h⟩ := Fallible.bind_eq_ok_iff.mp h
  obtain ⟨_, -, h⟩ := Fallible.bind_eq_ok_iff.mp h
  cases hb : config.behavioralBaseline with
  | none =>
    rw [hb] at h
    obtain ⟨rfl, -⟩ := Prod.mk.inj (Except.ok.inj h)
    cases observed
  | some baseline =>
    rw [hb] at h
    obtain ⟨⟨_, group⟩, hbehavior, h⟩ := Fallible.bind_eq_ok_iff.mp h
    obtain ⟨rfl, -⟩ := Prod.mk.inj (Except.ok.inj h)
    obtain ⟨_, -, hbehavior⟩ := Fallible.bind_eq_ok_iff.mp hbehavior
    obtain ⟨_, -, hbehavior⟩ := Fallible.bind_eq_ok_iff.mp hbehavior
    obtain ⟨-, hgroup⟩ := Prod.mk.inj (Except.ok.inj hbehavior)
    obtain ⟨value, hvalue⟩ := Option.isSome_iff_exists.mp (Option.isSome_map .. ▸ observed)
    rw [hvalue] at hgroup
    simp only [evaluateAggregate, Option.bind_eq_bind, Option.bind_eq_some_iff] at hgroup
    obtain ⟨members, hmembers, -⟩ := hgroup
    refine ⟨baseline, rfl, fun id hid => ?_⟩
    obtain ⟨member, -, hmember⟩ := Fallible.exists_of_forall₂_left (Fallible.mapM_eq_some_iff.mp hmembers) id hid
    simp only [Option.bind_eq_bind, Option.bind_eq_some_iff] at hmember
    obtain ⟨report, hfind, operational, -, hmember⟩ := hmember
    have hreport : report ∈ targets := List.mem_reverse.mp (List.mem_of_find?_eq_some hfind)
    have hof : report.id = id := by simpa using List.find?_some hfind
    refine ⟨report, hreport, hof, ?_⟩
    by_contra hcomplete
    rw [if_neg hcomplete] at hmember
    cases hmember

end Assembled

/-! ### Reports of observed targets -/

/-- **A target is observed completely, or not at all.** -/
theorem observeTarget_cases {packages : Packages} {versions : VersionPackage} {config : Config}
    {cooldown : Option TargetRuntimeState} {nowUnixSeconds : ℤ} {target : TargetConfig} {answers : Answers}
    {report : TargetReport}
    (h : observeTarget packages versions config cooldown nowUnixSeconds target answers = report) :
    (report.complete = true ∧ report.observed = true ∧ report.dns.isSome) ∨
      (report.complete = false ∧ report.observed = false ∧ report.status ≠ .complete) := by
  subst h
  unfold observeTarget
  cases pausedUntil cooldown nowUnixSeconds with
  | some retryAfter => exact .inr ⟨rfl, rfl, by simp [TargetReport.incomplete]⟩
  | none =>
    cases hobserved : observe packages versions config.observation.adguardVersionRequirement target
        (config.policyOf target) nowUnixSeconds answers with
    | ok report =>
      simp only [observe, Fallible.bind_eq_ok_iff] at hobserved
      obtain ⟨_, -, _, -, _, -, _, -, _, -, _, -, _, -, _, -, _, -, _, -, _, -, _, -, _, -, _, -, h⟩ := hobserved
      obtain rfl := Except.ok.inj h
      exact .inl ⟨rfl, rfl, rfl⟩
    | error error =>
      refine .inr ⟨rfl, rfl, ?_⟩
      show error.targetStatus ≠ .complete
      cases error <;> simp [AdGuardError.targetStatus]

/-- The aspects that a report of a target is evaluated for. -/
def reportAspects (packages : Packages) (config : Config) (target : TargetConfig) (report : TargetReport) : List Aspect :=
  declaredAspects packages config target report ++ upstreamAspects report ++
    (if config.measures report then behaviorAspects else []).map .fixed

/-- **What a report is evaluated for**: what is declared, if it is complete, and
whether it is. -/
theorem mem_reportAspects_iff {packages : Packages} {config : Config} {target : TargetConfig} {report : TargetReport}
    (hid : report.id = target.id) (hcases : (report.complete = true ∧ report.observed = true ∧ report.dns.isSome) ∨
      (report.complete = false ∧ report.observed = false ∧ report.status ≠ .complete)) {aspect : Aspect} :
    aspect ∈ reportAspects packages config target report ↔
      config.Declares packages target aspect ∧ (aspect = .fixed .api ∨ report.complete) := by
  rcases hcases with ⟨hcomplete, hobserved, hdns⟩ | ⟨hcomplete, hobserved, hstatus⟩
  · have hrates : config.measures report = true ↔
        ∃ baseline, config.behavioralBaseline = some baseline ∧ target.id ∈ baseline.targetIds := by
      simp [Config.measures, hobserved, hid, Option.any_eq_true]
    simp only [reportAspects, declaredAspects, targetAspects, upstreamAspects, hobserved, hcomplete, if_true, or_true,
      and_true]
    cases hpolicy : config.policyOf target with
    | none =>
      rcases aspect with aspect | digest | digest
      · cases aspect <;> simp [Config.Declares, hpolicy, behaviorAspects, ← hrates]
      · simp [Config.Declares, hpolicy]
      · simp [Config.Declares, hpolicy]
    | some policy =>
      rcases aspect with aspect | digest | digest
      · cases aspect <;> simp [Config.Declares, hpolicy, behaviorAspects, policyAspects, hdns, ← hrates]
      · simp [Config.Declares, hpolicy, policyAspects]
      · simp [Config.Declares, hpolicy, policyAspects]
  · have hmeasures : config.measures report = false := by
      simp [Config.measures, hobserved]
    simp only [reportAspects, declaredAspects, targetAspects, upstreamAspects, hobserved, hcomplete, hmeasures, hstatus,
      Bool.false_eq_true, if_false, List.map_nil, List.append_nil, List.mem_singleton, or_false]
    exact ⟨fun h => ⟨by rw [h]; trivial, h⟩, fun h => h.2⟩

/-! ### What a check evaluates -/

namespace Circumstances

variable (c : Circumstances)

/-- The check knows what this condition asks of the resolvers. -/
def Sees (store : StateStore) : ConditionKey → Prop
  | .target id aspect => ∃ target ∈ c.config.targets, target.id = id ∧ c.config.Declares c.packages target aspect ∧
      (aspect = .fixed .api ∨ (c.reportOf store target).complete)
  | .aggregate aspect => aspect ∈ behaviorAspects ∧ ∃ baseline, c.config.behavioralBaseline = some baseline ∧
      ∀ target ∈ c.config.targets, target.id ∈ baseline.targetIds → (c.reportOf store target).complete

variable {c} {store : StateStore} {recovered : List DeliveryActivity} {report : RunReport}

theorem mem_observed_iff {found : TargetReport} : found ∈ orderBy (·.id) (c.observed store) ↔
    ∃ target ∈ c.config.targets, c.reportOf store target = found := by
  rw [mem_orderBy, observed, (c.finished_perm _).mem_iff, List.mem_map]
  rfl

theorem reportOf_id (target : TargetConfig) : (c.reportOf store target).id = target.id :=
  observeTarget_storable.2

/-- The report of each configured target is found under its id. -/
theorem find?_observed {target : TargetConfig} (configured : target ∈ c.config.targets) :
    (orderBy (·.id) (c.observed store)).find? (·.id = target.id) = some (c.reportOf store target) := by
  have hperm : ((orderBy (·.id) (c.observed store)).map (·.id)).Perm (c.config.targets.map (·.id)) := by
    refine (((perm_orderBy _ _).trans (c.finished_perm _)).map _).trans ?_
    rw [List.map_map]
    exact .of_eq (List.map_congr_left fun target _ => reportOf_id target)
  rw [find?_report hperm (targets_of_valid c.valid).2]
  exact ⟨mem_observed_iff.mpr ⟨target, configured, rfl⟩, reportOf_id target⟩

theorem mem_targetKeys_iff {aspects : TargetConfig → TargetReport → List Aspect} {key : ConditionKey} :
    key ∈ targetKeys c.config (orderBy (·.id) (c.observed store)) aspects ↔ ∃ target ∈ c.config.targets,
      ∃ aspect ∈ aspects target (c.reportOf store target), .target target.id aspect = key := by
  rw [targetKeys, List.mem_flatMap]
  refine exists_congr fun target => and_congr_right fun configured => ?_
  rw [List.mem_map, reportedAspects, find?_observed configured]

theorem mem_behaviorKeys_iff {measured : TargetReport → Bool} {key : ConditionKey} :
    key ∈ behaviorKeys (orderBy (·.id) (c.observed store)) measured ↔ ∃ target ∈ c.config.targets,
      ∃ aspect ∈ (if measured (c.reportOf store target) then behaviorAspects else []).map Aspect.fixed,
        .target target.id aspect = key := by
  rw [behaviorKeys, List.mem_flatMap]
  constructor
  · rintro ⟨found, hfound, hkey⟩
    obtain ⟨target, configured, rfl⟩ := mem_observed_iff.mp hfound
    obtain ⟨aspect, haspect, rfl⟩ := List.mem_map.mp hkey
    exact ⟨target, configured, .fixed aspect, List.mem_map_of_mem haspect, by rw [reportOf_id]⟩
  · rintro ⟨target, configured, _, haspect, rfl⟩
    obtain ⟨rate, hrate, rfl⟩ := List.mem_map.mp haspect
    refine ⟨_, mem_observed_iff.mpr ⟨target, configured, rfl⟩, ?_⟩
    rw [reportOf_id]
    exact List.mem_map_of_mem hrate

/-- What a check sees depends on the pauses of the targets alone. -/
theorem sees_congr {now : StateStore} (pauses : now.targetRuntimeState = store.targetRuntimeState) {key : ConditionKey} :
    c.Sees now key ↔ c.Sees store key := by
  have hreports : c.reportOf now = c.reportOf store := by
    funext target
    rw [reportOf, reportOf, pauses]
  cases key <;> simp only [Sees, hreports]

/-- The keys of a check, by the reports of the configured targets. -/
theorem mem_assembledKeys_iff {aggregate : Option AggregateObservation} {key : ConditionKey} :
    key ∈ assembledKeys c.packages c.config (orderBy (·.id) (c.observed store)) aggregate ↔
      (∃ target ∈ c.config.targets, ∃ aspect ∈ reportAspects c.packages c.config target (c.reportOf store target),
        .target target.id aspect = key) ∨
      ∃ aspect ∈ behaviorAspects, aggregate.isSome ∧ .aggregate aspect = key := by
  simp only [assembledKeys, reportAspects, List.mem_append, mem_targetKeys_iff, mem_behaviorKeys_iff, or_and_right,
    exists_or, and_or_left]
  refine or_congr Iff.rfl ?_
  by_cases hobserved : aggregate.isSome <;> simp [hobserved]

/-- A target's condition is evaluated when the check sees it. -/
theorem mem_targetKey_iff {aggregate : Option AggregateObservation} {id : String} {aspect : Aspect} :
    .target id aspect ∈ assembledKeys c.packages c.config (orderBy (·.id) (c.observed store)) aggregate ↔
      c.Sees store (.target id aspect) := by
  have hreport : ∀ target, aspect ∈ reportAspects c.packages c.config target (c.reportOf store target) ↔
      c.config.Declares c.packages target aspect ∧ (aspect = .fixed .api ∨ (c.reportOf store target).complete) :=
    fun target => mem_reportAspects_iff (reportOf_id target) (observeTarget_cases rfl)
  rw [mem_assembledKeys_iff]
  simp only [reduceCtorEq, and_false, exists_false, or_false, Sees, ← hreport]
  refine exists_congr fun target => and_congr_right fun _ => ?_
  constructor
  · rintro ⟨aspect, haspect, heq⟩
    obtain ⟨rfl, rfl⟩ := ConditionKey.target.inj heq
    exact ⟨rfl, haspect⟩
  · rintro ⟨rfl, haspect⟩
    exact ⟨aspect, haspect, rfl⟩

/-- The group's conditions are evaluated when the group was observed. -/
theorem mem_aggregateKey_iff {aggregate : Option AggregateObservation} {aspect : FixedAspect}
    (members : aggregate.isSome → ∃ baseline, c.config.behavioralBaseline = some baseline ∧
      ∀ id ∈ baseline.targetIds, ∃ found ∈ orderBy (·.id) (c.observed store), found.id = id ∧ found.complete) :
    .aggregate aspect ∈ assembledKeys c.packages c.config (orderBy (·.id) (c.observed store)) aggregate ↔
      c.Sees store (.aggregate aspect) ∧ aggregate.isSome := by
  rw [mem_assembledKeys_iff]
  simp only [reduceCtorEq, and_false, exists_false, false_or, ConditionKey.aggregate.injEq]
  constructor
  · rintro ⟨aspect, haspect, hobserved, rfl⟩
    obtain ⟨baseline, hbaseline, hcomplete⟩ := members hobserved
    refine ⟨⟨haspect, baseline, hbaseline, fun target configured hmember => ?_⟩, hobserved⟩
    obtain ⟨found, hfound, hid, hof⟩ := hcomplete target.id hmember
    obtain ⟨other, hother, rfl⟩ := mem_observed_iff.mp hfound
    obtain rfl : other = target :=
      List.inj_on_of_nodup_map (targets_of_valid c.valid).2 hother configured ((reportOf_id other).symm.trans hid)
    exact hof
  · rintro ⟨⟨haspect, -⟩, hobserved⟩
    exact ⟨aspect, haspect, hobserved, rfl⟩

/-- The conditions of a check are of configured targets, or of the group. -/
theorem separable_of_mem {aggregate : Option AggregateObservation} {key : ConditionKey}
    (h : key ∈ assembledKeys c.packages c.config (orderBy (·.id) (c.observed store)) aggregate) : key.Separable := by
  rcases mem_assembledKeys_iff.mp h with ⟨target, configured, aspect, -, rfl⟩ | ⟨aspect, -, -, rfl⟩
  · exact not_mem_of_validId ((targets_of_valid c.valid).1 target configured)
  · trivial

theorem key_of_evaluation (h : c.observation recovered store = .ok report) :
    ∀ evaluation ∈ report.evaluations, ∃ key : ConditionKey, key.Separable ∧ key.text = evaluation.id := by
  intro evaluation hevaluation
  obtain ⟨evaluated, hphase, -, rfl⟩ := observation_eq_ok h
  obtain ⟨upstreamSamples, targetSamples, -, -, hassembled⟩ := evaluationPhase_eq_ok hphase
  have hids := assembledIds_measured hassembled
  obtain ⟨key, hkey, htext⟩ := List.mem_map.mp (hids.mem_iff.mp (List.mem_map_of_mem hevaluation))
  exact ⟨key, separable_of_mem hkey, htext⟩

/-- A condition is evaluated when the check sees it. -/
theorem exists_evaluation_iff (h : c.observation recovered store = .ok report) {key : ConditionKey}
    (separable : key.Separable) : (∃ evaluation ∈ report.evaluations, evaluation.id = key.text) ↔
      c.Sees store key ∧ ∀ aspect, key = .aggregate aspect → report.aggregate.isSome := by
  obtain ⟨⟨aggregate, evaluations⟩, hphase, -, rfl⟩ := observation_eq_ok h
  obtain ⟨upstreamSamples, targetSamples, -, -, hassembled⟩ := evaluationPhase_eq_ok hphase
  have hids := assembledIds_measured hassembled
  have hmem : (∃ evaluation ∈ evaluations, evaluation.id = key.text) ↔
      key ∈ assembledKeys c.packages c.config (orderBy (·.id) (c.observed store)) aggregate := by
    rw [← List.mem_map, hids.mem_iff, List.mem_map]
    constructor
    · rintro ⟨other, hother, htext⟩
      rwa [← ConditionKey.text_inj (separable_of_mem hother) separable htext]
    · exact fun hmem => ⟨key, hmem, rfl⟩
  refine hmem.trans ?_
  cases key with
  | target id aspect => simp [mem_targetKey_iff]
  | aggregate aspect =>
    rw [mem_aggregateKey_iff (members_of_assembled hassembled)]
    exact and_congr_right fun _ => ⟨fun hobserved _ _ => hobserved, fun hobserved => hobserved aspect rfl⟩

/-- **A check evaluates what its configuration declares and it has seen.** Each
evaluation of its report is of a condition, and of the conditions just those
are evaluated that are declared of a completely observed target, the `api`
condition of every target, and the group's when every member was observed
completely and their counters could be summed. -/
theorem evaluates_iff (h : c.observation recovered store = .ok report) :
    (∀ evaluation ∈ report.evaluations, ∃ key : ConditionKey, key.Separable ∧ key.text = evaluation.id) ∧
    ∀ key : ConditionKey, key.Separable → ((∃ evaluation ∈ report.evaluations, evaluation.id = key.text) ↔
      c.Sees store key ∧ ∀ aspect, key = .aggregate aspect → report.aggregate.isSome) :=
  ⟨key_of_evaluation h, fun _ separable => exists_evaluation_iff h separable⟩

end Circumstances

/-- A rejected target is evaluated for its rejection, and for nothing it declares. -/
theorem evaluates_iff_rejected : ∃ report, (rejectedCheck "first" 0).observation [] .empty = .ok report ∧
    (∃ evaluation ∈ report.evaluations, evaluation.id = "target:one:api") ∧
    ¬∃ evaluation ∈ report.evaluations, evaluation.id = "target:one:processing-latency" := by
  have hany : ((rejectedCheck "first" 0).observation [] .empty).toOption.any (fun _ =>
      !((rejectedCheck "first" 0).reportOf .empty rejectedTarget).complete) = true := by decide +kernel
  obtain ⟨report, h, hincomplete⟩ := Fallible.ok_of_any hany
  obtain ⟨-, hiff⟩ := Circumstances.evaluates_iff h
  have hconfigured : rejectedTarget ∈ (rejectedCheck "first" 0).config.targets := List.mem_cons_self
  have hone : ':' ∉ "one".toList := by decide
  refine ⟨report, h, ?_, ?_⟩
  · exact (hiff (.target "one" (.fixed .api)) hone).mpr
      ⟨⟨rejectedTarget, hconfigured, rfl, trivial, .inl rfl⟩, fun _ => nofun⟩
  · refine fun hmem => ?_
    obtain ⟨⟨target, htarget, -, -, hseen⟩, -⟩ := (hiff (.target "one" (.fixed .processingLatency)) hone).mp hmem
    obtain rfl : target = rejectedTarget := List.mem_singleton.mp htarget
    rcases hseen with hapi | hcomplete
    · cases hapi
    · rw [hcomplete] at hincomplete
      cases hincomplete

/-! ### Conditions that no check sees -/

/-- The databases after checks that did not see a condition, each of which may
have died anywhere. -/
inductive Unseen (key : ConditionKey) (first : StateStore) : StateStore → Prop
  | start : Unseen key first first
  | check {store left : StateStore} (h : Unseen key first store) (c : Circumstances) (unseen : ¬c.Sees store key)
      (hleft : left ∈ crashStates (checkWithSink c.inputs) store) : Unseen key first left

/-- Nothing was concluded about a condition, and nothing queued. -/
structure Withheld (conditionId : String) (first store : StateStore) : Prop where
  latch : (store.conditionState.find? conditionId).map (·.withoutDelivery) =
    (first.conditionState.find? conditionId).map (·.withoutDelivery)
  queued : ∀ row ∈ store.notificationOutbox.rows, ∀ a ∈ row.announcements, a.conditionId = conditionId →
    ∃ old ∈ first.notificationOutbox.rows, a ∈ old.announcements

section Withheld

variable {key : ConditionKey} {conditionId : String} {first store left : StateStore}

theorem keptByDelivery_withheld (conditionId : String) (first : StateStore) :
    KeptByDelivery (Withheld conditionId first) where
  claim hs ok := by
    obtain ⟨_, _, _, _, -, -, -, -, -, hstore⟩ := StateStore.beginNotificationAttempt_eq_ok ok
    refine ⟨?_, forall_rows_claim ok hs.queued fun row attempts h _ _ => h⟩
    rw [hstore]
    exact hs.latch
  record hs ok := by
    obtain ⟨_, _, _, _, states, -, -, -, -, -, -, -, hstates, hstore⟩ := StateStore.recordNotificationAttempt_eq_ok ok
    refine ⟨?_, forall_rows_record ok hs.queued fun row next h _ _ _ _ => h⟩
    rw [← hs.latch, hstore]
    show (states.find? conditionId).map _ = _
    rw [hstates, Option.map_map]
    exact congrArg₂ Option.map (funext fun latch => settledLatch_withoutDelivery _ _ latch) rfl
  refresh hs ok := by
    obtain ⟨⟨runs, rfl⟩, -⟩ := StateStore.refreshRunDelivery_eq_ok ok
    exact ⟨hs.latch, hs.queued⟩

/-- Cancelling announces nothing. -/
theorem cancellable_announces (P : Announcement → Prop) : Cancellable fun row => ∀ a ∈ row.announcements, P a where
  cancelled _ h _ := h
  replaced row conditionId uuid conditions h hu _ hc a ha := by
    refine h a ?_
    obtain ⟨hkind, member, hm, hid⟩ := mem_announcements.mp ha
    refine mem_announcements.mpr ⟨hkind, member, ?_, hid⟩
    rw [hc] at hm
    exact mem_orderBy.mp (List.mem_of_mem_filter hm)

/-- **A run that does not evaluate a condition concludes nothing about it.** -/
theorem Withheld.committed {report : RunReport} {suppress : Bool} {cutoff : Timestamp} {committed : Committed}
    {latching : Latching} {persisted : StateStore} (hs : Withheld conditionId first store)
    (h : IsCommitted report suppress cutoff store committed latching persisted)
    (unevaluated : ∀ evaluation ∈ report.evaluations, evaluation.id ≠ conditionId) :
    Withheld conditionId first committed.store := by
  have hstep : LoggedRun.latchStep conditionId ⟨store, report, cutoff, suppress, committed.report⟩ = none := by
    simpa [LoggedRun.latchStep] using unevaluated
  obtain ⟨hlatch, hunannounced⟩ := h.latch_kept hstep
  refine ⟨hlatch ▸ hs.latch, h.forall_rows (cancellable_announces _) hs.queued fun message hm row hrow a ha hof => ?_⟩
  -- what is queued is for a transition of the run
  obtain ⟨-, member, hmember, hid, -⟩ := mem_announcements.mp ha
  have htransition := (h.transitions_of_isQueued hm hrow).2 _ (List.mem_map_of_mem hmember)
  have hother := List.filter_eq_nil_iff.mp hunannounced _ htransition
  exact absurd (decide_eq_true (hid.trans hof)) hother

/-- A check that does not see a condition withholds it, wherever it dies. -/
theorem Circumstances.left_withheld {c : Circumstances} (separable : key.Separable) (hs : Withheld key.text first store)
    (unseen : ¬c.Sees store key) (hleft : left ∈ crashStates (checkWithSink c.inputs) store) :
    Withheld key.text first left := by
  have hkept := keptByDelivery_withheld key.text first
  have hrecover := spec_recover hkept.record c.started
  rcases left_cases hleft with hrecovery | ⟨recovered, now, report, committed, hcommits, hdelivery⟩
  · exact hrecover.crash hs hrecovery
  · have hnow := (hcommits.recovers.of_spec hrecover hs).1
    have hpauses := targetRuntimeState_of_recover.2 _ _ hcommits.recovers
    obtain ⟨latching, persisted, hcommitted⟩ := commitRun_eq_ok hcommits.commits
    refine (spec_finish hkept c.inputs recovered committed.report).crash (hnow.committed hcommitted ?_) hdelivery
    intro evaluation hevaluation hid
    obtain ⟨hsees, -⟩ := (exists_evaluation_iff hcommits.observes separable).mp ⟨evaluation, hevaluation, hid⟩
    exact unseen ((sees_congr hpauses).mp hsees)

/-- A run that evaluates the condition again goes on from where its latch was left. -/
theorem Withheld.resumed {report : RunReport} {suppress : Bool} {cutoff : Timestamp} {committed : Committed}
    {latching : Latching} {persisted : StateStore} (hs : Withheld conditionId first store)
    (h : IsCommitted report suppress cutoff store committed latching persisted) {step : LatchStep}
    (hstep : LoggedRun.latchStep conditionId ⟨store, report, cutoff, suppress, committed.report⟩ = some step) :
    (committed.store.conditionState.find? conditionId).map (·.withoutDelivery) =
      some (latchStep ((first.conditionState.find? conditionId).getD (.fromEvaluation step.evaluation)) step).1.withoutDelivery := by
  rw [(h.latch_advances hstep).1]
  have hlatch := hs.latch
  cases hfirst : first.conditionState.find? conditionId with
  | none =>
    rw [hfirst, Option.map_none, Option.map_eq_none_iff] at hlatch
    rw [hlatch]
  | some latch =>
    rw [hfirst, Option.map_some, Option.map_eq_some_iff] at hlatch
    obtain ⟨found, hfound, hsame⟩ := hlatch
    rw [hfound, Option.getD_some, Option.getD_some, latchStep_withoutDelivery hsame]

end Withheld

/-- **What is not observed is not concluded.** Over any checks, each possibly
killed anywhere, none of which sees a condition (its target was not observed,
the policy or the group no longer declares it, or a member of the group was
missing), the condition's latch stays as it was, delivery apart, and no alert or
resolution of it is queued that was not queued before. The run that evaluates it
again goes on from there. -/
theorem unseen_withheld {key : ConditionKey} (separable : key.Separable) {first store : StateStore}
    (h : Unseen key first store) :
    Withheld key.text first store ∧
    ∀ {uuids : ℕ → String} {report : RunReport} {config : Config} {now : ℤ} {cutoff : Timestamp} {suppress : Bool}
      {committed : Committed}, store.commitRun uuids report config now cutoff suppress = .ok committed →
      ∀ step, LoggedRun.latchStep key.text ⟨store, report, cutoff, suppress, committed.report⟩ = some step →
        (committed.store.conditionState.find? key.text).map (·.withoutDelivery) = some (latchStep
          ((first.conditionState.find? key.text).getD (.fromEvaluation step.evaluation)) step).1.withoutDelivery := by
  have hwithheld : Withheld key.text first store := by
    induction h with
    | start => exact ⟨rfl, fun row hrow a ha _ => ⟨row, hrow, ha⟩⟩
    | check _ c unseen hleft ih => exact c.left_withheld separable ih unseen hleft
  refine ⟨hwithheld, fun ok step hstep => ?_⟩
  obtain ⟨latching, persisted, hcommitted⟩ := commitRun_eq_ok ok
  exact hwithheld.resumed hcommitted hstep

/-- A resolver that is not the one whose API was down. -/
def otherConfig : Config :=
  { rewritesConfig [] with targets := [{ id := "two", name := "Two", baseUrl := "https://one", auth := .none }] }

/-- A live check of the other resolver. -/
def otherCheck : Circumstances :=
  { rejectedCheck "next" 2 with config := otherConfig, valid := by decide +kernel, dryRun := false }

/-- A target that was found down is not configured any more: its latch fires on. -/
theorem unseen_withheld_removed : ∃ first store latch, Unseen (.target "one" (.fixed .api)) first store ∧
    first.runs.rows.length = 1 ∧ store.runs.rows.length = 2 ∧
    first.conditionState.find? "target:one:api" = some latch ∧ latch.lifecycle = .firing ∧
    (store.conditionState.find? "target:one:api").map (·.withoutDelivery) = some latch.withoutDelivery := by
  have hany : (checkWithSink (apiCheck "first" .active 1) .empty).1.any (fun first =>
      decide (first.runs.rows.length = 1) &&
      (first.conditionState.find? "target:one:api").any (fun latch => latch.lifecycle = .firing) &&
      (checkWithSink otherCheck.inputs first).1.any fun store => decide (store.runs.rows.length = 2)) = true := by
    decide +kernel
  obtain ⟨first, -, h⟩ := List.any_eq_true.mp hany
  simp only [Bool.and_eq_true, decide_eq_true_eq, Option.any_eq_true] at h
  obtain ⟨⟨hone, latch, hlatch, hfiring⟩, hnext⟩ := h
  obtain ⟨store, hleft, htwo⟩ := List.any_eq_true.mp hnext
  have hunseen : ¬otherCheck.Sees first (.target "one" (.fixed .api)) := by
    rintro ⟨target, htarget, hid, -⟩
    obtain rfl := List.mem_singleton.mp htarget
    exact absurd hid (by decide)
  have h : Unseen (.target "one" (.fixed .api)) first store :=
    .check .start otherCheck hunseen (List.mem_cons_of_mem _ hleft)
  have hone' : (ConditionKey.target "one" (.fixed .api)).Separable := show ':' ∉ "one".toList by decide
  refine ⟨first, store, latch, h, hone, of_decide_eq_true htwo, hlatch, hfiring, ?_⟩
  have hsame := (unseen_withheld hone' h).1.latch
  rwa [show (ConditionKey.target "one" (.fixed .api)).text = "target:one:api" by decide, hlatch] at hsame

end Sentinel

/-
# Condition identities

What a condition's id says: which subject, and which aspect of it. Ids are
concatenated from these parts with colons; a target's id is a slug, so the
parts can be read back and distinct keys have distinct texts. Each evaluator
is shown to emit the texts of its keys, in order.

Key theorems: `ConditionKey.text_inj`, `evaluateTarget_ids`,
`behavioralEvaluations_ids`, `nodup_policyAspects_iff`.
-/
import Sentinel.Core.Evaluate

namespace Sentinel

/-- The aspects of a subject with fixed names. -/
inductive FixedAspect where
  | api
  | protection
  | processingLatency
  | upstreamMode
  | upstreamSet
  | rewritesEnabled
  | upstreamLatency
  | queryRate
  | blockedRatio
  | blockingCollapsed
  deriving DecidableEq

def FixedAspect.text : FixedAspect → String
  | api => "api"
  | protection => "protection"
  | processingLatency => "processing-latency"
  | upstreamMode => "upstream-mode"
  | upstreamSet => "upstream-set"
  | rewritesEnabled => "rewrites-enabled"
  | upstreamLatency => "upstream-latency"
  | queryRate => "query-rate"
  | blockedRatio => "blocked-ratio"
  | blockingCollapsed => "blocking-collapsed"

/-- What is checked of a subject: a fixed aspect, or a required filter or
rewrite by its digest. -/
inductive Aspect where
  | fixed (aspect : FixedAspect)
  | filter (digest : String)
  | rewrite (digest : String)
  deriving DecidableEq

def Aspect.text : Aspect → String
  | fixed aspect => aspect.text
  | filter digest => "filter:" ++ digest
  | rewrite digest => "rewrite:" ++ digest

/-- A condition: an aspect of the group or of a target. -/
inductive ConditionKey where
  | aggregate (aspect : FixedAspect)
  | target (id : String) (aspect : Aspect)
  deriving DecidableEq

def ConditionKey.text : ConditionKey → String
  | aggregate aspect => "aggregate:" ++ aspect.text
  | target id aspect => "target:" ++ id ++ ":" ++ aspect.text

/-- The key's target id can be told from what follows it. -/
def ConditionKey.Separable : ConditionKey → Prop
  | aggregate _ => True
  | target id _ => ':' ∉ id.toList

/-! ### Texts are injective -/

theorem FixedAspect.text_inj {a b : FixedAspect} (h : a.text = b.text) : a = b := by
  revert h
  cases a <;> cases b <;> decide

theorem FixedAspect.not_colon (a : FixedAspect) : ':' ∉ a.text.toList := by
  cases a <;> decide

theorem Aspect.text_inj {a b : Aspect} (h : a.text = b.text) : a = b := by
  have hchars := congrArg String.toList h
  have hcolon : ∀ (aspect : FixedAspect) (word : String) (rest : List Char),
      aspect.text.toList ≠ word.toList ++ ':' :: rest := fun aspect word rest he =>
    aspect.not_colon (he ▸ by simp)
  cases a <;> cases b <;> simp only [text, String.toList_append] at h hchars
  case fixed.fixed => rw [FixedAspect.text_inj h]
  case fixed.filter a digest => exact absurd hchars (hcolon a "filter" _)
  case fixed.rewrite a digest => exact absurd hchars (hcolon a "rewrite" _)
  case filter.fixed digest a => exact absurd hchars.symm (hcolon a "filter" _)
  case rewrite.fixed digest a => exact absurd hchars.symm (hcolon a "rewrite" _)
  case filter.filter => rw [String.toList_inj.mp (List.append_cancel_left hchars)]
  case rewrite.rewrite => rw [String.toList_inj.mp (List.append_cancel_left hchars)]
  case filter.rewrite => exact absurd (List.cons.inj hchars).1 (by decide)
  case rewrite.filter => exact absurd (List.cons.inj hchars).1 (by decide)

/-- **Distinct keys have distinct ids.** -/
theorem ConditionKey.text_inj {a b : ConditionKey} (ha : a.Separable) (hb : b.Separable)
    (h : a.text = b.text) : a = b := by
  have hchars := congrArg String.toList h
  cases a <;> cases b <;> simp only [text, String.toList_append] at h hchars
  case aggregate.aggregate => rw [FixedAspect.text_inj (String.toList_inj.mp (List.append_cancel_left hchars))]
  case aggregate.target => exact absurd (List.cons.inj hchars).1 (by decide)
  case target.aggregate => exact absurd (List.cons.inj hchars).1 (by decide)
  case target.target id a id' a' =>
    simp only [List.append_assoc] at hchars
    obtain ⟨hid, ha⟩ := Text.append_separator_inj ha hb (List.append_cancel_left hchars)
    rw [String.toList_inj.mp hid, Aspect.text_inj (String.toList_inj.mp ha)]

theorem nodup_texts_iff {keys : List ConditionKey} (h : ∀ key ∈ keys, key.Separable) :
    (keys.map ConditionKey.text).Nodup ↔ keys.Nodup :=
  ⟨List.Nodup.of_map _, List.Nodup.map_on fun a ha b hb => ConditionKey.text_inj (h a ha) (h b hb)⟩

/-! ### The keys of each evaluator -/

/-- A target that was observed: complete, with operational data. -/
def TargetReport.observed (report : TargetReport) : Bool := report.complete && report.operational.isSome

section Keys

variable (packages : Packages)

def policyAspects (policy : PolicyConfig) (report : TargetReport) : List Aspect :=
  (if report.dns.isSome && policy.upstreamMode.isSome then [.fixed .upstreamMode] else []) ++
  (if report.dns.isSome && policy.upstreamDns.isSome then [.fixed .upstreamSet] else []) ++
  policy.filters.map (fun required => .filter (shortHash packages required.url)) ++
  (if policy.rewrites.enabled.isSome then [.fixed .rewritesEnabled] else []) ++
  policy.rewrites.required.map fun required => .rewrite (shortHash packages required.text)

def targetAspects (policy : Option PolicyConfig) (report : TargetReport) : List Aspect :=
  if report.observed then
    [.fixed .api] ++
    (if (policy.bind (·.protectionEnabled)).isSome then [.fixed .protection] else []) ++
    [.fixed .processingLatency] ++
    match policy with
    | none => []
    | some policy => policyAspects packages policy report
  else if report.status = .complete then [] else [.fixed .api]

def upstreamAspects (report : TargetReport) : List Aspect :=
  if report.observed then [.fixed .upstreamLatency] else []

def behaviorAspects : List FixedAspect := [.queryRate, .blockedRatio, .blockingCollapsed]

@[simp] theorem evaluation_id (id : String) (targetId : Option String) (kind : String) (severity : Severity)
    (verdict : Verdict) (expected observed : Value) (evidenceSource : String) (observationComplete : Bool)
    (sustainRuns recoveryRuns : UInt32) :
    (evaluation id targetId kind severity verdict expected observed evidenceSource observationComplete sustainRuns
      recoveryRuns).id = id := rfl

variable (target : TargetConfig) (profile : ConditionProfile) (report : TargetReport) (nowUnixSeconds : ℤ)

/-- The id of an aspect of the target. -/
abbrev TargetConfig.conditionId (aspect : Aspect) : String := (ConditionKey.target target.id aspect).text

theorem conditionId_fixed (aspect : FixedAspect) (word : String) (h : ":" ++ aspect.text = word) :
    target.conditionId (.fixed aspect) = "target:" ++ target.id ++ word := by
  rw [TargetConfig.conditionId, ConditionKey.text, Aspect.text, String.append_assoc, h]

theorem conditionId_filter (digest : String) :
    target.conditionId (.filter digest) = "target:" ++ target.id ++ ":filter:" ++ digest := by
  rw [show ":filter:" = ":" ++ "filter:" from rfl]
  simp only [TargetConfig.conditionId, ConditionKey.text, Aspect.text, String.append_assoc]

theorem conditionId_rewrite (digest : String) :
    target.conditionId (.rewrite digest) = "target:" ++ target.id ++ ":rewrite:" ++ digest := by
  rw [show ":rewrite:" = ":" ++ "rewrite:" from rfl]
  simp only [TargetConfig.conditionId, ConditionKey.text, Aspect.text, String.append_assoc]

theorem evaluateTargetFailure_ids :
    (evaluateTargetFailure target profile report).map (·.id) =
      (if report.status = .complete then [] else [Aspect.fixed .api]).map target.conditionId := by
  unfold evaluateTargetFailure
  cases h : report.status <;> simp [failureReason, conditionId_fixed target .api ":api" rfl]

theorem evaluateDnsPolicy_ids (policy : PolicyConfig) :
    (evaluateDnsPolicy target policy profile report).map (·.id) =
      ((if report.dns.isSome && policy.upstreamMode.isSome then [Aspect.fixed .upstreamMode] else []) ++
      (if report.dns.isSome && policy.upstreamDns.isSome then [Aspect.fixed .upstreamSet] else [])).map
        target.conditionId := by
  unfold evaluateDnsPolicy
  cases report.dns with
  | none => rfl
  | some dns =>
    cases policy.upstreamMode <;> cases policy.upstreamDns <;>
      simp [booleanEvaluation, conditionId_fixed target .upstreamMode ":upstream-mode" rfl,
        conditionId_fixed target .upstreamSet ":upstream-set" rfl]

theorem evaluateFilters_ids (policy : PolicyConfig) :
    (evaluateFilters packages target policy profile report nowUnixSeconds).map (·.id) =
      (policy.filters.map fun required => Aspect.filter (shortHash packages required.url)).map
        target.conditionId := by
  unfold evaluateFilters
  rw [List.map_map, List.map_map]
  refine List.map_congr_left fun required _ => ?_
  simp [conditionId_filter]

theorem evaluateRewrites_ids (policy : PolicyConfig) :
    (evaluateRewrites packages target policy profile report).map (·.id) =
      ((if policy.rewrites.enabled.isSome then [Aspect.fixed .rewritesEnabled] else []) ++
        policy.rewrites.required.map fun required => Aspect.rewrite (shortHash packages required.text)).map
        target.conditionId := by
  unfold evaluateRewrites
  rw [List.map_append, List.map_append, List.map_map, List.map_map]
  congr 1
  · cases policy.rewrites.enabled <;>
      simp [booleanEvaluation, conditionId_fixed target .rewritesEnabled ":rewrites-enabled" rfl]
  · refine List.map_congr_left fun required _ => ?_
    simp [conditionId_rewrite]

/-- **The ids of a target's evaluations.** -/
theorem evaluateTarget_ids (policy : Option PolicyConfig) :
    (evaluateTarget packages target policy profile report nowUnixSeconds).map (·.id) =
      (targetAspects packages policy report).map target.conditionId := by
  unfold evaluateTarget targetAspects TargetReport.observed
  cases report.complete with
  | false => simpa using evaluateTargetFailure_ids target profile report
  | true =>
    cases report.operational with
    | none => simpa using evaluateTargetFailure_ids target profile report
    | some operational =>
      simp only [Bool.not_true, Bool.false_eq_true, if_false, Option.isSome_some, Bool.and_self, if_true,
        List.map_append]
      congr 1
      · congr 1
        · congr 1
          · simp [conditionId_fixed target .api ":api" rfl]
          · cases policy.bind (·.protectionEnabled) <;>
              simp [booleanEvaluation, conditionId_fixed target .protection ":protection" rfl]
        · simp [thresholdEvaluation, conditionId_fixed target .processingLatency ":processing-latency" rfl]
      · cases policy with
        | none => rfl
        | some policy =>
          simp only [policyAspects, List.map_append, evaluateDnsPolicy_ids, evaluateFilters_ids,
            evaluateRewrites_ids, List.append_assoc]

theorem evaluateUpstreamLatency_ids (history : List UpstreamSample) (startedUnixSeconds : ℤ) :
    (evaluateUpstreamLatency target profile report history startedUnixSeconds nowUnixSeconds).map (·.id) =
      (upstreamAspects report).map target.conditionId := by
  unfold evaluateUpstreamLatency upstreamAspects TargetReport.observed
  cases report.complete <;> cases report.operational <;>
    simp [conditionId_fixed target .upstreamLatency ":upstream-latency" rfl]

end Keys

section Behavior

variable (subject : BehavioralSubject) (profile : ConditionProfile) (baselineReady : Bool)
  (history : List RateWindow) (current : Option RateWindow) (minimumWindows : ℕ)

theorem queryRateEvaluation_id :
    (queryRateEvaluation subject profile baselineReady history current minimumWindows).id = subject.queryRateId := by
  unfold queryRateEvaluation unevaluated
  dsimp only
  split <;> rfl

theorem ratioEvaluation_id (id kind : String) (severity : Severity) (collapse : Bool) :
    (ratioEvaluation subject profile baselineReady history current minimumWindows id kind severity collapse).id =
      id := by
  unfold ratioEvaluation unevaluated
  dsimp only
  split
  · rfl
  · split
    · rfl
    · split <;> rfl

theorem behavioralEvaluations_ids :
    (behavioralEvaluations subject profile baselineReady history current minimumWindows).map (·.id) =
      [subject.queryRateId, subject.blockedRatioId, subject.collapseId] := by
  simp [behavioralEvaluations, queryRateEvaluation_id, ratioEvaluation_id]

/-- **The ids of a target's rates.** -/
theorem evaluateTargetBehavior_ids (packages : Packages) (config : BehavioralBaselineConfig)
    (report : TargetReport) (samples : List TargetSample) (nowUnixSeconds : ℤ) (localHour : UInt8) :
    (evaluateTargetBehavior packages config profile report samples nowUnixSeconds localHour).map (·.id) =
      (if report.id ∈ config.targetIds ∧ report.observed then behaviorAspects else []).map fun aspect =>
        (ConditionKey.target report.id (.fixed aspect)).text := by
  unfold evaluateTargetBehavior TargetReport.observed
  by_cases hid : report.id ∈ config.targetIds
  · rw [if_neg (not_not.mpr hid)]
    cases report.operational with
    | none => simp
    | some operational =>
      cases report.complete with
      | false => simp
      | true =>
        simp only [Bool.not_true, Bool.false_eq_true, if_false, behavioralEvaluations_ids, hid, Option.isSome_some,
          Bool.and_self, and_self, if_true]
        simp [behaviorAspects, BehavioralSubject.target, ConditionKey.text, Aspect.text, FixedAspect.text,
          String.append_assoc]
  · simp [hid]

/-- **The ids of the group's rates.** -/
theorem evaluateAggregate_ids {packages : Packages} {config : BehavioralBaselineConfig}
    {samples : List TargetSample} {targetReports : List TargetReport} {nowUnixSeconds utcOffsetMinutes : ℤ}
    {localHour : UInt8} {result : AggregateEvaluation}
    (h : evaluateAggregate packages config profile samples targetReports nowUnixSeconds localHour
      utcOffsetMinutes = some result) :
    result.evaluations.map (·.id) = behaviorAspects.map fun aspect => (ConditionKey.aggregate aspect).text := by
  simp only [evaluateAggregate, Option.bind_eq_bind, Option.bind_eq_some_iff] at h
  obtain ⟨_, _, _, _, _, _, h⟩ := h
  obtain rfl := Option.some.inj h
  rw [behavioralEvaluations_ids]
  decide

end Behavior

/-! ### When a target's aspects are distinct -/

section Distinct

variable {packages : Packages} {policy : PolicyConfig} {report : TargetReport}

/-- The texts a policy's conditions are digested from. -/
def PolicyConfig.digestedTexts (policy : PolicyConfig) : List String :=
  policy.filters.map (·.url) ++ policy.rewrites.required.map RequiredRewrite.text

/-- The digests of some texts differ when the texts do. -/
def DigestsDiffer (packages : Packages) (texts : List String) : Prop :=
  ∀ s ∈ texts, ∀ t ∈ texts, shortHash packages s = shortHash packages t → s = t

theorem nodup_digests_iff {f : String → Aspect} (hf : Function.Injective f) {texts : List String}
    (hhash : DigestsDiffer packages texts) :
    (texts.map fun text => f (shortHash packages text)).Nodup ↔ texts.Nodup :=
  ⟨List.Nodup.of_map _, List.Nodup.map_on fun s hs t ht h => hhash s hs t ht (hf h)⟩

/-- The conditions of a policy are distinct when its rewrite texts are. -/
theorem nodup_policyAspects_iff (hhash : DigestsDiffer packages policy.digestedTexts)
    (hfilters : (policy.filters.map (·.url)).Nodup) :
    (policyAspects packages policy report).Nodup ↔ (policy.rewrites.required.map RequiredRewrite.text).Nodup := by
  have hf : (policy.filters.map fun required => Aspect.filter (shortHash packages required.url)).Nodup := by
    have := (nodup_digests_iff (f := Aspect.filter) (fun _ _ h => Aspect.filter.inj h)
      fun s hs t ht => hhash s (List.mem_append_left _ hs) t (List.mem_append_left _ ht)).mpr hfilters
    rwa [List.map_map] at this
  have hr : (policy.rewrites.required.map fun required =>
      Aspect.rewrite (shortHash packages required.text)).Nodup ↔
      (policy.rewrites.required.map RequiredRewrite.text).Nodup := by
    rw [← nodup_digests_iff (f := Aspect.rewrite) (fun _ _ h => Aspect.rewrite.inj h)
      fun s hs t ht => hhash s (List.mem_append_right _ hs) t (List.mem_append_right _ ht), List.map_map]
    rfl
  rw [← hr]
  unfold policyAspects
  cases report.dns.isSome <;> cases policy.upstreamMode.isSome <;> cases policy.upstreamDns.isSome <;>
    cases policy.rewrites.enabled.isSome <;> simp [List.nodup_append, hf]

end Distinct

end Sentinel

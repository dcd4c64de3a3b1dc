/-
# One condition, one kind

A condition's key says its kind and its target, whatever the outcome: the kind
of a target's aspect, or the combined kind of a group's. Every evaluation that
is emitted is of some key, and the id tells the key.

Key theorem: `kind_eq_of_id_eq`.
-/
import Sentinel.Core.Identity

namespace Sentinel

def FixedAspect.kind : FixedAspect → String
  | api => "api"
  | protection => "protection"
  | processingLatency => "processing_latency"
  | upstreamMode => "upstream_mode"
  | upstreamSet => "upstream_set"
  | rewritesEnabled => "rewrite_settings"
  | upstreamLatency => "upstream_latency"
  | queryRate => "query_rate"
  | blockedRatio => "blocked_ratio"
  | blockingCollapsed => "blocking_collapse"

def Aspect.kind : Aspect → String
  | fixed aspect => aspect.kind
  | filter _ => "required_filter"
  | rewrite _ => "required_rewrite"

def ConditionKey.kind : ConditionKey → String
  | aggregate aspect => "combined_" ++ aspect.kind
  | target _ aspect => aspect.kind

def ConditionKey.targetId : ConditionKey → Option String
  | aggregate _ => none
  | target id _ => some id

/-- The evaluation of a condition: its id, kind and target are the key's. -/
structure IsOf (key : ConditionKey) (e : ConditionEvaluation) : Prop where
  id : e.id = key.text
  kind : e.kind = key.kind
  targetId : e.targetId = key.targetId

/-- Some aspect of the target is evaluated. -/
def OfTarget (id : String) (e : ConditionEvaluation) : Prop := ∃ aspect, IsOf (.target id aspect) e

section Target

variable (packages : Packages) (target : TargetConfig) (profile : ConditionProfile) (report : TargetReport)
  (nowUnixSeconds : ℤ)

theorem ofTarget_fixed (aspect : FixedAspect) (word : String) (h : ":" ++ aspect.text = word) {e : ConditionEvaluation}
    (hid : e.id = "target:" ++ target.id ++ word) (hkind : e.kind = aspect.kind) (htarget : e.targetId = some target.id) :
    OfTarget target.id e :=
  ⟨.fixed aspect, hid.trans (conditionId_fixed target aspect word h).symm, hkind, htarget⟩

theorem evaluateTargetFailure_ofTarget : ∀ e ∈ evaluateTargetFailure target profile report, OfTarget target.id e := by
  intro e he
  unfold evaluateTargetFailure at he
  split at he
  · cases he
  · obtain rfl := List.mem_singleton.mp he
    exact ofTarget_fixed target .api ":api" rfl rfl rfl rfl

theorem evaluateDnsPolicy_ofTarget (policy : PolicyConfig) :
    ∀ e ∈ evaluateDnsPolicy target policy profile report, OfTarget target.id e := by
  intro e he
  unfold evaluateDnsPolicy at he
  split at he
  · cases he
  · rcases List.mem_append.mp he with he | he
    · split at he
      · cases he
      · obtain rfl := List.mem_singleton.mp he
        exact ofTarget_fixed target .upstreamMode ":upstream-mode" rfl rfl rfl rfl
    · split at he
      · cases he
      · obtain rfl := List.mem_singleton.mp he
        exact ofTarget_fixed target .upstreamSet ":upstream-set" rfl rfl rfl rfl

theorem evaluateFilters_ofTarget (policy : PolicyConfig) :
    ∀ e ∈ evaluateFilters packages target policy profile report nowUnixSeconds, OfTarget target.id e := by
  intro e he
  obtain ⟨required, -, rfl⟩ := List.mem_map.mp he
  exact ⟨.filter (shortHash packages required.url), (conditionId_filter target _).symm, rfl, rfl⟩

theorem evaluateRewrites_ofTarget (policy : PolicyConfig) :
    ∀ e ∈ evaluateRewrites packages target policy profile report, OfTarget target.id e := by
  intro e he
  rcases List.mem_append.mp he with he | he
  · split at he
    · cases he
    · obtain rfl := List.mem_singleton.mp he
      exact ofTarget_fixed target .rewritesEnabled ":rewrites-enabled" rfl rfl rfl rfl
  · obtain ⟨required, -, rfl⟩ := List.mem_map.mp he
    exact ⟨.rewrite (shortHash packages required.text), (conditionId_rewrite target _).symm, rfl, rfl⟩

/-- **Every evaluation of a target**, complete or failed, is of one of its aspects. -/
theorem evaluateTarget_ofTarget (policy : Option PolicyConfig) :
    ∀ e ∈ evaluateTarget packages target policy profile report nowUnixSeconds, OfTarget target.id e := by
  intro e he
  unfold evaluateTarget at he
  split at he
  · exact evaluateTargetFailure_ofTarget target profile report e he
  · split at he
    · exact evaluateTargetFailure_ofTarget target profile report e he
    · rcases List.mem_append.mp he with he | he
      · rcases List.mem_append.mp he with he | he
        · rcases List.mem_append.mp he with he | he
          · obtain rfl := List.mem_singleton.mp he
            exact ofTarget_fixed target .api ":api" rfl rfl rfl rfl
          · split at he
            · cases he
            · obtain rfl := List.mem_singleton.mp he
              exact ofTarget_fixed target .protection ":protection" rfl rfl rfl rfl
        · obtain rfl := List.mem_singleton.mp he
          exact ofTarget_fixed target .processingLatency ":processing-latency" rfl rfl rfl rfl
      · split at he
        · cases he
        · rcases List.mem_append.mp he with he | he
          · rcases List.mem_append.mp he with he | he
            · exact evaluateDnsPolicy_ofTarget target profile report _ e he
            · exact evaluateFilters_ofTarget packages target profile report nowUnixSeconds _ e he
          · exact evaluateRewrites_ofTarget packages target profile report _ e he

theorem evaluateUpstreamLatency_ofTarget (history : List UpstreamSample) (startedUnixSeconds : ℤ) :
    ∀ e ∈ evaluateUpstreamLatency target profile report history startedUnixSeconds nowUnixSeconds,
      OfTarget target.id e := by
  intro e he
  unfold evaluateUpstreamLatency at he
  split at he
  · cases he
  · obtain rfl := List.mem_singleton.mp he
    exact ofTarget_fixed target .upstreamLatency ":upstream-latency" rfl rfl rfl rfl

end Target

section Behavior

variable (subject : BehavioralSubject) (profile : ConditionProfile) (baselineReady : Bool) (history : List RateWindow)
  (current : Option RateWindow) (minimumWindows : ℕ)

/-- Whatever the verdict on a query rate, it is the subject's. -/
theorem queryRateEvaluation_isOf {key : ConditionKey} (hid : subject.queryRateId = key.text)
    (hkind : subject.queryRateKind = key.kind) (htarget : subject.targetId = key.targetId) :
    IsOf key (queryRateEvaluation subject profile baselineReady history current minimumWindows) := by
  unfold queryRateEvaluation unevaluated
  dsimp only
  split <;> exact ⟨hid, hkind, htarget⟩

theorem ratioEvaluation_isOf {key : ConditionKey} {id kind : String} (hid : id = key.text) (hkind : kind = key.kind)
    (htarget : subject.targetId = key.targetId) (severity : Severity) (collapse : Bool) :
    IsOf key (ratioEvaluation subject profile baselineReady history current minimumWindows id kind severity collapse) := by
  unfold ratioEvaluation unevaluated
  dsimp only
  split
  · exact ⟨hid, hkind, htarget⟩
  · split
    · exact ⟨hid, hkind, htarget⟩
    · split <;> exact ⟨hid, hkind, htarget⟩

/-- The three keys of a subject. -/
structure SubjectKeys (subject : BehavioralSubject) (key : FixedAspect → ConditionKey) : Prop where
  queryRateId : subject.queryRateId = (key .queryRate).text
  queryRateKind : subject.queryRateKind = (key .queryRate).kind
  blockedRatioId : subject.blockedRatioId = (key .blockedRatio).text
  blockedRatioKind : subject.blockedRatioKind = (key .blockedRatio).kind
  collapseId : subject.collapseId = (key .blockingCollapsed).text
  collapseKind : subject.collapseKind = (key .blockingCollapsed).kind
  targetId : ∀ aspect, subject.targetId = (key aspect).targetId

theorem SubjectKeys.aggregate : SubjectKeys .aggregate .aggregate where
  queryRateId := by decide
  queryRateKind := by decide
  blockedRatioId := by decide
  blockedRatioKind := by decide
  collapseId := by decide
  collapseKind := by decide
  targetId _ := rfl

theorem SubjectKeys.target (target : TargetConfig) :
    SubjectKeys (.target target.id target.name) fun aspect => .target target.id (.fixed aspect) where
  queryRateId := (conditionId_fixed target .queryRate ":query-rate" rfl).symm
  queryRateKind := rfl
  blockedRatioId := (conditionId_fixed target .blockedRatio ":blocked-ratio" rfl).symm
  blockedRatioKind := rfl
  collapseId := (conditionId_fixed target .blockingCollapsed ":blocking-collapsed" rfl).symm
  collapseKind := rfl
  targetId _ := rfl

/-- **Every rate condition** is of one of its subject's keys. -/
theorem behavioralEvaluations_isOf {key : FixedAspect → ConditionKey} (h : SubjectKeys subject key) :
    ∀ e ∈ behavioralEvaluations subject profile baselineReady history current minimumWindows,
      ∃ aspect, IsOf (key aspect) e := by
  intro e he
  simp only [behavioralEvaluations, List.mem_cons, List.not_mem_nil, or_false] at he
  rcases he with rfl | rfl | rfl
  · exact ⟨_, queryRateEvaluation_isOf subject profile baselineReady history current minimumWindows h.queryRateId
      h.queryRateKind (h.targetId _)⟩
  · exact ⟨_, ratioEvaluation_isOf subject profile baselineReady history current minimumWindows h.blockedRatioId
      h.blockedRatioKind (h.targetId _) _ _⟩
  · exact ⟨_, ratioEvaluation_isOf subject profile baselineReady history current minimumWindows h.collapseId
      h.collapseKind (h.targetId _) _ _⟩

end Behavior

/-! ### Whatever is emitted -/

/-- An evaluation of some run, with any digests, configuration, report and history. -/
inductive Emitted : ConditionEvaluation → Prop
  | target {packages : Packages} {target : TargetConfig} {policy : Option PolicyConfig} {profile : ConditionProfile}
      {report : TargetReport} {nowUnixSeconds : ℤ} {e : ConditionEvaluation} (valid : validId target.id = true)
      (h : e ∈ evaluateTarget packages target policy profile report nowUnixSeconds) : Emitted e
  | upstreamLatency {target : TargetConfig} {profile : ConditionProfile} {report : TargetReport}
      {history : List UpstreamSample} {startedUnixSeconds nowUnixSeconds : ℤ} {e : ConditionEvaluation}
      (valid : validId target.id = true)
      (h : e ∈ evaluateUpstreamLatency target profile report history startedUnixSeconds nowUnixSeconds) : Emitted e
  | behavior {packages : Packages} {config : BehavioralBaselineConfig} {profile : ConditionProfile}
      {report : TargetReport} {samples : List TargetSample} {nowUnixSeconds : ℤ} {localHour : UInt8}
      {e : ConditionEvaluation} (valid : validId report.id = true)
      (h : e ∈ evaluateTargetBehavior packages config profile report samples nowUnixSeconds localHour) : Emitted e
  | aggregate {packages : Packages} {config : BehavioralBaselineConfig} {profile : ConditionProfile}
      {samples : List TargetSample} {reports : List TargetReport} {nowUnixSeconds : ℤ} {localHour : UInt8}
      {utcOffsetMinutes : ℤ} {result : AggregateEvaluation} {e : ConditionEvaluation}
      (hresult : evaluateAggregate packages config profile samples reports nowUnixSeconds localHour utcOffsetMinutes =
        some result)
      (h : e ∈ result.evaluations) : Emitted e

/-- **What is emitted is of a key**, whose target can be read off the id. -/
theorem Emitted.isOf {e : ConditionEvaluation} (h : Emitted e) : ∃ key, key.Separable ∧ IsOf key e := by
  cases h with
  | target valid h =>
    obtain ⟨aspect, hkey⟩ := evaluateTarget_ofTarget _ _ _ _ _ _ e h
    exact ⟨.target _ aspect, not_mem_of_validId valid, hkey⟩
  | upstreamLatency valid h =>
    obtain ⟨aspect, hkey⟩ := evaluateUpstreamLatency_ofTarget _ _ _ _ _ _ e h
    exact ⟨.target _ aspect, not_mem_of_validId valid, hkey⟩
  | @behavior _ _ _ report _ _ _ _ valid h =>
    unfold evaluateTargetBehavior at h
    split at h
    · cases h
    · split at h
      · cases h
      · split at h
        · cases h
        · obtain ⟨aspect, hkey⟩ := behavioralEvaluations_isOf _ _ _ _ _ _
            (SubjectKeys.target { id := report.id, name := report.name, baseUrl := "" }) e h
          exact ⟨.target report.id (.fixed aspect), not_mem_of_validId valid, hkey⟩
  | aggregate hresult h =>
    simp only [evaluateAggregate, Option.bind_eq_bind, Option.bind_eq_some_iff] at hresult
    obtain ⟨_, _, _, _, _, _, hresult⟩ := hresult
    obtain rfl := Option.some.inj hresult
    obtain ⟨aspect, hkey⟩ := behavioralEvaluations_isOf _ _ _ _ _ _ .aggregate e h
    exact ⟨.aggregate aspect, trivial, hkey⟩

/-- **One condition id has one kind**, and one target, whatever was evaluated. -/
theorem kind_eq_of_id_eq {e e' : ConditionEvaluation} (h : Emitted e) (h' : Emitted e') (hid : e.id = e'.id) :
    e.kind = e'.kind ∧ e.targetId = e'.targetId := by
  obtain ⟨key, hseparable, hkey⟩ := h.isOf
  obtain ⟨key', hseparable', hkey'⟩ := h'.isOf
  have hsame : key = key' := ConditionKey.text_inj hseparable hseparable' (by rw [← hkey.id, hid, hkey'.id])
  rw [hkey.kind, hkey.targetId, hkey'.kind, hkey'.targetId, hsame]
  exact ⟨rfl, rfl⟩

/-- A target that could not be observed, for one reason or another. -/
def failedHome (status : TargetStatus) : TargetReport := .incomplete "home" "Home" status "error" "detail"

theorem kind_eq_of_id_eq_api :
    ∃ e e', e ∈ evaluateTarget default { id := "home", name := "Home", baseUrl := "" } none {} (failedHome .unavailable) 0 ∧
      e' ∈ evaluateTarget default { id := "home", name := "Resolver", baseUrl := "" } (some {}) {}
        (failedHome .authenticationRejected) 300 ∧
      e.reason ≠ e'.reason ∧ e.id = e'.id ∧ e.kind = e'.kind ∧ e.targetId = e'.targetId := by
  have h : ∃ e ∈ evaluateTarget default { id := "home", name := "Home", baseUrl := "" } none {} (failedHome .unavailable) 0,
      e.reason = "unavailable" ∧ e.id = "target:home:api" := ⟨_, List.mem_cons_self, rfl, rfl⟩
  have h' : ∃ e ∈ evaluateTarget default { id := "home", name := "Resolver", baseUrl := "" } (some {}) {}
      (failedHome .authenticationRejected) 300, e.reason = "authentication_rejected" ∧ e.id = "target:home:api" :=
    ⟨_, List.mem_cons_self, rfl, rfl⟩
  obtain ⟨e, he, hreason, hid⟩ := h
  obtain ⟨e', he', hreason', hid'⟩ := h'
  refine ⟨e, e', he, he', by rw [hreason, hreason']; decide, hid.trans hid'.symm, ?_⟩
  exact kind_eq_of_id_eq (.target (by decide +kernel) he) (.target (by decide +kernel) he') (hid.trans hid'.symm)

end Sentinel

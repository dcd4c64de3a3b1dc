/-
# The order of the targets

A configuration lists its targets in some order, and they finish in some other.
Neither order matters: whatever is decided per target is looked up by its id,
and what is evaluated is sorted by condition, of which a target has its own.

Key theorems: `assembleEvaluations_reordered`, `check_reordered`.
-/
import Sentinel.Cli.Cooldown
import Sentinel.Cli.Validated
import Sentinel.Core.WellFormed

namespace Sentinel

open Collections CrashTxn
open Fallible (demand)

/-- The configuration with its targets in another order. -/
def Config.withTargets (config : Config) (targets : List TargetConfig) : Config := { config with targets }

section Reordered

variable {packages : Packages} {config : Config} {targets : List TargetConfig} {checkSecretFiles : Bool}

/-- A target is found by its id wherever it is listed. -/
theorem find?_reordered (reordered : targets.Perm config.targets) (distinct : (config.targets.map (·.id)).Nodup)
    (id : String) : targets.find? (·.id = id) = config.targets.find? (·.id = id) := by
  let listed : Table TargetConfig.id := ⟨config.targets, distinct⟩
  let relisted : Table TargetConfig.id := ⟨targets, (reordered.map _).nodup_iff.mpr distinct⟩
  refine Option.ext fun target => ?_
  have hlisted : listed.find? id = some target ↔ target ∈ config.targets ∧ target.id = id := Table.find?_eq_some_iff
  have hrelisted : relisted.find? id = some target ↔ target ∈ targets ∧ target.id = id := Table.find?_eq_some_iff
  exact (hrelisted.trans (and_congr_left fun _ => reordered.mem_iff)).trans hlisted.symm

/-- A valid configuration is valid in any order of its targets. -/
theorem validate_reordered (reordered : targets.Perm config.targets)
    (valid : config.validate packages checkSecretFiles = .ok ()) :
    (config.withTargets targets).validate packages checkSecretFiles = .ok () := by
  rw [validate_ok_iff, validationErrors_eq_nil_iff] at valid ⊢
  have hmem : ∀ target, target ∈ targets ↔ target ∈ config.targets := fun _ => reordered.mem_iff
  have hids : ∀ id, id ∈ targets.map (·.id) ↔ id ∈ config.targets.map (·.id) := fun _ => (reordered.map _).mem_iff
  have hobservation := valid.observation
  have htargets : ∀ target ∈ targets, target.WellFormed packages (config.withTargets targets) checkSecretFiles := by
    intro target htarget
    have h := valid.targets target ((hmem target).mp htarget)
    exact ⟨h.credentials, h.policy, h.profile, h.origin⟩
  have hbaseline : ∀ baseline, config.behavioralBaseline = some baseline →
      baseline.WellFormed (config.withTargets targets) := by
    intro baseline hsome
    have h := valid.baseline baseline hsome
    refine ⟨h.retained, h.zoned, h.learns, h.nonempty, h.distinct, fun id hid => (hids id).mpr (h.configured id hid), ?_⟩
    intro member hmember other hother
    exact h.profile member ((hmem member).mp hmember) other ((hmem other).mp hother)
  exact {
    version := valid.version
    statePath := valid.statePath
    retains := valid.retains
    observation := { hobservation with
      minimum := ⟨hobservation.minimum.1, reordered.length_eq.symm ▸ hobservation.minimum.2⟩ }
    baseline := hbaseline
    hasProfiles := valid.hasProfiles
    profiles := valid.profiles
    policies := valid.policies
    hasTargets := ⟨fun hnil => valid.hasTargets.1 (List.perm_nil.mp (hnil ▸ reordered.symm)),
      reordered.length_eq.symm ▸ valid.hasTargets.2⟩
    targets := htargets
    slugs := fun target htarget => valid.slugs target ((hmem target).mp htarget)
    distinctIds := (reordered.map _).nodup_iff.mpr valid.distinctIds
    names := fun target htarget => valid.names target ((hmem target).mp htarget)
    distinctNames := (reordered.map _).nodup_iff.mpr valid.distinctNames
    notifications := valid.notifications }

/-! ### The evaluations -/

/-- What is evaluated of one target. -/
def evaluatedOf (config : Config) (reports : List TargetReport)
    (evaluate : TargetConfig → ConditionProfile → TargetReport → List ConditionEvaluation) (target : TargetConfig) :
    List ConditionEvaluation :=
  match reports.find? (·.id = target.id), config.conditionProfiles.get? target.conditionProfile with
  | some report, some profile => evaluate target profile report
  | _, _ => []

section Evaluations

variable {reports : List TargetReport}
  {evaluate : TargetConfig → ConditionProfile → TargetReport → List ConditionEvaluation}

/-- A valid configuration's targets are evaluated one after the other. -/
theorem forTargets_eq_flatMap (valid : config.validate packages checkSecretFiles = .ok ())
    (hreports : (reports.map (·.id)).Perm (config.targets.map (·.id))) :
    forTargets config reports evaluate = .ok (config.targets.flatMap (evaluatedOf config reports evaluate)) := by
  have hall : config.targets.mapM (fun target => (do
      let report ← demand (.panicked "every configured target has a report") (reports.find? (·.id = target.id))
      let profile ← demand (.panicked "validated condition profile reference")
        (config.conditionProfiles.get? target.conditionProfile)
      return evaluate target profile report : Except CommandError (List ConditionEvaluation))) =
      .ok (config.targets.map (evaluatedOf config reports evaluate)) := by
    rw [Fallible.mapM_eq_ok_iff, List.forall₂_map_right_iff, List.forall₂_same]
    intro target htarget
    obtain ⟨report, hreport⟩ := report_of_perm hreports htarget
    obtain ⟨-, ⟨profile, hprofile⟩, -⟩ := target_of_valid valid htarget
    rw [evaluatedOf, hreport, hprofile]
    rfl
  rw [forTargets, hall, List.flatMap_def]
  rfl

/-- The evaluations of one condition are of one target. -/
theorem evaluatedOf_alone (aspects : TargetConfig → TargetReport → List Aspect)
    (hids : ∀ target profile report, (evaluate target profile report).map (·.id) =
      (aspects target report).map target.conditionId)
    (slugs : ∀ target ∈ config.targets, ':' ∉ target.id.toList) (distinct : (config.targets.map (·.id)).Nodup) (id : String) :
    config.targets.Pairwise fun a b => (evaluatedOf config reports evaluate a).filter (·.id = id) = [] ∨
      (evaluatedOf config reports evaluate b).filter (·.id = id) = [] := by
  have hof : ∀ target, (evaluatedOf config reports evaluate target).filter (·.id = id) ≠ [] →
      ∃ aspect, (ConditionKey.target target.id aspect).text = id := by
    intro target hne
    obtain ⟨evaluation, hevaluation⟩ := List.exists_mem_of_ne_nil _ hne
    obtain ⟨hm, hid⟩ := List.mem_filter.mp hevaluation
    unfold evaluatedOf at hm
    split at hm
    case h_1 report profile _ _ =>
      have hmapped := List.mem_map_of_mem (f := ConditionEvaluation.id) hm
      rw [hids] at hmapped
      obtain ⟨aspect, -, haspect⟩ := List.mem_map.mp hmapped
      exact ⟨aspect, haspect.trans (of_decide_eq_true hid)⟩
    case h_2 => cases hm
  refine (List.pairwise_map.mp distinct).imp_of_mem fun {a b} ha hb hne => ?_
  by_contra hboth
  obtain ⟨hfirst, hsecond⟩ := not_or.mp hboth
  obtain ⟨aspect, haspect⟩ := hof a hfirst
  obtain ⟨other, hother⟩ := hof b hsecond
  exact hne (ConditionKey.target.inj (ConditionKey.text_inj (slugs a ha) (slugs b hb) (haspect.trans hother.symm))).1

end Evaluations

/-- Evaluations of conditions that are each of one target are sorted alike,
whatever is evaluated besides. -/
theorem orderBy_reordered {α : Type} {f g : α → List ConditionEvaluation} {items items' : List α}
    (h : items'.Perm items) (hf : ∀ id, items.Pairwise fun a b => (f a).filter (·.id = id) = [] ∨ (f b).filter (·.id = id) = [])
    (hg : ∀ id, items.Pairwise fun a b => (g a).filter (·.id = id) = [] ∨ (g b).filter (·.id = id) = [])
    (rest : List ConditionEvaluation) :
    orderBy (·.id) (items'.flatMap f ++ items'.flatMap g ++ rest) = orderBy (·.id) (items.flatMap f ++ items.flatMap g ++ rest) := by
  refine orderBy_eq_of_filter fun id => ?_
  simp only [List.filter_append, List.filter_flatMap]
  rw [flatMap_eq_of_perm h.symm (hf id), flatMap_eq_of_perm h.symm (hg id)]

/-- **What is evaluated does not depend on the order of the targets.** -/
theorem assembleEvaluations_reordered {reports : List TargetReport} {upstreamSamples : List UpstreamSample}
    {targetSamples : List TargetSample} {started completed : Timestamp} (reordered : targets.Perm config.targets)
    (valid : config.validate packages checkSecretFiles = .ok ())
    (hreports : (reports.map (·.id)).Perm (config.targets.map (·.id))) :
    assembleEvaluations packages (config.withTargets targets) reports upstreamSamples targetSamples started completed =
      assembleEvaluations packages config reports upstreamSamples targetSamples started completed := by
  obtain ⟨hslugs, hdistinct⟩ := targets_of_valid valid
  have hslugs : ∀ target ∈ config.targets, ':' ∉ target.id.toList := fun target htarget =>
    not_mem_of_validId (hslugs target htarget)
  have hreports' : (reports.map (·.id)).Perm ((config.withTargets targets).targets.map (·.id)) :=
    hreports.trans (reordered.map _).symm
  have hfind : ∀ id, (config.withTargets targets).targets.find? (·.id = id) = config.targets.find? (·.id = id) :=
    find?_reordered reordered hdistinct
  have hbehavior : ∀ baseline, assembleBehavior packages (config.withTargets targets) reports targetSamples completed baseline =
      assembleBehavior packages config reports targetSamples completed baseline := by
    intro baseline
    simp only [assembleBehavior, baselineProfile, behaviorProfile, hfind]
    rfl
  have hevaluated := @evaluatedOf_alone config reports _ (declaredAspects packages config)
    (fun target profile report => evaluateTarget_ids packages target profile report started.asSecond (config.policyOf target))
    hslugs hdistinct
  have hlatency := @evaluatedOf_alone config reports _ (fun _ => upstreamAspects)
    (fun target profile report => evaluateUpstreamLatency_ids target profile report completed.asSecond upstreamSamples
      started.asSecond) hslugs hdistinct
  have hsorted := orderBy_reordered reordered hevaluated hlatency
  unfold assembleEvaluations
  rw [forTargets_eq_flatMap valid hreports, forTargets_eq_flatMap valid hreports,
    forTargets_eq_flatMap (validate_reordered reordered valid) hreports',
    forTargets_eq_flatMap (validate_reordered reordered valid) hreports']
  simp only [Fallible.ok_bind]
  have hgroup : (config.withTargets targets).behavioralBaseline = config.behavioralBaseline := rfl
  rw [hgroup]
  cases config.behavioralBaseline with
  | none =>
    have hnone := hsorted []
    simp only [List.append_nil] at hnone
    exact congrArg (fun sorted => Except.ok (none, sorted)) hnone
  | some baseline =>
    dsimp only
    rw [hbehavior]
    cases assembleBehavior packages config reports targetSamples completed baseline with
    | error error => rfl
    | ok value =>
      have hsome := hsorted (value.1 ++ (value.2.map (·.evaluations)).getD [])
      simp only [← List.append_assoc] at hsome
      obtain ⟨behavior, aggregate⟩ := value
      cases aggregate with
      | none => exact congrArg (fun sorted => Except.ok (none, sorted)) hsome
      | some value => exact congrArg (fun sorted => Except.ok (some value.observation, sorted)) hsome

/-- **A phase does not depend on the order of the targets**, listed or finished. -/
theorem evaluationPhase_reordered {observed observed' : List TargetReport} {store : StateStore}
    {started completed : Timestamp} (reordered : targets.Perm config.targets)
    (valid : config.validate packages checkSecretFiles = .ok ()) (finished : observed'.Perm observed)
    (hids : (observed.map (·.id)).Perm (config.targets.map (·.id))) :
    evaluationPhase packages (config.withTargets targets) observed' store started completed =
      evaluationPhase packages config observed store started completed := by
  have hsorted : orderBy (·.id) observed' = orderBy (·.id) observed :=
    orderBy_eq_of_nodup finished (hids.nodup_iff.mpr (targets_of_valid valid).2)
  have hreports : ((orderBy (·.id) observed).map (·.id)).Perm (config.targets.map (·.id)) :=
    ((perm_orderBy _ _).map _).trans hids
  unfold evaluationPhase
  simp only [hsorted, forTargets_eq_flatMap valid hreports, forTargets_eq_flatMap (validate_reordered reordered valid)
    (hreports.trans (reordered.map _).symm), Fallible.ok_bind, assembleEvaluations_reordered reordered valid hreports]
  rfl

/-- A commit looks its configuration's targets up. -/
theorem commitRun_reordered {uuids : ℕ → String} {report : RunReport} {now : ℤ} {cutoff : Timestamp} {suppress : Bool}
    {store : StateStore} (reordered : targets.Perm config.targets) (distinct : (config.targets.map (·.id)).Nodup) :
    store.commitRun uuids report (config.withTargets targets) now cutoff suppress =
      store.commitRun uuids report config now cutoff suppress := by
  have hupdate : StateStore.updateRuntimeState (config.withTargets targets) now = StateStore.updateRuntimeState config now := by
    funext store report
    have hfind : (config.withTargets targets).targets.find? (·.id = report.id) = config.targets.find? (·.id = report.id) :=
      find?_reordered reordered distinct report.id
    simp only [StateStore.updateRuntimeState, hfind]
    rfl
  simp only [StateStore.commitRun, StateStore.persist, StateStore.updateRuntimeStates, hupdate]

end Reordered

/-! ### Checks -/

namespace Circumstances

variable (c : Circumstances) {targets : List TargetConfig} {finished : List TargetReport → List TargetReport}

/-- The same circumstances, but for the order that the targets are listed in and
the order they finish in. -/
def withOrder (reordered : targets.Perm c.config.targets) (finishes : ∀ reports, (finished reports).Perm reports) :
    Circumstances :=
  { c with
    config := c.config.withTargets targets
    valid := validate_reordered reordered c.valid
    finished
    finished_perm := finishes }

variable (reordered : targets.Perm c.config.targets) (finishes : ∀ reports, (finished reports).Perm reports)

theorem perm_observed (store : StateStore) : ((c.withOrder reordered finishes).observed store).Perm (c.observed store) := by
  calc ((c.withOrder reordered finishes).observed store).Perm _ := finishes _
    List.Perm _ (c.config.targets.map _) := reordered.map _
    List.Perm _ (c.observed store) := (c.finished_perm _).symm

theorem ids_observed (store : StateStore) : ((c.observed store).map (·.id)).Perm (c.config.targets.map (·.id)) := by
  refine ((c.finished_perm _).map _).trans (.of_eq ?_)
  rw [List.map_map]
  exact List.map_congr_left fun target _ => observeTarget_storable.2

/-- **What is observed does not depend on the order of the targets.** -/
theorem observation_reordered (recovered : List DeliveryActivity) (store : StateStore) :
    (c.withOrder reordered finishes).observation recovered store = c.observation recovered store := by
  have hsorted : orderBy (·.id) ((c.withOrder reordered finishes).observed store) = orderBy (·.id) (c.observed store) :=
    orderBy_eq_of_nodup (c.perm_observed reordered finishes store)
      ((c.ids_observed store).nodup_iff.mpr (targets_of_valid c.valid).2)
  have hassembled : (c.withOrder reordered finishes).assembled recovered store = c.assembled recovered store := by
    funext evaluated
    simp only [assembled, hsorted]
    rfl
  have hphase : evaluationPhase c.packages (c.config.withTargets targets) ((c.withOrder reordered finishes).observed store)
      store c.started c.completed = evaluationPhase c.packages c.config (c.observed store) store c.started c.completed :=
    evaluationPhase_reordered reordered c.valid (c.perm_observed reordered finishes store) (c.ids_observed store)
  have hreport : assembleReport (c.config.withTargets targets) = assembleReport c.config := by
    funext failOn observed
    have hlength : (c.config.withTargets targets).targets.length = c.config.targets.length := reordered.length_eq
    simp only [assembleReport, runStatus, hlength]
    rfl
  show (do
    let _ ← (newClient c.packages c.config.observation.adguardVersionRequirement).mapError fun error : AdGuardError =>
      CommandError.invocation error.text
    let evaluated ← evaluationPhase c.packages (c.config.withTargets targets)
      ((c.withOrder reordered finishes).observed store) store c.started c.completed
    let _ ← retentionCutoff c.config c.completed
    return assembleReport (c.config.withTargets targets) c.failOn
      ((c.withOrder reordered finishes).assembled recovered store evaluated)) = _
  rw [hphase, hreport, hassembled]
  rfl

end Circumstances

/-- **The order of the targets does not matter.** However a valid configuration
lists its targets and in whatever order they finish, a check of a database does
the same transactions, dies in the same states and returns the same. -/
theorem check_reordered (c : Circumstances) {targets : List TargetConfig} (reordered : targets.Perm c.config.targets)
    {finished : List TargetReport → List TargetReport} (finishes : ∀ reports, (finished reports).Perm reports) :
    checkWithSink (c.withOrder reordered finishes).inputs = checkWithSink c.inputs := by
  have hobserve : (c.withOrder reordered finishes).observation = c.observation := by
    funext recovered store
    exact c.observation_reordered reordered finishes recovered store
  have hinputs : (c.withOrder reordered finishes).inputs = { c.inputs with config := c.config.withTargets targets } := by
    simp only [Circumstances.inputs, hobserve]
    rfl
  have hcommit : ∀ report (store : StateStore), store.commitRun c.inputs.uuids report (c.config.withTargets targets)
        c.inputs.completedUnixSeconds c.inputs.retentionCutoff c.inputs.suppressNotifications =
      store.commitRun c.inputs.uuids report c.config c.inputs.completedUnixSeconds c.inputs.retentionCutoff
        c.inputs.suppressNotifications :=
    fun report store => commitRun_reordered reordered (targets_of_valid c.valid).2
  rw [hinputs]
  simp only [checkWithSink, hcommit]
  rfl

/-- Two resolvers that reject their password. -/
def twoCheck : Circumstances :=
  { rejectedCheck "first" 0 with
    config := (rewritesConfig []).withTargets ((rewritesConfig []).targets ++
      [{ id := "two", name := "Two", baseUrl := "https://one", auth := .none }])
    valid := by decide +kernel }

/-- Listed and finishing the other way round they are checked alike. -/
theorem check_reordered_two : ∃ c : Circumstances, c.config.targets.map (·.id) = ["two", "one"] ∧
    twoCheck.config.targets.map (·.id) = ["one", "two"] ∧ checkWithSink c.inputs = checkWithSink twoCheck.inputs :=
  ⟨twoCheck.withOrder (List.reverse_perm _) List.reverse_perm, rfl, rfl,
    check_reordered twoCheck (List.reverse_perm _) List.reverse_perm⟩

end Sentinel

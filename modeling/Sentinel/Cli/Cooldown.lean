/-
# Targets that pause after a rejection

A commit that records a rejected password pauses its target until a deadline.
A check that starts before the deadline does not ask the target, and neither
it nor any delivery moves the deadline, so the target is paused in every check
before it. A check that starts at the deadline or later asks again, unless
another rejection has been recorded since.

Key theorems: `pauseAfter_commit`, `Following.paused`, `Following.unrejected`, `cooldown_respected`.
-/
import Sentinel.Adguard.Requests
import Sentinel.Cli.Circumstances
import Sentinel.Delivery.Recovery

namespace Sentinel

open Collections CrashTxn Fallible

/-! ### What a commit does to a pause -/

/-- The status a report has for a target. -/
def RunReport.statusOf (report : RunReport) (targetId : String) : Option TargetStatus :=
  (report.targets.find? (·.id = targetId)).map (·.status)

/-- When a target that was rejected may be asked again. -/
def retryAfter (nowUnixSeconds : ℤ) (profile : ConditionProfile) : ℤ :=
  saturatingAdd nowUnixSeconds (min profile.authenticationRetrySeconds.toNat i64Maximum)

/-- A check starts before the deadline just if it starts too early to retry. -/
theorem lt_retryAfter_iff {started completed : Timestamp} {profile : ConditionProfile} :
    started.asSecond < retryAfter completed.asSecond profile ↔
      started.asSecond < completed.asSecond + profile.authenticationRetrySeconds.toNat := by
  have hstarted := started.asSecond_bounds
  have hcompleted := completed.asSecond_bounds
  rw [retryAfter, saturatingAdd, lt_saturate_iff (by unfold i64Minimum; omega) (by unfold i64Maximum; omega)]
  unfold i64Maximum
  omega

/-- A deadline pauses a target until it has passed. -/
theorem pausedUntil_some {row : TargetRuntimeState} {deadline nowUnixSeconds : ℤ} (h : row.authRetryAfter = some deadline) :
    pausedUntil (some row) nowUnixSeconds = if nowUnixSeconds < deadline then some deadline else none := by
  rw [pausedUntil, Option.bind_some, h, Option.filter_some]
  exact if_congr decide_eq_true_iff rfl rfl

/-- The pause of a target, before and after its status is recorded. -/
def PauseAfter (config : Config) (nowUnixSeconds : ℤ) (targetId : String) (before after : Option TargetRuntimeState) :
    Option TargetStatus → Prop
  | some .authenticationRejected => ∃ target profile, config.targets.find? (·.id = targetId) = some target ∧
      config.conditionProfiles.get? target.conditionProfile = some profile ∧
      after = some ⟨targetId, some nowUnixSeconds, some (retryAfter nowUnixSeconds profile)⟩
  | some .complete => after = none
  | _ => after = before

section Commit

variable {config : Config} {nowUnixSeconds : ℤ} {store store' : StateStore}

/-- A report is recorded for its own target. -/
theorem pauseAfter_updateRuntimeState {report : TargetReport}
    (h : StateStore.updateRuntimeState config nowUnixSeconds store report = .ok store') :
    PauseAfter config nowUnixSeconds report.id (store.targetRuntimeState.find? report.id)
      (store'.targetRuntimeState.find? report.id) (some report.status) := by
  unfold StateStore.updateRuntimeState at h
  split at h
  case h_1 hstatus =>
    simp only [bind_eq_ok_iff, demand_eq_ok_iff] at h
    obtain ⟨target, htarget, profile, hprofile, h⟩ := h
    obtain rfl := Except.ok.inj h
    rw [hstatus]
    exact ⟨target, profile, htarget, hprofile, Table.find?_upsert.trans (if_pos rfl)⟩
  case h_2 hstatus =>
    obtain rfl := Except.ok.inj h
    rw [hstatus]
    exact Table.find?_filter_key_ne.trans (if_pos rfl)
  all_goals
    rename_i hstatus
    obtain rfl := Except.ok.inj h
    rw [hstatus]
    rfl

/-- A report leaves the other targets. -/
theorem find?_updateRuntimeState_of_ne {report : TargetReport} {targetId : String}
    (h : StateStore.updateRuntimeState config nowUnixSeconds store report = .ok store') (hne : targetId ≠ report.id) :
    store'.targetRuntimeState.find? targetId = store.targetRuntimeState.find? targetId := by
  unfold StateStore.updateRuntimeState at h
  split at h
  case h_1 =>
    simp only [bind_eq_ok_iff] at h
    obtain ⟨target, -, profile, -, h⟩ := h
    obtain rfl := Except.ok.inj h
    exact Table.find?_upsert.trans (if_neg hne)
  case h_2 =>
    obtain rfl := Except.ok.inj h
    exact Table.find?_filter_key_ne.trans (if_neg hne)
  all_goals
    obtain rfl := Except.ok.inj h
    rfl

/-- **Each target's pause follows its own report.** -/
theorem pauseAfter_updateRuntimeStates {targetId : String} : ∀ {reports : List TargetReport} {store store' : StateStore},
    (reports.map (·.id)).Nodup → reports.foldlM (StateStore.updateRuntimeState config nowUnixSeconds) store = .ok store' →
    PauseAfter config nowUnixSeconds targetId (store.targetRuntimeState.find? targetId)
      (store'.targetRuntimeState.find? targetId) ((reports.find? (·.id = targetId)).map (·.status))
  | [], store, store', _, h => by
    obtain rfl := Except.ok.inj h
    rfl
  | report :: reports, store, store', hdistinct, h => by
    rw [List.foldlM_cons, bind_eq_ok_iff] at h
    obtain ⟨next, hfirst, hrest⟩ := h
    rw [List.map_cons, List.nodup_cons] at hdistinct
    have hrest : PauseAfter config nowUnixSeconds targetId (next.targetRuntimeState.find? targetId)
        (store'.targetRuntimeState.find? targetId) ((reports.find? (·.id = targetId)).map (·.status)) :=
      pauseAfter_updateRuntimeStates hdistinct.2 hrest
    by_cases hid : report.id = targetId
    · have hnone : reports.find? (·.id = targetId) = none := by
        rw [List.find?_eq_none]
        intro other hother hsame
        exact hdistinct.1 (List.mem_map.mpr ⟨other, hother, (of_decide_eq_true hsame).trans hid.symm⟩)
      rw [hnone] at hrest
      have hrest : store'.targetRuntimeState.find? targetId = next.targetRuntimeState.find? targetId := hrest
      rw [List.find?_cons_of_pos (by simpa using hid), hrest]
      subst hid
      exact pauseAfter_updateRuntimeState hfirst
    · rw [List.find?_cons_of_neg (by simpa using hid), ← find?_updateRuntimeState_of_ne hfirst (Ne.symm hid)]
      exact hrest

theorem persist_targetRuntimeState {report : RunReport} {outbox : List OutboxMessage} {states : List ConditionState}
    {cutoff : Timestamp} (h : store.persist report outbox states config nowUnixSeconds cutoff = .ok store') :
    ∃ before after : StateStore, before.targetRuntimeState = store.targetRuntimeState ∧
      before.updateRuntimeStates report config nowUnixSeconds = .ok after ∧
      after.targetRuntimeState = store'.targetRuntimeState := by
  simp only [StateStore.persist, bind_eq_ok_iff] at h
  obtain ⟨_, h₁, _, h₂, _, h₃, before, h₄, after, h₅, _, h₆, _, -, h⟩ := h
  refine ⟨before, after, ?_, h₅, ?_⟩
  · rw [StateStore.foldl_upsertConditionState] at h₄
    simp only [StateStore.insertRun, StateStore.insertTargets, StateStore.insertEvaluations, bind_eq_ok_iff] at h₁ h₂ h₄
    obtain ⟨_, -, _, -, h₁⟩ := h₁
    obtain rfl := Except.ok.inj h₁
    obtain ⟨_, -, h₂⟩ := h₂
    obtain rfl := Except.ok.inj h₂
    obtain ⟨_, -, h₄⟩ := h₄
    obtain rfl := Except.ok.inj h₄
    unfold StateStore.insertAggregate at h₃
    split at h₃
    · obtain rfl := Except.ok.inj h₃
      rfl
    · simp only [bind_eq_ok_iff] at h₃
      obtain ⟨_, -, h₃⟩ := h₃
      obtain rfl := Except.ok.inj h₃
      rfl
  · obtain ⟨_, _, -, -, rfl⟩ := StateStore.insertOutbox_eq_ok h₆
    obtain rfl := Except.ok.inj h
    rfl

/-- **What a commit does to the pause of a target.** -/
theorem pauseAfter_commit {uuids : ℕ → String} {report : RunReport} {cutoff : Timestamp} {suppress : Bool}
    {committed : Committed} (h : store.commitRun uuids report config nowUnixSeconds cutoff suppress = .ok committed)
    (hdistinct : (report.targets.map (·.id)).Nodup) (targetId : String) :
    PauseAfter config nowUnixSeconds targetId (store.targetRuntimeState.find? targetId)
      (committed.store.targetRuntimeState.find? targetId) (report.statusOf targetId) := by
  simp only [StateStore.commitRun, admitReport, bind_eq_ok_iff] at h
  obtain ⟨candidate, ⟨started, -, completed, -, _, -, _, -, _, -, hcandidate⟩, latching, hloop, _, hpersist, h⟩ := h
  obtain rfl := Except.ok.inj hcandidate
  obtain rfl := Except.ok.inj h
  obtain ⟨before, after, hbefore, hupdate, hafter⟩ := persist_targetRuntimeState hpersist
  have hloop : latching.store.targetRuntimeState = store.targetRuntimeState := by
    rw [(latchEvaluations_eq_ok hloop).frame]
  rw [← hloop, ← hbefore, ← hafter]
  exact pauseAfter_updateRuntimeStates hdistinct hupdate

end Commit

/-! ### What deliveries do to the pauses -/

/-- No delivery touches a pause. -/
theorem keptByDelivery_targetRuntimeState (runtime : Table TargetRuntimeState.targetId) :
    KeptByDelivery fun store => store.targetRuntimeState = runtime where
  claim hs ok := by
    obtain ⟨_, _, _, _, -, -, -, -, -, rfl⟩ := StateStore.beginNotificationAttempt_eq_ok ok
    exact hs
  record hs ok := by
    obtain ⟨_, _, _, _, _, -, -, -, -, -, -, -, -, rfl⟩ := StateStore.recordNotificationAttempt_eq_ok ok
    exact hs
  refresh hs ok := by
    obtain ⟨⟨runs, rfl⟩, -⟩ := StateStore.refreshRunDelivery_eq_ok ok
    exact hs

/-- What a recovery leaves has the same pauses. -/
theorem targetRuntimeState_of_recover {recoveredAt : Timestamp} {store : StateStore} :
    (∀ left ∈ crashStates (StateStore.recoverInterruptedAttempts recoveredAt) store,
      left.targetRuntimeState = store.targetRuntimeState) ∧
    ∀ recovered now, Returns (StateStore.recoverInterruptedAttempts recoveredAt) store recovered now →
      now.targetRuntimeState = store.targetRuntimeState := by
  have hkept := keptByDelivery_targetRuntimeState store.targetRuntimeState
  have hspec := spec_recover (I := fun s => s.targetRuntimeState = store.targetRuntimeState)
    (fun hs ok => hkept.record hs ok) recoveredAt
  exact ⟨fun left hleft => hspec.crash rfl hleft, fun recovered now hreturns => (hreturns.of_spec hspec rfl).1⟩

/-! ### One check -/

theorem status_of_observe {packages : Packages} {versions : VersionPackage} {requirement : String} {target : TargetConfig}
    {policy : Option PolicyConfig} {nowUnixSeconds : ℤ} {answers : Answers} {report : TargetReport}
    (h : observe packages versions requirement target policy nowUnixSeconds answers = .ok report) :
    report.status = .complete := by
  simp only [observe, bind_eq_ok_iff] at h
  obtain ⟨_, -, _, -, _, -, _, -, _, -, _, -, _, -, _, -, _, -, _, -, _, -, _, -, _, -, _, -, h⟩ := h
  rw [← Except.ok.inj h]

namespace Circumstances

variable (c : Circumstances)

/-- The report of a target. -/
def reportOf (store : StateStore) (target : TargetConfig) : TargetReport :=
  observeTarget c.packages c.versions c.config (store.targetRuntimeState.find? target.id) c.started.asSecond target
    (c.answers target)

/-- The endpoints that are read of a target: none while it pauses. -/
def requestsTo (store : StateStore) (target : TargetConfig) : List Endpoint :=
  match pausedUntil (store.targetRuntimeState.find? target.id) c.started.asSecond with
  | some _ => []
  | none => (observing c.packages c.versions c.config.observation.adguardVersionRequirement target
      (c.config.policyOf target) c.config.observation.statsLookbackMs c.started.asSecond (c.answers target)).requests

variable {c} {store : StateStore} {recovered : List DeliveryActivity} {report : RunReport}

/-- **A target that pauses is not asked**, and its report says so. -/
theorem paused_target {target : TargetConfig} {deadline : ℤ}
    (h : pausedUntil (store.targetRuntimeState.find? target.id) c.started.asSecond = some deadline) :
    c.requestsTo store target = [] ∧ (c.reportOf store target).status = .authenticationCooldown := by
  simp only [requestsTo, reportOf, observeTarget, h]
  exact ⟨trivial, rfl⟩

/-- **A target that does not pause is asked**, and its report is made of its answers. -/
theorem asked_target {target : TargetConfig}
    (h : pausedUntil (store.targetRuntimeState.find? target.id) c.started.asSecond = none) :
    .status ∈ c.requestsTo store target ∧ (c.reportOf store target).status ≠ .authenticationCooldown := by
  simp only [requestsTo, reportOf, observeTarget, h]
  refine ⟨status_mem_observing .., ?_⟩
  cases hobserved : observe c.packages c.versions c.config.observation.adguardVersionRequirement target
      (c.config.policyOf target) c.started.asSecond (c.answers target) with
  | ok report =>
    dsimp only
    rw [status_of_observe hobserved]
    decide
  | error error =>
    show error.targetStatus ≠ .authenticationCooldown
    cases error <;> simp [AdGuardError.targetStatus]

theorem observation_targets (h : c.observation recovered store = .ok report) :
    report.targets.Perm (c.config.targets.map (c.reportOf store)) := by
  obtain ⟨evaluated, -, -, rfl⟩ := observation_eq_ok h
  exact (perm_orderBy _ _).trans (c.finished_perm _)

theorem observation_distinct (h : c.observation recovered store = .ok report) : (report.targets.map (·.id)).Nodup := by
  rw [((observation_targets h).map _).nodup_iff, List.map_map]
  have hids : (fun report : TargetReport => report.id) ∘ c.reportOf store = fun target => target.id :=
    funext fun target => observeTarget_storable.2
  rw [hids]
  exact (targets_of_valid c.valid).2

/-- **The report of an observation** has the status of each configured target. -/
theorem statusOf_observation (h : c.observation recovered store = .ok report) {target : TargetConfig}
    (htarget : target ∈ c.config.targets) : report.statusOf target.id = some (c.reportOf store target).status := by
  have hmem : c.reportOf store target ∈ report.targets :=
    (observation_targets h).mem_iff.mpr (List.mem_map_of_mem htarget)
  have hid : (c.reportOf store target).id = target.id := observeTarget_storable.2
  let reports : Table TargetReport.id := ⟨report.targets, observation_distinct h⟩
  have hfind : reports.find? (c.reportOf store target).id = some (c.reportOf store target) := Table.find?_key hmem
  rw [hid] at hfind
  rw [RunReport.statusOf]
  exact congrArg (Option.map (·.status)) hfind

theorem exists_of_statusOf (h : c.observation recovered store = .ok report) {targetId : String} {status : TargetStatus}
    (hstatus : report.statusOf targetId = some status) : ∃ target ∈ c.config.targets, target.id = targetId := by
  obtain ⟨entry, hentry, -⟩ := Option.map_eq_some_iff.mp hstatus
  have hid : entry.id = targetId := by simpa using List.find?_some hentry
  obtain ⟨target, htarget, rfl⟩ :=
    List.mem_map.mp ((observation_targets h).mem_iff.mp (List.mem_of_find?_eq_some hentry))
  exact ⟨target, htarget, observeTarget_storable.2.symm.trans hid⟩

/-- **A paused target is reported as paused**, if it is configured. -/
theorem statusOf_of_paused (h : c.observation recovered store = .ok report) {targetId : String} {deadline : ℤ}
    (hpaused : pausedUntil (store.targetRuntimeState.find? targetId) c.started.asSecond = some deadline) :
    report.statusOf targetId = none ∨ report.statusOf targetId = some .authenticationCooldown := by
  cases hstatus : report.statusOf targetId with
  | none => exact .inl rfl
  | some status =>
    obtain ⟨target, htarget, rfl⟩ := exists_of_statusOf h hstatus
    rw [← hstatus, statusOf_observation h htarget, (paused_target hpaused).2]
    exact .inr rfl

/-! ### What a check leaves -/

/-- What a check may leave, and what it has committed. -/
inductive Leaves (c : Circumstances) (store : StateStore) : Option RunReport → StateStore → Prop
  | uncommitted {left : StateStore} (recovery : left ∈ crashStates (StateStore.recoverInterruptedAttempts c.started) store) :
      Leaves c store none left
  | committed {recovered : List DeliveryActivity} {now left : StateStore} {report : RunReport} {committed : Committed}
      (commits : Committing c.inputs store recovered now report committed)
      (delivery : left ∈ crashStates (finishCheck c.inputs recovered committed.report) committed.store) :
      Leaves c store (some report) left

theorem leaves_of_crash {left : StateStore} (h : left ∈ crashStates (checkWithSink c.inputs) store) :
    ∃ report, c.Leaves store report left := by
  rcases left_cases h with hrecovery | ⟨_, _, report, _, hcommits, hdelivery⟩
  · exact ⟨none, .uncommitted hrecovery⟩
  · exact ⟨some report, .committed hcommits hdelivery⟩

/-- What a check does once it has committed leaves the pauses. -/
theorem targetRuntimeState_of_finish {committed : StateStore} {inputs : CheckInputs} {left : StateStore}
    (h : left ∈ crashStates (finishCheck inputs recovered report) committed) :
    left.targetRuntimeState = committed.targetRuntimeState :=
  (spec_finish (keptByDelivery_targetRuntimeState committed.targetRuntimeState) inputs recovered report).crash rfl h

/-- **What a check does to the pause of a target.** -/
theorem Leaves.pauseAfter {report : Option RunReport} {left : StateStore} (h : c.Leaves store report left)
    (targetId : String) : PauseAfter c.config c.completed.asSecond targetId (store.targetRuntimeState.find? targetId)
      (left.targetRuntimeState.find? targetId) (report.bind (·.statusOf targetId)) := by
  cases h with
  | uncommitted recovery => exact congrArg (Table.find? targetId) (targetRuntimeState_of_recover.1 left recovery)
  | @committed _ now _ report committed commits delivery =>
    rw [targetRuntimeState_of_finish delivery, ← targetRuntimeState_of_recover.2 _ now commits.recovers]
    exact pauseAfter_commit commits.commits (observation_distinct commits.observes) targetId

/-- The pause that a committed rejection leaves. -/
theorem row_of_rejected {now : StateStore} {committed : Committed}
    (h : Committing c.inputs store recovered now report committed) {target : TargetConfig} (htarget : target ∈ c.config.targets)
    {profile : ConditionProfile} (hprofile : c.config.conditionProfiles.get? target.conditionProfile = some profile)
    (hrejected : report.statusOf target.id = some .authenticationRejected) :
    committed.store.targetRuntimeState.find? target.id =
      some ⟨target.id, some c.completed.asSecond, some (retryAfter c.completed.asSecond profile)⟩ := by
  have hpause := pauseAfter_commit h.commits (observation_distinct h.observes) target.id
  rw [hrejected] at hpause
  obtain ⟨found, foundProfile, hfound, hfoundProfile, hafter⟩ := hpause
  -- the target of this id is the one of the configuration
  let targets : Table TargetConfig.id := ⟨c.config.targets, (targets_of_valid c.valid).2⟩
  have hsame : targets.find? target.id = some target := Table.find?_key htarget
  obtain rfl := Option.some.inj (hsame.symm.trans hfound)
  obtain rfl := Option.some.inj (hprofile.symm.trans hfoundProfile)
  exact hafter

/-- **A check that starts before the deadline** leaves the pause. -/
theorem Leaves.paused {report : Option RunReport} {left : StateStore} (h : c.Leaves store report left)
    {targetId : String} {deadline : ℤ}
    (hpaused : pausedUntil (store.targetRuntimeState.find? targetId) c.started.asSecond = some deadline) :
    left.targetRuntimeState.find? targetId = store.targetRuntimeState.find? targetId := by
  have hpause := h.pauseAfter targetId
  have hstatus : report.bind (·.statusOf targetId) = none ∨
      report.bind (·.statusOf targetId) = some .authenticationCooldown := by
    cases h with
    | uncommitted => exact .inl rfl
    | @committed _ now _ report committed commits =>
      rw [← targetRuntimeState_of_recover.2 _ now commits.recovers] at hpaused
      exact statusOf_of_paused commits.observes hpaused
  rcases hstatus with hstatus | hstatus <;> rw [hstatus] at hpause
  · exact hpause
  · exact hpause

/-- A check that records no rejection leaves the pause, or ends it. -/
theorem Leaves.unrejected {report : Option RunReport} {left : StateStore} (h : c.Leaves store report left)
    {targetId : String} (hstatus : report.bind (·.statusOf targetId) ≠ some .authenticationRejected) :
    left.targetRuntimeState.find? targetId = store.targetRuntimeState.find? targetId ∨
      left.targetRuntimeState.find? targetId = none := by
  have hpause := h.pauseAfter targetId
  unfold PauseAfter at hpause
  split at hpause
  case h_1 heq => exact absurd heq hstatus
  case h_2 => exact .inr hpause
  case h_3 => exact .inl hpause

end Circumstances

/-! ### Checks one after the other -/

/-- Checks one after the other, none of which starts earlier than the one before:
what each has committed, and when the last started. -/
inductive Following (clock : Timestamp) (store : StateStore) :
    List (Circumstances × Option RunReport) → Timestamp → StateStore → Prop
  | refl : Following clock store [] clock store
  | check {later : List (Circumstances × Option RunReport)} {now : Timestamp} {stored left : StateStore}
      {report : Option RunReport} (h : Following clock store later now stored) (c : Circumstances)
      (order : now ≤ c.started) (leaves : c.Leaves stored report left) :
      Following clock store (later ++ [(c, report)]) c.started left

namespace Following

variable {clock now : Timestamp} {store stored : StateStore} {later : List (Circumstances × Option RunReport)}
  {targetId : String}

/-- **Until the deadline the pause stays as it is.** -/
theorem paused (h : Following clock store later now stored) {row : TargetRuntimeState} {deadline : ℤ}
    (hrow : store.targetRuntimeState.find? targetId = some row) (hdeadline : row.authRetryAfter = some deadline)
    (hbefore : now.asSecond < deadline) : stored.targetRuntimeState.find? targetId = some row := by
  induction h with
  | refl => exact hrow
  | check _ c order leaves ih =>
    have hkept := ih (lt_of_le_of_lt (Timestamp.asSecond_mono order) hbefore)
    refine (leaves.paused (?_ : _ = some deadline)).trans hkept
    rw [hkept, pausedUntil_some hdeadline, if_pos hbefore]

/-- **Without another rejection** the pause stays as it is, or ends. -/
theorem unrejected (h : Following clock store later now stored)
    (hlater : ∀ entry ∈ later, entry.2.bind (·.statusOf targetId) ≠ some .authenticationRejected) :
    stored.targetRuntimeState.find? targetId = store.targetRuntimeState.find? targetId ∨
      stored.targetRuntimeState.find? targetId = none := by
  induction h with
  | refl => exact .inl rfl
  | check _ c order leaves ih =>
    have hkept := ih fun entry hentry => hlater entry (List.mem_append_left _ hentry)
    rcases leaves.unrejected (hlater _ List.mem_concat_self) with hsame | hnone
    · rwa [hsame]
    · exact .inr hnone

end Following

/-- **The pause after a rejection is kept.** A check that starts before the
deadline leaves it where it is, asks the target nothing and reports that it is
paused; one that starts later asks the target, if no other rejection has been
recorded since. -/
theorem cooldown_respected {first : Circumstances} {store now left : StateStore} {recovered : List DeliveryActivity}
    {report : RunReport} {committed : Committed} (commits : Committing first.inputs store recovered now report committed)
    (delivery : left ∈ crashStates (finishCheck first.inputs recovered committed.report) committed.store)
    {target : TargetConfig} (htarget : target ∈ first.config.targets) {profile : ConditionProfile}
    (hprofile : first.config.conditionProfiles.get? target.conditionProfile = some profile)
    (hrejected : report.statusOf target.id = some .authenticationRejected)
    {later : List (Circumstances × Option RunReport)} {clock : Timestamp} {stored : StateStore}
    (hlater : Following first.started left later clock stored) (c : Circumstances) (order : clock ≤ c.started) :
    (c.started.asSecond < first.completed.asSecond + profile.authenticationRetrySeconds.toNat →
      (∀ left ∈ crashStates (checkWithSink c.inputs) stored, left.targetRuntimeState.find? target.id =
        committed.store.targetRuntimeState.find? target.id) ∧
      ∀ recovered now, Observing c.inputs stored recovered now →
        ∀ again ∈ c.config.targets, again.id = target.id → c.requestsTo now again = [] ∧
          ∀ report, c.observation recovered now = .ok report →
            report.statusOf target.id = some .authenticationCooldown) ∧
    (first.completed.asSecond + profile.authenticationRetrySeconds.toNat ≤ c.started.asSecond →
      (∀ entry ∈ later, entry.2.bind (·.statusOf target.id) ≠ some .authenticationRejected) →
      ∀ recovered now, Observing c.inputs stored recovered now →
        ∀ again ∈ c.config.targets, again.id = target.id → .status ∈ c.requestsTo now again ∧
          ∀ report, c.observation recovered now = .ok report →
            report.statusOf target.id ≠ some .authenticationCooldown) := by
  have hrow := Circumstances.row_of_rejected commits htarget hprofile hrejected
  rw [← Circumstances.targetRuntimeState_of_finish delivery] at hrow ⊢
  constructor
  · intro hbefore
    have hbefore := lt_retryAfter_iff.mpr hbefore
    have hkept := hlater.paused hrow rfl (lt_of_le_of_lt (Timestamp.asSecond_mono order) hbefore)
    have hpaused : pausedUntil (stored.targetRuntimeState.find? target.id) c.started.asSecond =
        some (retryAfter first.completed.asSecond profile) := by
      rw [hkept, pausedUntil_some rfl, if_pos hbefore]
    refine ⟨fun left hleft => ?_, fun recovered now hobserving again hagain hid => ?_⟩
    · obtain ⟨report, hleaves⟩ := Circumstances.leaves_of_crash hleft
      rw [hleaves.paused hpaused, hkept, hrow]
    · rw [← targetRuntimeState_of_recover.2 _ now hobserving.recovers, ← hid] at hpaused
      obtain ⟨hsilent, hstatus⟩ := Circumstances.paused_target hpaused
      refine ⟨hsilent, fun report hreport => ?_⟩
      rw [← hid, Circumstances.statusOf_observation hreport hagain, hstatus]
  · intro hafter hlast recovered now hobserving again hagain hid
    have hafter : ¬c.started.asSecond < retryAfter first.completed.asSecond profile := by
      rw [lt_retryAfter_iff]
      omega
    have hopen : pausedUntil (now.targetRuntimeState.find? again.id) c.started.asSecond = none := by
      rw [targetRuntimeState_of_recover.2 _ now hobserving.recovers, hid]
      rcases hlater.unrejected hlast with hkept | hnone
      · rw [hkept, hrow, pausedUntil_some rfl, if_neg hafter]
      · rw [hnone]
        rfl
    obtain ⟨hasked, hstatus⟩ := Circumstances.asked_target hopen
    refine ⟨hasked, fun report hreport => ?_⟩
    rw [← hid, Circumstances.statusOf_observation hreport hagain]
    exact fun h => hstatus (Option.some.inj h)

/-! ### A resolver that rejects every password -/

/-- Whether a check with nothing to recover commits, and what of. -/
def Circumstances.commitsQuietly (c : Circumstances) (store : StateStore) (p : RunReport → Committed → Bool) : Bool :=
  decide (store.ensureRunMode c.mode = .ok ()) && decide (checkClock c.started store = .ok ()) &&
    store.notificationOutbox.rows.all (·.status ≠ .inFlight) &&
    (c.observation [] store).toOption.any fun report =>
      (store.commitRun c.uuids report c.config c.completed.asSecond c.inputs.retentionCutoff
        c.suppressNotifications).toOption.any (p report)

theorem Circumstances.committing_of_commitsQuietly {c : Circumstances} {store : StateStore}
    {p : RunReport → Committed → Bool} (canonical : Timestamp.yearZero ≤ c.started.nanoseconds)
    (h : c.commitsQuietly store p) :
    ∃ report committed, Committing c.inputs store [] store report committed ∧ p report committed := by
  simp only [commitsQuietly, Bool.and_eq_true, decide_eq_true_eq, List.all_eq_true] at h
  obtain ⟨⟨⟨hmode, hclock⟩, hquiet⟩, h⟩ := h
  obtain ⟨report, hreport, h⟩ := ok_of_any h
  obtain ⟨committed, hcommitted, h⟩ := ok_of_any h
  exact ⟨report, committed, ⟨⟨hmode, hclock, recovers_nil canonical hquiet⟩, hreport, hcommitted⟩, h⟩

def rejectingAnswers : Answers :=
  ⟨.error .authenticationRejected, .error .authenticationRejected, .error .authenticationRejected,
    .error .authenticationRejected, .error .authenticationRejected, .error .authenticationRejected⟩

/-- A dry check of one resolver. -/
def rejectedCheck (runId : String) (seconds : ℕ) : Circumstances where
  packages := packagesWith []
  versions := ⟨some, fun _ _ => true, id⟩
  config := rewritesConfig []
  valid := by decide +kernel
  dryRun := true
  failOn := .never
  started := second seconds
  completed := second seconds
  selectedAt := second seconds
  answers _ := rejectingAnswers
  finished := id
  finished_perm _ := .refl _
  runId
  configSha256 := ""
  uuids _ := runId ++ "-message"
  providerError := none
  send _ := ⟨runId ++ "-attempt", second seconds, second seconds, .retryable none "network"⟩

def rejectedTarget : TargetConfig :=
  { id := "one", name := "One", baseUrl := "https://one", auth := .none, policy := some "home" }

/-- After one rejection the resolver is left alone for fifteen minutes. -/
theorem cooldown_respected_once : ∃ report committed,
    Committing (rejectedCheck "first" 0).inputs .empty [] .empty report committed ∧
      (rejectedCheck "next" 899).requestsTo committed.store rejectedTarget = [] ∧
      .status ∈ (rejectedCheck "next" 900).requestsTo committed.store rejectedTarget := by
  have hruns : (rejectedCheck "first" 0).commitsQuietly .empty (fun report committed =>
      decide (report.statusOf "one" = some .authenticationRejected) &&
      [899, 900].all fun seconds => (rejectedCheck "next" seconds).commitsQuietly committed.store fun _ _ => true) = true := by
    decide +kernel
  obtain ⟨report, committed, hcommits, hruns⟩ := Circumstances.committing_of_commitsQuietly (by decide) hruns
  rw [Bool.and_eq_true, decide_eq_true_eq, List.all_eq_true] at hruns
  obtain ⟨hrejected, hnext⟩ := hruns
  have hobserving : ∀ seconds ∈ [899, 900],
      Observing (rejectedCheck "next" seconds).inputs committed.store [] committed.store := by
    intro seconds hseconds
    have canonical : Timestamp.yearZero ≤ (second seconds).nanoseconds := by
      simp only [second, Timestamp.yearZero, nanosecondsPerSecond]
      omega
    obtain ⟨_, _, hcommitting, -⟩ := Circumstances.committing_of_commitsQuietly canonical (hnext seconds hseconds)
    exact hcommitting.toObserving
  have hprofile : (rejectedCheck "first" 0).config.conditionProfiles.get? rejectedTarget.conditionProfile = some {} := rfl
  have hrespected := fun c => cooldown_respected hcommits List.mem_cons_self (List.mem_singleton_self rejectedTarget)
    hprofile hrejected .refl c
  refine ⟨report, committed, hcommits, ?_, ?_⟩
  · exact (((hrespected (rejectedCheck "next" 899) (by decide)).1 (by decide)).2 [] committed.store
      (hobserving 899 (by decide)) rejectedTarget (List.mem_singleton_self _) rfl).1
  · exact ((hrespected (rejectedCheck "next" 900) (by decide)).2 (by decide) (by simp) [] committed.store
      (hobserving 900 (by decide)) rejectedTarget (List.mem_singleton_self _) rfl).1

/-- **A deadline may be renewed.** A resolver that rejects the password again
after its first deadline is not asked until the second. -/
theorem cooldown_renewed :
    ¬∀ (first : Circumstances) (store now : StateStore) (recovered : List DeliveryActivity) (report : RunReport)
      (committed : Committed) (target : TargetConfig) (profile : ConditionProfile)
      (later : List (Circumstances × Option RunReport)) (clock : Timestamp) (stored : StateStore) (c : Circumstances)
      (recovered' : List DeliveryActivity) (now' : StateStore),
      Committing first.inputs store recovered now report committed → target ∈ first.config.targets →
      first.config.conditionProfiles.get? target.conditionProfile = some profile →
      report.statusOf target.id = some .authenticationRejected →
      Following first.started committed.store later clock stored → clock ≤ c.started →
      Observing c.inputs stored recovered' now' → target ∈ c.config.targets →
      first.completed.asSecond + profile.authenticationRetrySeconds.toNat ≤ c.started.asSecond →
      .status ∈ c.requestsTo now' target := by
  intro h
  have hruns : (rejectedCheck "first" 0).commitsQuietly .empty (fun report committed =>
      decide (report.statusOf "one" = some .authenticationRejected) &&
      (rejectedCheck "second" 900).commitsQuietly committed.store fun _ committed =>
        decide ((rejectedCheck "third" 1000).requestsTo committed.store rejectedTarget = []) &&
        (rejectedCheck "third" 1000).commitsQuietly committed.store fun _ _ => true) = true := by decide +kernel
  obtain ⟨report, committed, hfirst, hruns⟩ := Circumstances.committing_of_commitsQuietly (by decide) hruns
  rw [Bool.and_eq_true, decide_eq_true_eq] at hruns
  obtain ⟨hrejected, hruns⟩ := hruns
  obtain ⟨again, renewed, hsecond, hruns⟩ := Circumstances.committing_of_commitsQuietly (by decide) hruns
  rw [Bool.and_eq_true, decide_eq_true_eq] at hruns
  obtain ⟨hsilent, hruns⟩ := hruns
  obtain ⟨_, _, hthird, -⟩ := Circumstances.committing_of_commitsQuietly (by decide) hruns
  have hlater : Following (rejectedCheck "first" 0).started committed.store
      ([] ++ [(rejectedCheck "second" 900, some again)]) (rejectedCheck "second" 900).started renewed.store :=
    .check .refl _ (by decide) (.committed hsecond List.mem_cons_self)
  have hasked := h _ _ _ _ report committed rejectedTarget {} _ _ renewed.store (rejectedCheck "third" 1000) [] renewed.store
    hfirst (List.mem_singleton_self _) rfl hrejected hlater (by decide) hthird.toObserving (List.mem_singleton_self _)
    (by decide)
  rw [hsilent] at hasked
  exact absurd hasked List.not_mem_nil

end Sentinel

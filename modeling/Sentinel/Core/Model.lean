/-
# The data model

The reports, samples, conditions and notifications that the resolver client,
the analysis, the store and the command line exchange. Counters keep the
source's widths; a JSON value is a tree; a time is an instant
(`Timestamp`) where the source passes its canonical text.
-/
import Sentinel.Core.Time
import Sentinel.Lib.Binary64
import Sentinel.Lib.Text

namespace Sentinel

/-! ### JSON values -/

/-- A JSON value. An integer is a number of either sign, as the serializer
keeps integers apart from floats. -/
inductive Value where
  | null
  | bool (b : Bool)
  | integer (n : ℤ)
  | float (x : Binary64)
  | string (s : String)
  | array (items : List Value)
  | object (fields : List (String × Value))

namespace Value

/-- A float as JSON: a number if it is finite, `null` otherwise. -/
def ofF64 (x : Binary64) : Value := if x.isFinite then float x else null

def ofOption {α : Type} (f : α → Value) : Option α → Value
  | some a => f a
  | none => null

end Value

/-! ### Enumerations -/

inductive Severity where
  | warning
  | error
  | critical
  deriving DecidableEq, Repr

/-- Severities from the mildest to the gravest. -/
def Severity.rank : Severity → ℕ
  | warning => 0
  | error => 1
  | critical => 2

inductive RunMode where
  | live
  | dryRun
  deriving DecidableEq, Repr

/-- The serialized spelling of a mode. -/
def RunMode.encode : RunMode → String
  | live => "live"
  | dryRun => "dry_run"

inductive RunStatus where
  | complete
  | partly
  | unhealthy
  deriving DecidableEq, Repr

inductive TargetStatus where
  | complete
  | authenticationRejected
  | authenticationCooldown
  | unavailable
  | invalidResponse
  | unsupportedVersion
  | responseTooLarge
  deriving DecidableEq, Repr

/-- The serialized spelling of a status. -/
def TargetStatus.encode : TargetStatus → String
  | complete => "complete"
  | authenticationRejected => "authentication_rejected"
  | authenticationCooldown => "authentication_cooldown"
  | unavailable => "unavailable"
  | invalidResponse => "invalid_response"
  | unsupportedVersion => "unsupported_version"
  | responseTooLarge => "response_too_large"

def TargetStatus.all : List TargetStatus :=
  [complete, authenticationRejected, authenticationCooldown, unavailable, invalidResponse,
    unsupportedVersion, responseTooLarge]

/-- The status a text spells. -/
def TargetStatus.decode (text : String) : Option TargetStatus :=
  TargetStatus.all.find? fun status => status.encode = text

theorem TargetStatus.decode_encode : ∀ status : TargetStatus, decode status.encode = some status := by
  intro status
  cases status <;> decide

inductive EvaluationOutcome where
  | active
  | clear
  | notEvaluated
  deriving DecidableEq, Repr

inductive ConditionLifecycle where
  | clear
  | pending
  | firing
  deriving DecidableEq, Repr

inductive AlertDeliveryState where
  | never
  | pending
  | delivered
  | suppressed
  | failed
  | unknown
  | resolved
  deriving DecidableEq, Repr

inductive TransitionKind where
  | alert
  | resolution
  deriving DecidableEq, Repr

inductive NotificationStatus where
  | pending
  | inFlight
  | suppressed
  | delivered
  | retryable
  | failed
  | unknown
  | cancelled
  deriving DecidableEq, Repr

inductive DeliveryAction where
  | attempt
  | recovered
  deriving DecidableEq, Repr

/-! ### Observations -/

structure OperationalObservation where
  protectionEnabled : Bool
  queries : UInt64
  blocked : UInt64
  blockedRatio : Binary64
  averageProcessingSeconds : Binary64
  maximumUpstreamSeconds : Binary64
  topClientShare : Binary64
  deriving DecidableEq, Repr

structure DnsObservation where
  upstreamMode : String
  upstreamDns : List String
  deriving DecidableEq, Repr

structure UpstreamObservation where
  identity : String
  averageSeconds : Binary64
  /-- The responses behind the average; absent when they are unknown. -/
  responses : Option UInt64
  deriving DecidableEq, Repr

structure FilterObservation where
  url : String
  serverId : ℤ
  enabled : Bool
  rulesCount : UInt64
  lastUpdated : Option String
  lastUpdatedUnixSeconds : Option ℤ
  deriving DecidableEq, Repr

structure RewriteObservation where
  domain : String
  answer : String
  enabled : Bool
  deriving DecidableEq, Repr

structure TargetReport where
  id : String
  name : String
  status : TargetStatus
  complete : Bool
  serverVersion : Option String
  operational : Option OperationalObservation
  dns : Option DnsObservation
  filteringEnabled : Option Bool
  rewritesEnabled : Option Bool
  upstreams : List UpstreamObservation
  filters : List FilterObservation
  rewrites : List RewriteObservation
  errorKind : Option String
  errorDetail : Option String
  deriving DecidableEq, Repr

/-- The report of a target that could not be observed. -/
def TargetReport.incomplete (id name : String) (status : TargetStatus) (errorKind errorDetail : String) :
    TargetReport where
  id
  name
  status
  complete := false
  serverVersion := none
  operational := none
  dns := none
  filteringEnabled := none
  rewritesEnabled := none
  upstreams := []
  filters := []
  rewrites := []
  errorKind := some errorKind
  errorDetail := some errorDetail

/-! ### Samples -/

/-- One stored reading of a target's cumulative statistics. -/
structure TargetSample where
  runId : String
  targetId : String
  timestamp : ℤ
  queries : UInt64
  blocked : UInt64
  deriving DecidableEq, Repr

/-- One upstream's cumulative responses and their summed duration. -/
structure UpstreamCounter where
  identity : String
  responses : UInt64
  totalMicroseconds : UInt64
  deriving DecidableEq, Repr

/-- One reading of a target's cumulative upstream counters, taken between
`observationStarted` and `timestamp`. -/
structure UpstreamSample where
  targetId : String
  observationStarted : ℤ
  timestamp : ℤ
  upstreams : List UpstreamCounter
  deriving DecidableEq, Repr

/-- The summed duration behind an average of `responses` responses, or `none`
for a value that cannot be such a sum. -/
def UpstreamCounter.fromAverage (identity : String) (averageSeconds : Binary64) (responses : UInt64) :
    Option UpstreamCounter :=
  if !averageSeconds.isFinite || averageSeconds.lt (.ofNat 0) then none
  else
    let total := ((averageSeconds.mul (.ofNat 1000000)).mul (.ofNat responses.toNat)).round
    -- past 2^53 a double cannot hold every integer sum
    if Binary64.lt (.ofNat 9007199254740992) total then none
    else some ⟨identity, responses, total.toU64⟩

structure AggregateObservation where
  localHour : UInt8
  utcOffsetMinutes : ℤ
  combinedQueries : UInt64
  combinedBlockedRatio : Binary64
  baselineAgeSeconds : ℤ
  sameHourSamples : ℕ
  baselineReady : Bool
  resolverQueryShare : List (String × Binary64)
  topClientShare : List (String × Binary64)
  deriving DecidableEq, Repr

/-! ### Conditions -/

structure ConditionEvaluation where
  id : String
  targetId : Option String
  /-- What was checked: stable for an `id`. -/
  kind : String
  /-- What the check found this time. -/
  reason : String
  severity : Severity
  outcome : EvaluationOutcome
  summary : String
  expected : Value
  observed : Value
  evidenceSource : String
  observationComplete : Bool
  sustainRuns : UInt32
  recoveryRuns : UInt32
  consecutiveActive : UInt32
  consecutiveClear : UInt32
  lifecycle : ConditionLifecycle
  notificationState : AlertDeliveryState
  firstObservedAt : Option Timestamp

structure ConditionState where
  id : String
  targetId : Option String
  kind : String
  severity : Severity
  lifecycle : ConditionLifecycle
  firstObservedAt : Option Timestamp
  lastObservedAt : Option Timestamp
  consecutiveActive : UInt32
  consecutiveClear : UInt32
  alertDeliveryState : AlertDeliveryState
  lastTransitionRun : Option String
  episodeId : Option String
  deriving DecidableEq, Repr

/-- The state of a condition first seen in an evaluation. -/
def ConditionState.fromEvaluation (evaluation : ConditionEvaluation) : ConditionState where
  id := evaluation.id
  targetId := evaluation.targetId
  kind := evaluation.kind
  severity := evaluation.severity
  lifecycle := .clear
  firstObservedAt := none
  lastObservedAt := none
  consecutiveActive := 0
  consecutiveClear := 0
  alertDeliveryState := .never
  lastTransitionRun := none
  episodeId := none

structure Finding where
  id : String
  targetId : Option String
  kind : String
  reason : String
  severity : Severity
  lifecycle : ConditionLifecycle
  firstObservedAt : Option Timestamp
  consecutiveActive : UInt32
  consecutiveClear : UInt32
  notificationState : AlertDeliveryState
  summary : String
  expected : Value
  observed : Value
  evidenceSource : String
  observationComplete : Bool

def Finding.ofEvaluation (evaluation : ConditionEvaluation) : Finding where
  id := evaluation.id
  targetId := evaluation.targetId
  kind := evaluation.kind
  reason := evaluation.reason
  severity := evaluation.severity
  lifecycle := evaluation.lifecycle
  firstObservedAt := evaluation.firstObservedAt
  consecutiveActive := evaluation.consecutiveActive
  consecutiveClear := evaluation.consecutiveClear
  notificationState := evaluation.notificationState
  summary := evaluation.summary
  expected := evaluation.expected
  observed := evaluation.observed
  evidenceSource := evaluation.evidenceSource
  observationComplete := evaluation.observationComplete

structure ConditionTransition where
  conditionId : String
  kind : TransitionKind
  summary : String
  deriving DecidableEq, Repr

/-! ### Notifications and runs -/

structure NotificationReport where
  id : String
  transition : TransitionKind
  conditionIds : List String
  status : NotificationStatus
  remoteRequestId : Option String
  errorClass : Option String
  deriving DecidableEq, Repr

/-- Delivery work a run handled, for messages of any run. -/
structure DeliveryActivity where
  attemptId : String
  originRunId : String
  action : DeliveryAction
  notification : NotificationReport
  deriving DecidableEq, Repr

structure RunHealth where
  minimumCompleteTargets : ℕ
  completeTargets : ℕ
  met : Bool
  issues : List String
  deriving DecidableEq, Repr

structure ExitReport where
  code : UInt8
  reason : String
  deriving DecidableEq, Repr

structure RunReport where
  schemaVersion : UInt32
  runId : String
  mode : RunMode
  startedAt : Timestamp
  completedAt : Timestamp
  configSha256 : String
  stateSchemaVersion : UInt32
  runStatus : RunStatus
  expectedTargets : ℕ
  completeTargets : ℕ
  minimumCompleteTargets : ℕ
  targets : List TargetReport
  aggregate : Option AggregateObservation
  evaluations : List ConditionEvaluation
  findings : List Finding
  transitions : List ConditionTransition
  notifications : List NotificationReport
  deliveryActivity : List DeliveryActivity
  health : RunHealth
  exit : ExitReport

structure TargetRuntimeState where
  targetId : String
  authFailedAt : Option ℤ
  authRetryAfter : Option ℤ
  deriving DecidableEq, Repr

structure OutboxMessage where
  id : String
  runId : String
  transition : TransitionKind
  title : String
  message : String
  priority : ℤ
  status : NotificationStatus
  conditionIds : List String
  deriving DecidableEq, Repr

/-- The version of the report format. -/
def reportSchemaVersion : UInt32 := 1

/-- The version of the stored state. -/
def stateSchemaVersion : UInt32 := 3

/-- What an exit code stands for. -/
def exitReason (code : UInt8) : String :=
  match code with
  | 0 => "observation completed"
  | 1 => "finding met fail-on threshold"
  | 2 => "invocation or configuration error"
  | 3 => "minimum complete target count was not met"
  | 4 => "notification delivery was not confirmed"
  | 5 => "state persistence failed"
  | _ => "reserved exit code"

end Sentinel

/-
# The state database

The tables of the state schema. A table whose foreign key cascades is kept
inside the row it refers to, so that an orphan cannot be built and deleting
the row deletes what hangs on it; the outbox refers to its run by id, since
its rows are also read across runs in the order they were inserted. A column
whose `CHECK` lists an enumeration holds that enumeration; a `REAL` column
that may be null holds an optional float, and binding a NaN binds a null.

Key theorems: `unsignedText_toText`, `parseCounter_toText`.
-/
import Sentinel.Core.Model
import Sentinel.Lib.Collections
import Sentinel.Lib.Fallible
import Sentinel.Lib.Table
import Mathlib.Data.Prod.Lex

namespace Sentinel

open Collections

/-- Why an operation of the store failed. -/
inductive StoreError where
  /-- "cannot open or use state database": a missing row or a constraint. -/
  | sqlite
  /-- "state schema version {observed} is unsupported". -/
  | unsupportedVersion (observed : ℤ)
  /-- "state contains invalid serialized data: {detail}". -/
  | invalidData (detail : String)
  deriving DecidableEq, Repr

/-! ### Rows -/

structure UpstreamRow where
  ordinal : ℤ
  upstreamIdentity : String
  averageSeconds : Binary64
  responses : Option String
  deriving DecidableEq, Repr

structure FilterRow where
  filterUrl : String
  serverId : ℤ
  enabled : Bool
  rulesCount : String
  lastUpdated : Option String
  lastUpdatedUnixSeconds : Option ℤ
  deriving DecidableEq, Repr

structure RewriteRow where
  domain : String
  answer : String
  enabled : Bool
  deriving DecidableEq, Repr

/-- The part of a rewrite's primary key under its target. -/
def RewriteRow.key (row : RewriteRow) : String ×ₗ String := toLex (row.domain, row.answer)

structure TargetRow where
  targetId : String
  targetName : String
  /-- The encoded status; the column has no `CHECK`. -/
  status : String
  complete : Bool
  serverVersion : Option String
  protectionEnabled : Option Bool
  queries : Option String
  blocked : Option String
  /-- False for a count that a migration found ambiguous. -/
  countersExact : Bool
  blockedRatio : Option Binary64
  averageProcessingSeconds : Option Binary64
  maximumUpstreamSeconds : Option Binary64
  topClientShare : Option Binary64
  dnsUpstreamMode : Option String
  dnsUpstream : Option (List String)
  filteringEnabled : Option Bool
  rewritesEnabled : Option Bool
  errorKind : Option String
  errorDetail : Option String
  upstreams : Table UpstreamRow.upstreamIdentity
  filters : Table FilterRow.filterUrl
  rewrites : Table RewriteRow.key

structure AggregateRow where
  localHour : ℤ
  utcOffsetMinutes : ℤ
  combinedQueries : String
  combinedBlockedRatio : Binary64
  baselineAgeSeconds : ℤ
  sameHourSamples : ℤ
  baselineReady : Bool
  resolverQueryShare : List (String × Binary64)
  topClientShare : List (String × Binary64)
  deriving DecidableEq, Repr

structure EvaluationRow where
  conditionId : String
  outcome : EvaluationOutcome
  expected : Value
  observed : Value
  /-- The whole evaluation, as it is read back. -/
  evidence : ConditionEvaluation
  complete : Bool
  episodeId : Option String

structure RunRow where
  id : String
  startedAt : Timestamp
  completedAt : Timestamp
  mode : RunMode
  configSha256 : String
  status : RunStatus
  expectedTargets : ℤ
  completeTargets : ℤ
  minimumTargets : ℤ
  exitCode : ℤ
  healthIssues : List String
  deliveryActivity : List DeliveryActivity
  targets : Table TargetRow.targetId
  aggregate : Option AggregateRow
  evaluations : Table EvaluationRow.conditionId

/-- One condition of a message, with its episode and the summary it was
announced with. -/
structure NotificationCondition where
  conditionId : String
  episodeId : String
  summary : String
  deriving DecidableEq, Repr

inductive AttemptOutcome where
  | inFlight
  | delivered
  | retryable
  | failed
  | unknown
  deriving DecidableEq, Repr

structure AttemptRow where
  id : String
  executingRunId : String
  startedAt : Timestamp
  completedAt : Option Timestamp
  outcome : AttemptOutcome
  httpStatus : Option ℤ
  remoteRequestId : Option String
  errorClass : Option String
  deriving DecidableEq, Repr

structure OutboxRow where
  id : String
  runId : String
  transition : TransitionKind
  title : String
  message : String
  priority : ℤ
  status : NotificationStatus
  createdAt : Timestamp
  nextRetryAt : Option Timestamp
  deliveredAt : Option Timestamp
  remoteRequestId : Option String
  errorClass : Option String
  attemptId : Option String
  conditions : Table NotificationCondition.conditionId
  attempts : Table AttemptRow.id

/-- The state database. -/
structure StateStore where
  stateIdentity : Option RunMode
  runs : Table RunRow.id
  notificationOutbox : Table OutboxRow.id
  conditionState : Table ConditionState.id
  targetRuntimeState : Table TargetRuntimeState.targetId

/-- A database as it is initialized. -/
def StateStore.empty : StateStore where
  stateIdentity := none
  runs := .empty
  notificationOutbox := .empty
  conditionState := .empty
  targetRuntimeState := .empty

/-! ### Values in columns -/

/-- An instant whose text sorts among the stored ones. -/
def canonicalTimestamp (timestamp : Timestamp) : Except StoreError Timestamp :=
  if timestamp.nanoseconds < Timestamp.yearZero then
    .error (.invalidData "timestamps before year zero are unsupported")
  else .ok timestamp

theorem canonicalTimestamp_eq_ok {timestamp canonical : Timestamp}
    (h : canonicalTimestamp timestamp = .ok canonical) : canonical = timestamp := by
  unfold canonicalTimestamp at h
  split at h
  · cases h
  · exact (Except.ok.inj h).symm

theorem le_of_canonicalTimestamp {timestamp canonical : Timestamp}
    (h : canonicalTimestamp timestamp = .ok canonical) : Timestamp.yearZero ≤ timestamp.nanoseconds := by
  unfold canonicalTimestamp at h
  split at h
  · cases h
  · omega

theorem canonicalTimestamp_of_le {timestamp : Timestamp} (h : Timestamp.yearZero ≤ timestamp.nanoseconds) :
    canonicalTimestamp timestamp = .ok timestamp := by
  unfold canonicalTimestamp
  rw [if_neg (by omega)]

/-- A failed constraint or a missing row. -/
def constraint {α : Type} (o : Option α) : Except StoreError α := Fallible.demand .sqlite o

/-- A `CHECK`. -/
def columnCheck (condition : Bool) : Except StoreError Unit := Fallible.ensure condition .sqlite

@[simp] theorem constraint_eq_ok_iff {α : Type} {o : Option α} {a : α} :
    constraint o = .ok a ↔ o = some a := Fallible.demand_eq_ok_iff

@[simp] theorem columnCheck_eq_ok_iff {condition : Bool} {u : Unit} :
    columnCheck condition = .ok u ↔ condition = true := Fallible.ensure_eq_ok_iff

theorem columnCheck_ok {condition : Bool} (h : condition = true) : columnCheck condition = .ok () := by
  rw [h]
  rfl

/-- A float bound to a column. -/
def bindReal (x : Binary64) : Option Binary64 := if x.isNan then none else some x

theorem bindReal_eq_some {x stored : Binary64} (h : bindReal x = some stored) : stored = x := by
  unfold bindReal at h
  split at h
  · cases h
  · exact (Option.some.inj h).symm

/-- The `CHECK` of a column that holds an unsigned 64-bit decimal integer. -/
def unsignedText (text : String) : Bool :=
  text = "0" ||
    ((match text.toList with
      | c :: _ => '1' ≤ c && c ≤ '9'
      | [] => false) &&
    text.toList.all (fun c => '0' ≤ c && c ≤ '9') &&
    (text.length < 20 || (text.length = 20 && text ≤ "18446744073709551615")))

/-- **Every count's text passes the check of its column.** -/
@[simp] theorem unsignedText_toText (n : UInt64) : unsignedText (Text.toText n) = true := by
  have hlist : (Text.toText n).toList = Nat.toDigits 10 n.toNat := Nat.toList_repr
  by_cases hzero : n.toNat = 0
  · rw [unsignedText, Text.toText, hzero]
    rfl
  · obtain ⟨c, digits, hdigits, hlow, hhigh⟩ := Text.toDigits_head (Nat.pos_of_ne_zero hzero)
    have hall : (Text.toText n).toList.all (fun c => '0' ≤ c && c ≤ '9') = true := by
      rw [List.all_eq_true]
      exact Text.isDigit_toText n
    have hlength := Text.length_toText_le n
    have hbound : (Text.toText n).length < 20 ∨
        (Text.toText n).length = 20 ∧ Text.toText n ≤ "18446744073709551615" := by
      by_cases hfull : (Text.toText n).length = 20
      · exact .inr ⟨hfull, Text.toText_le_max hfull⟩
      · exact .inl (by omega)
    rw [unsignedText, hall, hlist, hdigits]
    simp [hlow, hhigh, hbound]

/-- A count read from its column. -/
def parseCounter (value label : String) : Except StoreError UInt64 :=
  match Text.parseU64 value with
  | none => .error (.invalidData s!"{label} is outside u64")
  | some count =>
    if Text.toText count = value then .ok count
    else .error (.invalidData s!"{label} is not a canonical unsigned integer")

@[simp] theorem parseCounter_toText (count : UInt64) (label : String) :
    parseCounter (Text.toText count) label = .ok count := by
  unfold parseCounter
  rw [Text.parseU64_toText]
  simp

def i64FromUsize (value : ℕ) : Except StoreError ℤ :=
  if (value : ℤ) ≤ i64Maximum then .ok value else .error (.invalidData "value exceeds SQLite integer")

def usizeFromI64 (value : ℤ) (label : String) : Except StoreError ℕ :=
  if 0 ≤ value then .ok value.toNat else .error (.invalidData s!"{label} is negative")

/-- `u8::try_from`. -/
def u8FromI64 (value : ℤ) (detail : String) : Except StoreError UInt8 :=
  if 0 ≤ value ∧ value < 256 then .ok (UInt8.ofNat value.toNat) else .error (.invalidData detail)

/-- `i32::try_from`. -/
def i32FromI64 (value : ℤ) (detail : String) : Except StoreError ℤ :=
  if -2147483648 ≤ value ∧ value < 2147483648 then .ok value else .error (.invalidData detail)

/-- `i8::try_from`. -/
def i8FromI64 (value : ℤ) (detail : String) : Except StoreError ℤ :=
  if -128 ≤ value ∧ value < 128 then .ok value else .error (.invalidData detail)

theorem i64FromUsize_ok {value : ℕ} (h : (value : ℤ) ≤ i64Maximum) : i64FromUsize value = .ok value := if_pos h

theorem i64FromUsize_eq_ok {value : ℕ} {stored : ℤ} (h : i64FromUsize value = .ok stored) :
    stored = value := by
  unfold i64FromUsize at h
  split at h
  · exact (Except.ok.inj h).symm
  · cases h

@[simp] theorem usizeFromI64_natCast (value : ℕ) (label : String) :
    usizeFromI64 value label = .ok value := by
  simp [usizeFromI64]

end Sentinel

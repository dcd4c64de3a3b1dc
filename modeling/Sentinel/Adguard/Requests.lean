/-
# The requests of an observation

An observation reads six endpoints, one after the other: an answer that ends
it leaves the rest unread, and the checks of what was read read nothing more.

Key theorems: `observing_result`, `observing_prefix`, `status_mem_observing`.
-/
import Sentinel.Adguard.Normalize

namespace Sentinel

open Fallible

/-- The endpoints that were read, and what came of it. -/
structure Asking (α : Type) where
  requests : List Endpoint
  result : Except AdGuardError α

namespace Asking

variable {α β : Type}

instance : Monad Asking where
  pure a := ⟨[], .ok a⟩
  bind x f :=
    match x.result with
    | .error error => ⟨x.requests, .error error⟩
    | .ok a => ⟨x.requests ++ (f a).requests, (f a).result⟩

/-- One request. -/
def ask (endpoint : Endpoint) (answer : Except AdGuardError α) : Asking α := ⟨[endpoint], answer⟩

/-- A check of what was read. -/
def check (result : Except AdGuardError α) : Asking α := ⟨[], result⟩

theorem result_bind (x : Asking α) (f : α → Asking β) : (x >>= f).result = x.result >>= fun a => (f a).result := by
  simp only [Bind.bind]
  cases x.result with
  | error error => rfl
  | ok a => rfl

@[simp] theorem result_ask (endpoint : Endpoint) (answer : Except AdGuardError α) :
    (ask endpoint answer).result = answer := rfl

@[simp] theorem result_check (result : Except AdGuardError α) : (check result).result = result := rfl

/-- What follows a request reads after it. -/
theorem ask_bind_prefix {endpoint : Endpoint} {answer : Except AdGuardError α} {f : α → Asking β}
    {endpoints : List Endpoint} (h : ∀ a, (f a).requests <+: endpoints) :
    (ask endpoint answer >>= f).requests <+: endpoint :: endpoints := by
  simp only [Bind.bind, ask]
  cases answer with
  | error error => exact ⟨endpoints, rfl⟩
  | ok a => exact List.prefix_cons_inj endpoint |>.mpr (h a)

theorem check_bind_prefix {result : Except AdGuardError α} {f : α → Asking β} {endpoints : List Endpoint}
    (h : ∀ a, (f a).requests <+: endpoints) : (check result >>= f).requests <+: endpoints := by
  simp only [Bind.bind, check]
  cases result with
  | error error => exact List.nil_prefix
  | ok a => exact h a

/-- A request is made whatever it returns. -/
theorem mem_ask_bind {endpoint : Endpoint} {answer : Except AdGuardError α} {f : α → Asking β} :
    endpoint ∈ (ask endpoint answer >>= f).requests := by
  simp only [Bind.bind, ask]
  cases answer with
  | error error => exact List.mem_cons_self
  | ok a => exact List.mem_cons_self

end Asking

section Observing

open Asking

variable (packages : Packages) (versions : VersionPackage) (requirement : String) (target : TargetConfig)
  (policy : Option PolicyConfig) (statsLookbackMs : UInt64) (nowUnixSeconds : ℤ) (answers : Answers)

/-- The first answer is that of a server of a supported version that runs. -/
def acceptStatus (status : StatusResponse) : Except AdGuardError Unit := do
  let version ← demand (invalidStatus "version is not semantic-version data")
    (versions.parse (String.ofList (status.version.toList.dropWhile (· = 'v'))))
  ensure (versions.satisfies requirement version)
    (.unsupportedVersion status.version (versions.requirementText requirement))
  ensure status.running (invalidStatus "running must be true for a complete observation")

/-- `observe`, with the requests it makes. -/
def observing : Asking TargetReport := do
  let status ← ask .status answers.status
  let _ ← check (acceptStatus versions requirement status)
  let _ ← ask (.stats statsLookbackMs) answers.statistics
  let _ ← ask .dnsInfo answers.dns
  let _ ← ask .filteringStatus answers.filtering
  let _ ← ask .rewriteList answers.rewrites
  let _ ← ask .rewriteSettings answers.rewriteSettings
  -- what was read is normalized, and nothing more is read
  check (observe packages versions requirement target policy nowUnixSeconds answers)

/-- **The requests are those of the observation.** -/
theorem observing_result :
    (observing packages versions requirement target policy statsLookbackMs nowUnixSeconds answers).result =
      observe packages versions requirement target policy nowUnixSeconds answers := by
  simp only [observing, result_bind, result_ask, result_check, observe, acceptStatus, bind_assoc]
  -- an answer that ends one ends the other; those before it have been read
  rcases answers.status with error | status
  · rfl
  simp only [ok_bind]
  rcases demand (invalidStatus "version is not semantic-version data")
    (versions.parse (String.ofList (status.version.toList.dropWhile (· = 'v')))) with error | version
  · rfl
  simp only [ok_bind]
  rcases ensure (versions.satisfies requirement version)
    (AdGuardError.unsupportedVersion status.version (versions.requirementText requirement)) with error | _
  · rfl
  rcases ensure status.running (invalidStatus "running must be true for a complete observation") with error | _
  · rfl
  rcases answers.statistics with error | statistics
  · rfl
  rcases answers.dns with error | dns
  · rfl
  rcases answers.filtering with error | filtering
  · rfl
  rcases answers.rewrites with error | rewrites
  · rfl
  rcases answers.rewriteSettings with error | rewriteSettings
  · rfl
  · rfl

/-- **Only these endpoints are read**, in this order. -/
theorem observing_prefix :
    (observing packages versions requirement target policy statsLookbackMs nowUnixSeconds answers).requests <+:
      [.status, .stats statsLookbackMs, .dnsInfo, .filteringStatus, .rewriteList, .rewriteSettings] :=
  ask_bind_prefix fun _ => check_bind_prefix fun _ => ask_bind_prefix fun _ => ask_bind_prefix fun _ =>
    ask_bind_prefix fun _ => ask_bind_prefix fun _ => ask_bind_prefix fun _ => List.nil_prefix

/-- An observation asks for the status. -/
theorem status_mem_observing :
    .status ∈ (observing packages versions requirement target policy statsLookbackMs nowUnixSeconds answers).requests :=
  mem_ask_bind

end Observing

end Sentinel

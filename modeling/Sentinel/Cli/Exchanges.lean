/-
# What a check exchanges with the resolvers

The observation of a target, its requests made over the network with the
password of its own file. A report that names a failed exchange names the
last one, however the bodies arrive in pieces; and whatever the network does,
every request goes to the target's own server, at one of six endpoints, with
the target's own credentials.

Key theorems: `observed_status_iff`, `observed_of_bytes`, `requests_confined`.
-/
import Sentinel.Adguard.Wire
import Sentinel.Cli.Cooldown
import Sentinel.Cli.Secrets

namespace Sentinel

open Fallible Http

section Over

variable (packages : Packages) (versions : VersionPackage) (config : Config) (network : Network) (decoders : Decoders)
  (passwords : Passwords) (cooldown : Option TargetRuntimeState) (nowUnixSeconds : ℤ) (target : TargetConfig)

/-- The report of a target, its requests made over the network. -/
def reportOver : TargetReport :=
  observeTarget packages versions config cooldown nowUnixSeconds target
    (answersOver packages config.observation.maxResponseBytes network decoders target (passwords target.id)
      config.observation.statsLookbackMs)

/-- The endpoints that are read of a target, in order. -/
def endpointsOver : List Endpoint :=
  match pausedUntil cooldown nowUnixSeconds with
  | some _ => []
  | none => (observingOver packages versions config.observation.adguardVersionRequirement
      config.observation.maxResponseBytes network decoders target (config.policyOf target) (passwords target.id)
      config.observation.statsLookbackMs nowUnixSeconds).requests

/-- The requests to a target, or why one could not be made. -/
def requestsOver : List (Except AdGuardError Request) :=
  (endpointsOver packages versions config network decoders passwords cooldown nowUnixSeconds target).map fun endpoint =>
    prepareRequest packages target endpoint (passwords target.id)

/-- How a request to the target fails. -/
abbrev exchangeFailure : Endpoint → Option TargetStatus :=
  failureOf packages config.observation.maxResponseBytes network target (passwords target.id)

end Over

section Locked

/-! A resolver behind a password, whose server rejects it. -/

def lockedTarget : TargetConfig :=
  { id := "one", name := "One", baseUrl := "https://one", username := some "reader", passwordFile := some "/one" }

def lockedConfig : Config := { apiConfig with targets := [lockedTarget] }

/-- Every file holds seven bytes. -/
def lockedPackages : Packages := { packagesWith [] with metadata := fun _ => .ok (true, 7) }

def lockedContents : Contents := fun path => .ok (path ++ "pass\n")

def lockedPasswords : Passwords := Function.update (fun _ => none) "one" (some "/onepass")

/-- No decoder takes anything. -/
def noDecoders : Decoders :=
  ⟨fun _ => .error "", fun _ => .error "", fun _ => .error "", fun _ => .error "", fun _ => .error "", fun _ => .error ""⟩

/-- A server that rejects every password. -/
def rejectingNetwork : Network := fun _ => .ok ⟨401, none, .finished⟩

theorem valid_lockedConfig : lockedConfig.validate lockedPackages true = .ok () := by decide +kernel

end Locked

section Valid

variable {packages : Packages} {versions : VersionPackage} {config : Config} {checkSecretFiles : Bool}

theorem wellFormed_of_valid (valid : config.validate packages checkSecretFiles = .ok ()) :
    config.WellFormed packages checkSecretFiles :=
  validationErrors_eq_nil_iff.mp (validate_ok_iff.mp valid)

/-- The limit of a valid configuration is one that lengths do not saturate at. -/
theorem responseLimit_of_valid (valid : config.validate packages checkSecretFiles = .ok ()) :
    config.observation.maxResponseBytes.toNat < usizeMaximum := by
  have hbytes := (wellFormed_of_valid valid).observation.responseBytes.2
  have hmaximum : maxResponseBytes < usizeMaximum := by decide
  omega

variable {network : Network} {decoders : Decoders} {passwords : Passwords} {cooldown : Option TargetRuntimeState}
  {nowUnixSeconds : ℤ} {target : TargetConfig}

section Running

variable (packages versions config network decoders passwords nowUnixSeconds target)

/-- The requests of a target that is not paused, and what came of them. -/
abbrev askingOver : Asking TargetReport :=
  observingOver packages versions config.observation.adguardVersionRequirement config.observation.maxResponseBytes network
    decoders target (config.policyOf target) (passwords target.id) config.observation.statsLookbackMs nowUnixSeconds

theorem endpointsOver_of_running (running : pausedUntil cooldown nowUnixSeconds = none) :
    endpointsOver packages versions config network decoders passwords cooldown nowUnixSeconds target =
      (askingOver packages versions config network decoders passwords nowUnixSeconds target).requests := by
  unfold endpointsOver
  rw [running]

/-- Its report is what was observed, or tells what ended the observation. -/
theorem reportOver_of_running (running : pausedUntil cooldown nowUnixSeconds = none) :
    (∃ error, (askingOver packages versions config network decoders passwords nowUnixSeconds target).result = .error error ∧
      reportOver packages versions config network decoders passwords cooldown nowUnixSeconds target =
        incompleteReport target error) ∨
    (askingOver packages versions config network decoders passwords nowUnixSeconds target).result =
      .ok (reportOver packages versions config network decoders passwords cooldown nowUnixSeconds target) := by
  have hresult : (askingOver packages versions config network decoders passwords nowUnixSeconds target).result = _ :=
    observing_result ..
  rw [hresult]
  unfold reportOver observeTarget
  rw [running]
  dsimp only
  cases observe packages versions config.observation.adguardVersionRequirement target (config.policyOf target)
      nowUnixSeconds (answersOver packages config.observation.maxResponseBytes network decoders target
        (passwords target.id) config.observation.statsLookbackMs) with
  | error error => exact .inl ⟨error, rfl, rfl⟩
  | ok report => exact .inr rfl

end Running

/-- **A report names the failure of the last exchange.** Of a target that is
not paused, every request before the last one did not fail; the report has the
status of a failed exchange just when the last request failed so, and it is
complete only after six requests that did not fail. -/
theorem observed_status_iff (valid : config.validate packages checkSecretFiles = .ok ())
    (running : pausedUntil cooldown nowUnixSeconds = none) :
    let report := reportOver packages versions config network decoders passwords cooldown nowUnixSeconds target
    let endpoints := endpointsOver packages versions config network decoders passwords cooldown nowUnixSeconds target
    let failure := exchangeFailure packages config network passwords target
    (∀ status : TargetStatus, status.isExchange →
      (report.status = status ↔ ∃ endpoint ∈ endpoints.getLast?, failure endpoint = some status)) ∧
    (∀ endpoint ∈ endpoints.dropLast, failure endpoint = none) ∧
    (report.status = .complete →
      endpoints = [.status, .stats config.observation.statsLookbackMs, .dnsInfo, .filteringStatus, .rewriteList,
        .rewriteSettings] ∧
      ∀ endpoint ∈ endpoints, failure endpoint = none) := by
  intro report endpoints failure
  have hasked : endpoints = (askingOver packages versions config network decoders passwords nowUnixSeconds target).requests :=
    endpointsOver_of_running _ _ _ _ _ _ _ _ running
  obtain ⟨hlast, hearlier, hcomplete⟩ := @observingOver_spec packages versions
    config.observation.adguardVersionRequirement config.observation.maxResponseBytes network decoders target
    (config.policyOf target) (passwords target.id) config.observation.statsLookbackMs nowUnixSeconds
    (responseLimit_of_valid valid)
  rw [← hasked] at hlast hearlier hcomplete
  rcases reportOver_of_running packages versions config network decoders passwords nowUnixSeconds target running with
    ⟨error, herror, hreport⟩ | hok
  · have hstatus : report.status = error.targetStatus := congrArg TargetReport.status hreport
    refine ⟨fun status hexchange => ?_, hearlier, fun hdone => ?_⟩
    · rw [← hlast status hexchange, herror, hstatus]
      simp
    · rw [hstatus] at hdone
      cases error <;> cases hdone
  · have hstatus : report.status = .complete := status_of_observe ((observing_result ..).symm.trans hok)
    refine ⟨fun status hexchange => ?_, hearlier, fun _ => hcomplete report hok⟩
    rw [← hlast status hexchange, hok, hstatus]
    constructor
    · rintro rfl
      cases hexchange
    · rintro ⟨_, herror, -⟩
      cases herror

/-- A rejected password is reported as such, after one request. -/
theorem observed_status_iff_rejected :
    let report := reportOver lockedPackages ⟨some, fun _ _ => true, id⟩ lockedConfig rejectingNetwork noDecoders
      lockedPasswords none 0 lockedTarget
    let endpoints := endpointsOver lockedPackages ⟨some, fun _ _ => true, id⟩ lockedConfig rejectingNetwork noDecoders
      lockedPasswords none 0 lockedTarget
    endpoints = [.status] ∧ report.status = .authenticationRejected := by
  intro report endpoints
  have hasked : endpoints = [.status] := by decide +kernel
  refine ⟨hasked, ((observed_status_iff valid_lockedConfig rfl).1 .authenticationRejected rfl).mpr ⟨.status, ?_, ?_⟩⟩
  · show Endpoint.status ∈ endpoints.getLast?
    rw [hasked]
    rfl
  · decide +kernel

/-- **Where bodies are cut does not matter**: two networks that deliver the same
bytes, and end them in the same way, leave the same reports. -/
theorem observed_of_bytes (valid : config.validate packages checkSecretFiles = .ok ()) {network' : Network}
    (same : ∀ request, (network request).map Response.whole = (network' request).map Response.whole) :
    reportOver packages versions config network decoders passwords cooldown nowUnixSeconds target =
      reportOver packages versions config network' decoders passwords cooldown nowUnixSeconds target ∧
    endpointsOver packages versions config network decoders passwords cooldown nowUnixSeconds target =
      endpointsOver packages versions config network' decoders passwords cooldown nowUnixSeconds target := by
  have hasking := @observingOver_congr packages versions config.observation.adguardVersionRequirement
    config.observation.maxResponseBytes network decoders target (config.policyOf target) (passwords target.id)
    config.observation.statsLookbackMs nowUnixSeconds network' (responseLimit_of_valid valid) same
  unfold reportOver observeTarget endpointsOver
  cases pausedUntil cooldown nowUnixSeconds with
  | some _ => exact ⟨rfl, rfl⟩
  | none =>
    refine ⟨?_, congrArg Asking.requests hasking⟩
    have hresult := congrArg Asking.result hasking
    rw [observingOver, observing_result, observingOver, observing_result] at hresult
    dsimp only
    rw [hresult]

/-- A body in two pieces is read as it is in one. -/
theorem observed_of_bytes_cut :
    reportOver lockedPackages ⟨some, fun _ _ => true, id⟩ lockedConfig
        (fun _ => .ok ⟨200, none, .piece [123] (.piece [125] .finished)⟩) noDecoders lockedPasswords none 0 lockedTarget =
      reportOver lockedPackages ⟨some, fun _ _ => true, id⟩ lockedConfig
        (fun _ => .ok ⟨200, none, .piece [123, 125] .finished⟩) noDecoders lockedPasswords none 0 lockedTarget :=
  (observed_of_bytes valid_lockedConfig fun _ => rfl).1

/-! ### What the requests say -/

/-- The endpoints that are read. -/
def readEndpoints (statsLookbackMs : UInt64) : List Endpoint :=
  [.status, .stats statsLookbackMs, .dnsInfo, .filteringStatus, .rewriteList, .rewriteSettings]

/-- A request to a target: an endpoint of its own server, with its own
credentials and the password of its own file. -/
structure Request.Confined (packages : Packages) (contents : Contents) (statsLookbackMs : UInt64) (target : TargetConfig)
    (request : Request) : Prop where
  url : ∃ base, packages.parseUrl target.baseUrl = some base ∧ base.IsOrigin target.allowInsecureLocalHttp ∧
    ∃ endpoint ∈ readEndpoints statsLookbackMs,
      request.url = { base with path := endpoint.location.1, query := endpoint.location.2 }
  credentials : (target.auth = .none ∧ request.credentials = none) ∨
    ∃ username file text, target.auth = .basic ∧ target.username = some username ∧ target.passwordFile = some file ∧
      contents file = .ok text ∧ request.credentials = some (username, trimLineEnds text)

/-- The endpoints of a target are read in their order, none of them twice. -/
theorem endpointsOver_prefix :
    endpointsOver packages versions config network decoders passwords cooldown nowUnixSeconds target <+:
      readEndpoints config.observation.statsLookbackMs := by
  unfold endpointsOver
  cases pausedUntil cooldown nowUnixSeconds with
  | some _ => exact List.nil_prefix
  | none => exact observing_prefix ..

theorem nodup_readEndpoints (statsLookbackMs : UInt64) : (readEndpoints statsLookbackMs).Nodup := by
  simp [readEndpoints]

/-- The request for an endpoint is confined to its target. -/
theorem confined_prepareRequest {contents : Contents} {password : Option String} {statsLookbackMs : UInt64}
    {endpoint : Endpoint} (well : target.WellFormed packages config checkSecretFiles)
    (authenticated : target.Authenticated packages contents password) (hmem : endpoint ∈ readEndpoints statsLookbackMs) :
    ∃ request, prepareRequest packages target endpoint password = .ok request ∧
      request.Confined packages contents statsLookbackMs target := by
  obtain ⟨base, hbase, horigin⟩ := well.origin
  have hurl : endpoint.url packages target.baseUrl =
      .ok { base with path := endpoint.location.1, query := endpoint.location.2 } := by
    rw [Endpoint.url, hbase]
    rfl
  cases authenticated with
  | anonymous hauth =>
    refine ⟨⟨_, none⟩, ?_, ⟨base, hbase, horigin, endpoint, hmem, rfl⟩, .inl ⟨hauth, rfl⟩⟩
    rw [prepareRequest, hurl, ok_bind, hauth]
    rfl
  | @basic file text hauth hfiled hsecret hread hnonempty =>
    cases well.credentials with
    | anonymous hother => exact absurd (hauth.symm.trans hother) (by decide)
    | @basic username file' _ hnamed =>
      refine ⟨⟨_, some (username, trimLineEnds text)⟩, ?_, ⟨base, hbase, horigin, endpoint, hmem, rfl⟩,
        .inr ⟨username, file, text, hauth, hnamed, hfiled, hread, rfl⟩⟩
      rw [prepareRequest, hurl, ok_bind, hauth, hnamed]
      rfl

/-- **A check says no more to a target than it has to.** Whatever the network
answers, every request to a target of a valid configuration can be made, goes
to an endpoint of the target's own server that is reached over TLS, on this
machine or where plain HTTP is allowed, and carries the target's own username
with the password of its own file, or nothing where the target asks for none.
No endpoint is read twice. -/
theorem requests_confined (valid : config.validate packages checkSecretFiles = .ok ()) {contents : Contents}
    (read : readTargetPasswords packages contents config = .ok passwords) (configured : target ∈ config.targets) :
    (∀ result ∈ requestsOver packages versions config network decoders passwords cooldown nowUnixSeconds target,
      ∃ request, result = .ok request ∧
        request.Confined packages contents config.observation.statsLookbackMs target) ∧
    (endpointsOver packages versions config network decoders passwords cooldown nowUnixSeconds target).Nodup := by
  have hwell := wellFormed_of_valid valid
  refine ⟨fun result hresult => ?_, ?_⟩
  · obtain ⟨endpoint, hendpoint, rfl⟩ := List.mem_map.mp hresult
    exact confined_prepareRequest (hwell.targets target configured)
      (passwords_of_read read hwell.distinctIds target configured) (List.IsPrefix.mem hendpoint endpointsOver_prefix)
  · exact (nodup_readEndpoints _).sublist endpointsOver_prefix.sublist

/-- The one request to the locked resolver. -/
theorem requests_confined_locked :
    ∃ request, requestsOver lockedPackages ⟨some, fun _ _ => true, id⟩ lockedConfig rejectingNetwork noDecoders
        lockedPasswords none 0 lockedTarget = [.ok request] ∧
      request.Confined lockedPackages lockedContents lockedConfig.observation.statsLookbackMs lockedTarget := by
  have hread : readTargetPasswords lockedPackages lockedContents lockedConfig = .ok lockedPasswords := by
    rfl
  obtain ⟨hall, -⟩ := @requests_confined lockedPackages ⟨some, fun _ _ => true, id⟩ lockedConfig true rejectingNetwork
    noDecoders lockedPasswords none 0 lockedTarget valid_lockedConfig lockedContents hread List.mem_cons_self
  have hone : (requestsOver lockedPackages ⟨some, fun _ _ => true, id⟩ lockedConfig rejectingNetwork noDecoders
      lockedPasswords none 0 lockedTarget).length = 1 := by decide +kernel
  obtain ⟨result, hresult⟩ := List.length_eq_one_iff.mp hone
  rw [hresult] at hall ⊢
  obtain ⟨request, rfl, hconfined⟩ := hall result List.mem_cons_self
  exact ⟨request, rfl, hconfined⟩

end Valid

end Sentinel

/-
# Evaluations

What a check concludes from the reports of its targets: the conditions of a
failed target, of a complete one against its policy, of its upstreams, and of
its rates alone and in the declared group. Each evaluation carries an `id`
built from fixed words, the target's id and, for a required filter or
rewrite, a digest of what is required.
-/
import Sentinel.Core.Window

namespace Sentinel

/-! ### Parts of an evaluation -/

/-- Lowercase hexadecimal, two characters a byte. -/
def hexEncode (bytes : List UInt8) : String :=
  String.ofList (bytes.flatMap fun byte => [Nat.digitChar (byte.toNat / 16), Nat.digitChar (byte.toNat % 16)])

/-- The first 16 hexadecimal digits of a text's SHA-256. -/
def shortHash (packages : Packages) (value : String) : String :=
  String.ofList ((hexEncode (packages.sha256 value.toUTF8.data.toList)).toList.take 16)

/-- The part of an evaluation that varies from run to run. -/
structure Verdict where
  outcome : EvaluationOutcome
  reason : String
  summary : String

namespace Verdict

def active (reason summary : String) : Verdict := ⟨.active, reason, summary⟩

def clear (reason summary : String) : Verdict := ⟨.clear, reason, summary⟩

def notEvaluated (reason summary : String) : Verdict := ⟨.notEvaluated, reason, summary⟩

def fromFlag (isActive : Bool) (whenActive whenClear : String × String) : Verdict :=
  if isActive then active whenActive.1 whenActive.2 else clear whenClear.1 whenClear.2

end Verdict

def evaluation (id : String) (targetId : Option String) (kind : String) (severity : Severity) (verdict : Verdict)
    (expected observed : Value) (evidenceSource : String) (observationComplete : Bool)
    (sustainRuns recoveryRuns : UInt32) : ConditionEvaluation where
  id
  targetId
  kind
  reason := verdict.reason
  severity
  outcome := verdict.outcome
  summary := verdict.summary
  expected
  observed
  evidenceSource
  observationComplete
  sustainRuns
  recoveryRuns
  consecutiveActive := 0
  consecutiveClear := 0
  lifecycle := .clear
  notificationState := .never
  firstObservedAt := none

def thresholdEvaluation (id : String) (target : TargetConfig) (kind : String) (observed maximum : Binary64)
    (activeSummary clearSummary evidence : String) (sustainRuns recoveryRuns : UInt32) : ConditionEvaluation :=
  evaluation id (some target.id) kind .warning
    (.fromFlag (maximum.lt observed) ("above_threshold", activeSummary) ("within_threshold", clearSummary))
    (.object [("maximum_seconds", .ofF64 maximum), ("comparison", .string "strictly_greater")])
    (.object [("seconds", .ofF64 observed)]) evidence true sustainRuns recoveryRuns

def booleanEvaluation (id : String) (target : TargetConfig) (kind : String) (severity : Severity)
    (verdict : Verdict) (expected observed : Value) (evidence : String) (sustainRuns recoveryRuns : UInt32) :
    ConditionEvaluation :=
  evaluation id (some target.id) kind severity verdict expected observed evidence true sustainRuns recoveryRuns

/-! ### One target -/

def apiConditionKind : String := "api"

def failureReason (status : TargetStatus) (profile : ConditionProfile) (name : String) :
    Option (String × Severity × UInt32 × String) :=
  match status with
  | .authenticationRejected | .authenticationCooldown =>
    some ("authentication_rejected", .critical, profile.authenticationRejectedSustainRuns,
      s!"{name} API authentication failed")
  | .unsupportedVersion =>
    some ("unsupported_version", .error, profile.unsupportedVersionSustainRuns,
      s!"{name} returned an unsupported AdGuard Home version")
  | .invalidResponse | .responseTooLarge =>
    some ("invalid_response", .error, profile.invalidResponseSustainRuns,
      s!"{name} returned an incomplete or invalid API response")
  | .unavailable =>
    some ("unavailable", .warning, profile.apiUnavailableSustainRuns, s!"{name} AdGuard API is unavailable")
  | .complete => none

def evaluateTargetFailure (target : TargetConfig) (profile : ConditionProfile) (report : TargetReport) :
    List ConditionEvaluation :=
  match failureReason report.status profile target.name with
  | none => []
  | some (reason, severity, sustain, summary) =>
    [evaluation s!"target:{target.id}:api" (some target.id) apiConditionKind severity (.active reason summary)
      (.object [("complete", .bool true)])
      (.object [("status", .string report.status.encode), ("error_kind", .ofOption .string report.errorKind),
        ("error_detail", .ofOption .string report.errorDetail)])
      "AdGuard request boundary" false sustain profile.recoveryRuns]

def evaluateDnsPolicy (target : TargetConfig) (policy : PolicyConfig) (profile : ConditionProfile)
    (report : TargetReport) : List ConditionEvaluation :=
  match report.dns with
  | none => []
  | some dns =>
    (match policy.upstreamMode with
      | none => []
      | some expectedMode =>
        [booleanEvaluation s!"target:{target.id}:upstream-mode" target "upstream_mode" .warning
          (.fromFlag (dns.upstreamMode ≠ expectedMode)
            ("drift", s!"{target.name} upstream mode differs from declared policy")
            ("matches_policy", s!"{target.name} upstream mode matches declared policy"))
          (.string expectedMode) (.string dns.upstreamMode) "GET /control/dns_info upstream_mode"
          profile.policyDriftSustainRuns profile.recoveryRuns]) ++
    match policy.upstreamDns with
    | none => []
    | some upstreamDns =>
      let expected := distinct upstreamDns
      let observed := distinct dns.upstreamDns
      [booleanEvaluation s!"target:{target.id}:upstream-set" target "upstream_set" .warning
        (.fromFlag (expected ≠ observed)
          ("drift", s!"{target.name} upstream set differs from declared policy")
          ("matches_policy", s!"{target.name} upstream set matches declared policy"))
        (.array (expected.map .string)) (.array (observed.map .string)) "GET /control/dns_info upstream_dns"
        profile.policyDriftSustainRuns profile.recoveryRuns]

def filterState (filter : FilterObservation) : List (String × Value) :=
  [("enabled", .bool filter.enabled), ("last_updated", .ofOption .string filter.lastUpdated)]

/-- What one required filter comes to, and what is reported as observed. -/
def filterVerdict (target : TargetConfig) (required : RequiredFilter) (observed : Option FilterObservation)
    (nowUnixSeconds : ℤ) : Verdict × Value :=
  let matchesPolicy :=
    Verdict.clear "matches_policy" s!"{target.name} required filter matches declared policy"
  match observed with
  | none => (.active "missing" s!"{target.name} is missing a required filter", .null)
  | some filter =>
    if filter.enabled ≠ required.enabled then
      (.active "state_drift" s!"{target.name} has a required filter in the wrong state",
        .object (filterState filter))
    else if required.enabled then
      let maximumAge : ℤ := (required.maximumAgeHours.getD 0).toNat * 3600
      let age := filter.lastUpdatedUnixSeconds.map fun updated => saturatingSub nowUnixSeconds updated
      let stale := age.all (maximumAge < ·)
      (if stale then .active "stale" s!"{target.name} has a stale required filter" else matchesPolicy,
        .object (filterState filter ++ [("age_seconds", .ofOption .integer age)]))
    else (matchesPolicy, .object (filterState filter))

section Digests

variable (packages : Packages)

def evaluateFilters (target : TargetConfig) (policy : PolicyConfig) (profile : ConditionProfile)
    (report : TargetReport) (nowUnixSeconds : ℤ) : List ConditionEvaluation :=
  policy.filters.map fun required =>
    let (verdict, observed) := filterVerdict target required
      (Collections.findLast (·.url = required.url) report.filters) nowUnixSeconds
    evaluation s!"target:{target.id}:filter:{shortHash packages required.url}" (some target.id) "required_filter"
      .warning verdict
      (.object [("url", .string required.url), ("enabled", .bool required.enabled),
        ("maximum_age_hours", .ofOption (fun hours : UInt32 => .integer hours.toNat) required.maximumAgeHours)])
      observed "GET /control/filtering/status filters" true profile.policyDriftSustainRuns profile.recoveryRuns

/-- What a required rewrite is digested from. -/
def RequiredRewrite.text (required : RequiredRewrite) : String := s!"{required.key.1}={required.key.2}"

/-- The entry a required rewrite is compared with. -/
def currentRewrite (report : TargetReport) (required : RequiredRewrite) : Option RewriteObservation :=
  Collections.findLast (fun (rewrite : RewriteObservation) =>
    (normalizeDnsName rewrite.domain, normalizeRewriteAnswer rewrite.answer) = required.key) report.rewrites

def rewriteVerdict (target : TargetConfig) (report : TargetReport) (required : RequiredRewrite) : Verdict :=
  if (currentRewrite report required).all (·.enabled ≠ required.enabled) then
    .active "missing_or_disabled" s!"{target.name} is missing or has disabled a required rewrite"
  else if required.enabled ∧ report.rewritesEnabled ≠ some true then
    .active "globally_disabled"
      s!"{target.name} has DNS rewrites switched off, so a required rewrite does not resolve"
  else .clear "matches_policy" s!"{target.name} required rewrite matches declared policy"

def evaluateRewrites (target : TargetConfig) (policy : PolicyConfig) (profile : ConditionProfile)
    (report : TargetReport) : List ConditionEvaluation :=
  (match policy.rewrites.enabled with
    | none => []
    | some enabled =>
      [booleanEvaluation s!"target:{target.id}:rewrites-enabled" target "rewrite_settings" .warning
        (.fromFlag (report.rewritesEnabled ≠ some enabled)
          ("drift", s!"{target.name} rewrite settings differ from declared policy")
          ("matches_policy", s!"{target.name} rewrite settings match declared policy"))
        (.bool enabled) (.ofOption .bool report.rewritesEnabled) "GET /control/rewrite/settings enabled"
        profile.policyDriftSustainRuns profile.recoveryRuns]) ++
  policy.rewrites.required.map fun required =>
    evaluation s!"target:{target.id}:rewrite:{shortHash packages required.text}" (some target.id)
      "required_rewrite" .warning (rewriteVerdict target report required)
      (.object [("domain", .string required.key.1), ("answer", .string required.key.2),
        ("enabled", .bool required.enabled)])
      (match currentRewrite report required with
        | none => .null
        | some rewrite => .object [("domain", .string rewrite.domain), ("answer", .string rewrite.answer),
            ("enabled", .bool rewrite.enabled)])
      "GET /control/rewrite/list" true profile.policyDriftSustainRuns profile.recoveryRuns

def protectionVerdict (name : String) (declared observed : Bool) : Verdict :=
  match declared, observed with
  | true, false => .active "disabled" s!"{name} AdGuard protection is disabled"
  | false, true => .active "enabled" s!"{name} AdGuard protection is enabled, but policy declares it disabled"
  | true, true => .clear "enabled" s!"{name} AdGuard protection is enabled"
  | false, false => .clear "disabled" s!"{name} AdGuard protection is disabled, as policy declares"

def evaluateTarget (target : TargetConfig) (policy : Option PolicyConfig) (profile : ConditionProfile)
    (report : TargetReport) (nowUnixSeconds : ℤ) : List ConditionEvaluation :=
  if !report.complete then evaluateTargetFailure target profile report
  else
    match report.operational with
    | none => evaluateTargetFailure target profile report
    | some operational =>
      [evaluation s!"target:{target.id}:api" (some target.id) apiConditionKind .warning
        (.clear "available" s!"{target.name} AdGuard API is available") (.object [("complete", .bool true)])
        (.object [("complete", .bool true)]) "GET /control/status and allowlisted observations" true
        profile.apiUnavailableSustainRuns profile.recoveryRuns] ++
      (match policy.bind (·.protectionEnabled) with
        | none => []
        | some declared =>
          [booleanEvaluation s!"target:{target.id}:protection" target "protection" .critical
            (protectionVerdict target.name declared operational.protectionEnabled) (.bool declared)
            (.bool operational.protectionEnabled) "GET /control/status protection_enabled"
            profile.protectionDisabledSustainRuns profile.recoveryRuns]) ++
      [thresholdEvaluation s!"target:{target.id}:processing-latency" target "processing_latency"
        operational.averageProcessingSeconds
        ((Binary64.ofNat profile.processingLatencyMs.toNat).div (.ofNat 1000))
        s!"{target.name} DNS processing is persistently slow"
        s!"{target.name} DNS processing latency is within threshold" "GET /control/stats avg_processing_time"
        profile.processingLatencySustainRuns profile.recoveryRuns] ++
      match policy with
      | none => []
      | some policy =>
        evaluateDnsPolicy target policy profile report ++
        evaluateFilters packages target policy profile report nowUnixSeconds ++
        evaluateRewrites packages target policy profile report

end Digests

/-! ### Upstream latency -/

/-- The responses an upstream needs before its average counts. -/
def upstreamMinimumResponses : UInt64 := 20

/-- `saturating_add`. -/
def saturatingAddU64 (a b : UInt64) : UInt64 := UInt64.ofNat (min (a.toNat + b.toNat) (2 ^ 64 - 1))

/-- Adds one window's totals to the pool. -/
def pool (pooled : List (String × UpstreamTotals)) (window : List (String × UpstreamTotals)) :
    List (String × UpstreamTotals) :=
  window.foldl (fun pooled (identity, totals) =>
    Collections.upsert identity (fun entry =>
      { responses := saturatingAddU64 (entry.getD {}).responses totals.responses
        totalMicroseconds := saturatingAddU64 (entry.getD {}).totalMicroseconds totals.totalMicroseconds }) pooled)
    pooled

/-- The readings of a target that precede the current one, then the current. -/
def upstreamReadings (report : TargetReport) (history : List UpstreamSample) (current : Option UpstreamSample)
    (nowUnixSeconds : ℤ) : List UpstreamSample :=
  history.filter (fun sample => sample.targetId = report.id && decide (sample.timestamp < nowUnixSeconds)) ++
    current.toList

/-- The windows pooled by a check: those of the readings that end within the
lookback, if there is a current reading. -/
def upstreamWindows (report : TargetReport) (history : List UpstreamSample) (current : Option UpstreamSample)
    (nowUnixSeconds : ℤ) : List (ℤ × List (String × UpstreamTotals)) :=
  if current.isNone then []
  else
    ((Collections.pairs (upstreamReadings report history current nowUnixSeconds)).filter fun pair =>
      nowUnixSeconds - upstreamLookbackSeconds < pair.2.timestamp).filterMap fun pair =>
        upstreamWindow pair.1 pair.2

/-- A larger average, or an equal one of an earlier identity. -/
def slowerThan (left right : String × UInt64 × Binary64) : Bool :=
  left.2.2.totalKey < right.2.2.totalKey || (left.2.2.totalKey = right.2.2.totalKey && right.1 ≤ left.1)

def slowestUpstream (pooled : List (String × UpstreamTotals)) : Option (String × UInt64 × Binary64) :=
  Collections.maxBy slowerThan
    ((pooled.filter fun (_, totals) => upstreamMinimumResponses ≤ totals.responses).filterMap
      fun (identity, totals) => totals.averageSeconds.map fun seconds => (identity, totals.responses, seconds))

def evaluateUpstreamLatency (target : TargetConfig) (profile : ConditionProfile) (report : TargetReport)
    (history : List UpstreamSample) (startedUnixSeconds nowUnixSeconds : ℤ) : List ConditionEvaluation :=
  if !report.complete || report.operational.isNone then []
  else
    let maximum := (Binary64.ofNat profile.upstreamLatencyMs.toNat).div (.ofNat 1000)
    let current := currentUpstreamSample report startedUnixSeconds nowUnixSeconds
    let windows := upstreamWindows report history current nowUnixSeconds
    let pooled := windows.foldl (fun pooled window => pool pooled window.2) []
    let windowSeconds := (windows.map (·.1)).sum
    let slowest := slowestUpstream pooled
    let verdict :=
      if windowSeconds = 0 then
        .notEvaluated "window_unavailable" s!"{target.name} upstream latency has no measurement window yet"
      else match slowest with
        | none =>
          .notEvaluated "insufficient_responses"
            s!"{target.name} upstreams gave too few responses to judge latency"
        | some (identity, responses, seconds) =>
          .fromFlag (maximum.lt seconds)
            ("above_threshold",
              s!"{target.name} upstream {identity} is persistently slow: {(seconds.mul (.ofNat 1000)).toText} ms average over {responses.toNat} responses")
            ("within_threshold", s!"{target.name} upstream latency is within threshold")
    [evaluation s!"target:{target.id}:upstream-latency" (some target.id) "upstream_latency" .warning verdict
      (.object [("maximum_seconds", .ofF64 maximum), ("comparison", .string "strictly_greater"),
        ("minimum_responses", .integer upstreamMinimumResponses.toNat),
        ("lookback_seconds", .integer upstreamLookbackSeconds)])
      (.object [("seconds", .ofOption .ofF64 (slowest.map (·.2.2))),
        ("upstream", .ofOption .string (slowest.map (·.1))),
        ("responses", .ofOption (fun responses : UInt64 => .integer responses.toNat) (slowest.map (·.2.1))),
        ("window_seconds", .integer windowSeconds),
        ("upstreams", .array (pooled.map fun (identity, totals) =>
          .object [("identity", .string identity), ("responses", .integer totals.responses.toNat),
            ("average_seconds", .ofOption .ofF64 totals.averageSeconds)]))])
      "GET /control/stats top_upstreams_responses and top_upstreams_avg_time, differenced between runs" true
      profile.upstreamLatencySustainRuns profile.recoveryRuns]

/-! ### Rates -/

def median (values : List Binary64) : Binary64 :=
  let sorted := Collections.orderBy Binary64.totalKey values
  let middle := sorted.length / 2
  if sorted.length % 2 = 0 then Binary64.midpoint (sorted.getD (middle - 1) default) (sorted.getD middle default)
  else sorted.getD middle default

/-- The median and the scaled median deviation of finite values. -/
def robustBounds (values : List Binary64) : Option (Binary64 × Binary64) :=
  if values.isEmpty || values.any (!·.isFinite) then none
  else
    let center := median values
    let deviations := values.map fun value => (value.sub center).abs
    let scaledDeviation := (Binary64.ofRat 1.4826).mul (median deviations)
    some (center, scaledDeviation.max (.ofRat 1e-9))

/-- Identifiers and phrasing of the three rate conditions of one subject. -/
structure BehavioralSubject where
  queryRateId : String
  blockedRatioId : String
  collapseId : String
  queryRateKind : String
  blockedRatioKind : String
  collapseKind : String
  targetId : Option String
  evidenceSource : String
  noun : String

def BehavioralSubject.aggregate : BehavioralSubject where
  queryRateId := "aggregate:query-rate"
  blockedRatioId := "aggregate:blocked-ratio"
  collapseId := "aggregate:blocking-collapsed"
  queryRateKind := "combined_query_rate"
  blockedRatioKind := "combined_blocked_ratio"
  collapseKind := "combined_blocking_collapse"
  targetId := none
  evidenceSource := "combined complete target statistics"
  noun := "Combined AdGuard"

def BehavioralSubject.target (id name : String) : BehavioralSubject where
  queryRateId := s!"target:{id}:query-rate"
  blockedRatioId := s!"target:{id}:blocked-ratio"
  collapseId := s!"target:{id}:blocking-collapsed"
  queryRateKind := "query_rate"
  blockedRatioKind := "blocked_ratio"
  collapseKind := "blocking_collapse"
  targetId := some id
  evidenceSource := "target statistics"
  noun := name

section Behavior

variable (subject : BehavioralSubject) (profile : ConditionProfile) (baselineReady : Bool)
  (history : List RateWindow) (current : Option RateWindow) (minimumWindows : ℕ)

/-- A rate condition that cannot be compared. -/
def unevaluated (id kind : String) (severity : Severity) (reason summary : String) (windows : ℕ) :
    ConditionEvaluation :=
  evaluation id subject.targetId kind severity (.notEvaluated reason summary)
    (.object [("minimum_same_hour_windows", .integer minimumWindows)])
    (.object [("same_hour_windows", .integer windows), ("baseline_ready", .bool baselineReady),
      ("window_available", .bool current.isSome)])
    subject.evidenceSource false profile.behavioralAnomalySustainRuns profile.recoveryRuns

/-- The bounds of a population large enough to compare with. -/
def readyBounds (values : List Binary64) : Option (Binary64 × Binary64) :=
  if baselineReady && minimumWindows ≤ values.length then robustBounds values else none

def queryRateEvaluation : ConditionEvaluation :=
  let values := history.map (·.queryRate)
  let unevaluated := unevaluated subject profile baselineReady current minimumWindows subject.queryRateId
    subject.queryRateKind .warning
  match readyBounds baselineReady minimumWindows values, current with
  | none, _ =>
    unevaluated "baseline_learning" s!"{subject.noun} query-rate baseline is still learning" values.length
  | some _, none =>
    unevaluated "rate_window_unavailable" s!"{subject.noun} query rate has no comparable window" values.length
  | some (median, deviation), some window =>
    let limit := (median.mul (.ofNat 3)).max (median.add ((Binary64.ofNat 4).mul deviation))
    evaluation subject.queryRateId subject.targetId subject.queryRateKind .warning
      (.fromFlag (limit.lt window.queryRate)
        ("above_baseline", s!"{subject.noun} query rate is anomalously high")
        ("within_baseline", s!"{subject.noun} query rate is within baseline"))
      (.object [("maximum_queries_per_second", .ofF64 limit),
        ("same_hour_median_queries_per_second", .ofF64 median), ("same_hour_windows", .integer values.length)])
      (.object [("queries_per_second", .ofF64 window.queryRate),
        ("window_queries", .integer window.queries.toNat), ("window_seconds", .ofF64 window.elapsedSeconds)])
      subject.evidenceSource true profile.behavioralAnomalySustainRuns profile.recoveryRuns

/-- The blocked-ratio condition, or the collapse condition. -/
def ratioEvaluation (id kind : String) (severity : Severity) (collapse : Bool) : ConditionEvaluation :=
  let values := history.filterMap (·.comparableBlockedRatio)
  let unevaluated := unevaluated subject profile baselineReady current minimumWindows id kind severity
  match readyBounds baselineReady minimumWindows values with
  | none =>
    let name := if collapse then "blocking-collapse" else "blocked-ratio"
    unevaluated "baseline_learning" s!"{subject.noun} {name} baseline is still learning" values.length
  | some (median, deviation) =>
    match current with
    | none =>
      unevaluated "rate_window_unavailable" s!"{subject.noun} has no comparable window" values.length
    | some window =>
      match window.comparableBlockedRatio with
      | none =>
        unevaluated "window_too_small" s!"{subject.noun} has too few queries to compare" values.length
      | some ratio =>
        let limit := (Binary64.ofRat 0.04).max ((Binary64.ofNat 6).mul deviation)
        let collapseLimit := median.mul (.ofRat 0.25)
        let verdict :=
          if collapse then
            .fromFlag (ratio.lt collapseLimit)
              ("blocking_collapsed", s!"{subject.noun} blocking has nearly stopped")
              ("blocking_sustained", s!"{subject.noun} blocking is sustained")
          else
            .fromFlag (limit.lt (ratio.sub median).abs)
              ("outside_baseline", s!"{subject.noun} blocked-query ratio is anomalous")
              ("within_baseline", s!"{subject.noun} blocked-query ratio is within baseline")
        let bound := if collapse then ("minimum_blocked_ratio", Value.ofF64 collapseLimit)
          else ("maximum_absolute_deviation", Value.ofF64 limit)
        evaluation id subject.targetId kind severity verdict
          (.object [bound, ("same_hour_median", .ofF64 median),
            ("minimum_queries", .integer rateWindowMinimumQueries.toNat),
            ("same_hour_windows", .integer values.length)])
          (.object [("window_blocked_ratio", .ofF64 ratio), ("window_queries", .integer window.queries.toNat)])
          subject.evidenceSource true profile.behavioralAnomalySustainRuns profile.recoveryRuns

/-- The three rate conditions of one subject. -/
def behavioralEvaluations : List ConditionEvaluation :=
  let ratio := ratioEvaluation subject profile baselineReady history current minimumWindows
  [queryRateEvaluation subject profile baselineReady history current minimumWindows,
    ratio subject.blockedRatioId subject.blockedRatioKind .warning false,
    ratio subject.collapseId subject.collapseKind .critical true]

end Behavior

/-- The windows between successive readings that end in a local hour. -/
def sameHourWindows (packages : Packages) (timeZone : String) (localHour : UInt8) (readings : List Reading) :
    List RateWindow :=
  (Collections.pairs readings).filterMap fun (previous, current) =>
    (localHourOf packages current.timestamp timeZone).bind fun hour =>
      if hour ≠ localHour then none else windowBetween previous current hour

def evaluateTargetBehavior (packages : Packages) (config : BehavioralBaselineConfig) (profile : ConditionProfile)
    (report : TargetReport) (samples : List TargetSample) (nowUnixSeconds : ℤ) (localHour : UInt8) :
    List ConditionEvaluation :=
  if report.id ∉ config.targetIds then []
  else match report.operational with
    | none => []
    | some operational =>
      if !report.complete then []
      else
        let mine := (samples.filter (·.targetId = report.id)).map TargetSample.reading
        let history := sameHourWindows packages config.timeZone localHour mine
        let current := mine.getLast?.bind fun previous =>
          windowBetween previous ⟨nowUnixSeconds, operational.queries, operational.blocked⟩ localHour
        let baselineReady := mine.head?.any fun oldest =>
          (config.learningDays.toNat : ℤ) * 86400 ≤ saturatingSub nowUnixSeconds oldest.timestamp
        behavioralEvaluations (.target report.id report.name) profile baselineReady history current
          config.minimumSameHourSamples

structure AggregateEvaluation where
  observation : AggregateObservation
  evaluations : List ConditionEvaluation

/-- The observed members of the group, if every declared one is complete. -/
def groupMembers (config : BehavioralBaselineConfig) (targetReports : List TargetReport) :
    Option (List (TargetReport × OperationalObservation)) :=
  config.targetIds.mapM fun id => do
    let report ← Collections.findLast (·.id = id) targetReports
    let operational ← report.operational
    if report.complete then some (report, operational) else none

/-- The members' current counters, summed. -/
def currentCombined (members : List (TargetReport × OperationalObservation)) (nowUnixSeconds : ℤ) :
    Option Reading := do
  let queries ← members.foldlM (fun total member => checkedAdd total member.2.queries) 0
  let blocked ← members.foldlM (fun total member => checkedAdd total member.2.blocked) 0
  return ⟨nowUnixSeconds, queries, blocked⟩

/-- `numerator / denominator`, zero for an empty total. -/
def shareOf (numerator denominator : UInt64) : Binary64 :=
  if denominator = 0 then .ofNat 0
  else (Binary64.ofNat numerator.toNat).div (.ofNat denominator.toNat)

def evaluateAggregate (packages : Packages) (config : BehavioralBaselineConfig) (profile : ConditionProfile)
    (targetSamples : List TargetSample) (targetReports : List TargetReport) (nowUnixSeconds : ℤ)
    (localHour : UInt8) (utcOffsetMinutes : ℤ) : Option AggregateEvaluation := do
  let members ← groupMembers config targetReports
  let combined ← currentCombined members nowUnixSeconds
  let readings ← combinedReadings config targetSamples
  let baselineAgeSeconds := match readings.head? with
    | some oldest => saturatingSub nowUnixSeconds oldest.timestamp
    | none => 0
  let history := sameHourWindows packages config.timeZone localHour readings
  let baselineReady := decide ((config.learningDays.toNat : ℤ) * 86400 ≤ baselineAgeSeconds) &&
    decide (config.minimumSameHourSamples ≤ history.length)
  let observation : AggregateObservation :=
    { localHour
      utcOffsetMinutes
      combinedQueries := combined.queries
      combinedBlockedRatio := shareOf combined.blocked combined.queries
      baselineAgeSeconds
      sameHourSamples := history.length
      baselineReady
      resolverQueryShare := Collections.collect (members.map fun (report, operational) =>
        (report.id, shareOf operational.queries combined.queries))
      topClientShare := Collections.collect (members.map fun (report, operational) =>
        (report.id, operational.topClientShare)) }
  let current := readings.getLast?.bind fun previous => windowBetween previous combined localHour
  return ⟨observation, behavioralEvaluations .aggregate profile baselineReady history current
    config.minimumSameHourSamples⟩

end Sentinel

/-
# Normalizing a resolver's answers

The bodies a resolver answers with, as they are decoded, and what an
observation keeps of them: every check in the source's order, each with the
text it reports. What is kept is sorted, its keys are distinct, and its floats
are finite.

Key theorems: `normalizeUpstreams_spec`, `normalizeFilters_spec`, `normalizeRewrites_eq_ok_iff`.
-/
import Sentinel.Adguard.Client
import Sentinel.Core.Evaluate
import Sentinel.Lib.Distinct

namespace Sentinel

open Collections Fallible

/-! ### Decoded bodies -/

structure StatusResponse where
  protectionEnabled : Bool
  running : Bool
  version : String

/-- The two upstream lists of one body lie in memory together. -/
structure StatsResponse where
  numDnsQueries : UInt64
  numBlockedFiltering : UInt64
  avgProcessingTime : Binary64
  topUpstreamsResponses : List (SortedMap UInt64)
  topUpstreamsAvgTime : List (SortedMap Binary64)
  topClients : List (SortedMap UInt64)
  inMemory : ((topUpstreamsAvgTime.length + topUpstreamsResponses.length : ℕ) : ℤ) ≤ i64Maximum

structure DnsResponse where
  upstreamDns : List String
  upstreamMode : String

structure FilterResponse where
  id : ℤ
  enabled : Bool
  url : String
  rulesCount : UInt64
  lastUpdated : Option String

structure FilteringResponse where
  enabled : Bool
  filters : List FilterResponse

structure RewriteResponse where
  domain : String
  answer : String
  enabled : Bool
  deriving DecidableEq

structure RewriteSettingsResponse where
  enabled : Bool

/-! ### Upstreams -/

def invalidStats (detail : String) : AdGuardError := .invalidResponse (Endpoint.stats 0).label detail

/-- The entry of a map that must have exactly one. -/
def onlyEntry {α : Type} (detail : String) (entry : SortedMap α) : Except AdGuardError (String × α) :=
  match entry.entries with
  | [pair] => .ok pair
  | _ => .error (invalidStats detail)

/-- A response list of this length may be truncated. -/
def upstreamListLimit : ℕ := 100

def countResponse (counts : List (String × UInt64)) (entry : SortedMap UInt64) :
    Except AdGuardError (List (String × UInt64)) := do
  let (identity, count) ← onlyEntry "each upstream response entry must contain exactly one upstream" entry
  ensure (identity ≠ "" && !counts.any (·.1 = identity))
    (invalidStats "upstream responses contain invalid or duplicate data")
  return upsert identity (fun _ => count) counts

def uncounted : AdGuardError := invalidStats "upstream latency has no positive response count"

/-- The responses behind an average; unknown if the list may be truncated. -/
def averagedResponses (counts : List (String × UInt64)) (possiblyTruncated : Bool) (identity : String) :
    Except AdGuardError (Option UInt64) :=
  if possiblyTruncated then return none
  else do
    let (_, count) ← demand uncounted (counts.find? (·.1 = identity))
    ensure (0 < count) uncounted
    return some count

/-- One average; the identities seen before are those of what was normalized. -/
def normalizeAverage (counts : List (String × UInt64)) (possiblyTruncated : Bool) (normalized : List UpstreamObservation)
    (entry : SortedMap Binary64) : Except AdGuardError (List UpstreamObservation) := do
  let (identity, average) ← onlyEntry "each upstream latency entry must contain exactly one upstream" entry
  ensure (identity ≠ "" && !normalized.any (·.identity = identity) && average.isFinite && !average.lt (.ofNat 0))
    (invalidStats "upstream latency contains invalid or duplicate data")
  let responses ← averagedResponses counts possiblyTruncated identity
  return normalized ++ [⟨identity, average, responses⟩]

/-- The counted upstreams that no average names. -/
def unaveraged (counts : List (String × UInt64)) (averaged : List UpstreamObservation) : List UpstreamObservation :=
  (counts.filter fun entry => !averaged.any (·.identity = entry.1)).map fun (identity, count) =>
    ⟨identity, .ofNat 0, some count⟩

/-- Joins the averages with the response counts. -/
def normalizeUpstreams (averages : List (SortedMap Binary64)) (responses : List (SortedMap UInt64)) :
    Except AdGuardError (List UpstreamObservation) := do
  let counts ← responses.foldlM countResponse []
  let possiblyTruncated := decide (upstreamListLimit ≤ responses.length)
  let averaged ← averages.foldlM (normalizeAverage counts possiblyTruncated) []
  return orderBy (·.identity) (averaged ++ if possiblyTruncated then [] else unaveraged counts averaged)

theorem onlyEntry_eq_ok_iff {α : Type} {detail : String} {entry : SortedMap α} {pair : String × α} :
    onlyEntry detail entry = .ok pair ↔ entry.entries = [pair] := by
  unfold onlyEntry
  split
  · rename_i only honly
    rw [honly, Except.ok.injEq, List.cons.injEq, and_iff_left rfl]
  · rename_i hmany
    exact iff_of_false (by simp) fun h => hmany pair h

/-- A map whose one entry is the pair. -/
def IsEntry {α : Type} (entry : SortedMap α) (pair : String × α) : Prop := entry.entries = [pair] ∧ pair.1 ≠ ""

theorem countResponse_step : Distinct.Step countResponse IsEntry Prod.fst
    (fun counts (pair : String × UInt64) => upsert pair.1 (fun _ => pair.2) counts) where
  ok_iff counts entry counts' := by
    simp only [countResponse, bind_eq_ok_iff, onlyEntry_eq_ok_iff, ensure_eq_ok_iff, Bool.and_eq_true, Bool.not_eq_true',
      List.any_eq_false, decide_eq_true_eq]
    constructor
    · rintro ⟨pair, hentry, _, ⟨hname, hnew⟩, h⟩
      exact ⟨pair, ⟨hentry, hname⟩, hnew, (Except.ok.inj h).symm⟩
    · rintro ⟨pair, ⟨hentry, hname⟩, hnew, rfl⟩
      exact ⟨pair, hentry, (), ⟨hname, hnew⟩, rfl⟩
  perm counts pair hnew := (perm_upsert hnew).trans (List.perm_append_singleton _ _).symm

/-- Every counted upstream has one count. -/
structure Counted (responses : List (SortedMap UInt64)) (counts : List (String × UInt64)) : Prop where
  length : counts.length = responses.length
  distinct : (counts.map Prod.fst).Nodup

theorem countResponses_spec {responses : List (SortedMap UInt64)} {counts : List (String × UInt64)}
    (h : responses.foldlM countResponse [] = .ok counts) : Counted responses counts := by
  obtain ⟨pairs, hpairs, hdistinct, hperm⟩ := Distinct.perm_of_foldlM countResponse_step h
  exact ⟨hperm.length_eq.trans hpairs.length_eq.symm, ((hperm.map _).nodup_iff).mpr hdistinct⟩

/-- What an average is kept as. -/
structure IsAverage (counts : List (String × UInt64)) (possiblyTruncated : Bool) (entry : SortedMap Binary64)
    (upstream : UpstreamObservation) : Prop where
  entry : IsEntry entry (upstream.identity, upstream.averageSeconds)
  finite : upstream.averageSeconds.isFinite
  nonnegative : upstream.averageSeconds.lt (.ofNat 0) = false
  responses : averagedResponses counts possiblyTruncated upstream.identity = .ok upstream.responses

theorem normalizeAverage_step (counts : List (String × UInt64)) (possiblyTruncated : Bool) :
    Distinct.Step (normalizeAverage counts possiblyTruncated) (IsAverage counts possiblyTruncated) (·.identity)
      (fun normalized upstream => normalized ++ [upstream]) where
  ok_iff normalized entry normalized' := by
    simp only [normalizeAverage, bind_eq_ok_iff, onlyEntry_eq_ok_iff, ensure_eq_ok_iff, Bool.and_eq_true,
      Bool.not_eq_true', List.any_eq_false, decide_eq_true_eq]
    constructor
    · rintro ⟨⟨identity, average⟩, hentry, _, ⟨⟨⟨hname, hnew⟩, hfinite⟩, hnonnegative⟩, responses, hresponses, h⟩
      exact ⟨⟨identity, average, responses⟩, ⟨⟨hentry, hname⟩, hfinite, hnonnegative, hresponses⟩, hnew,
        (Except.ok.inj h).symm⟩
    · rintro ⟨upstream, h, hnew, rfl⟩
      exact ⟨_, h.entry.1, (), ⟨⟨⟨h.entry.2, hnew⟩, h.finite⟩, h.nonnegative⟩, _, h.responses, rfl⟩
  perm _ _ _ := .refl _

theorem averagedResponses_spec {counts : List (String × UInt64)} {possiblyTruncated : Bool} {identity : String}
    {responses : Option UInt64} (h : averagedResponses counts possiblyTruncated identity = .ok responses) :
    responses.isNone = possiblyTruncated := by
  unfold averagedResponses at h
  split at h
  case isTrue htruncated =>
    rw [← Except.ok.inj h, htruncated]
    rfl
  case isFalse hcomplete =>
    simp only [bind_eq_ok_iff] at h
    obtain ⟨_, -, _, -, h⟩ := h
    rw [← Except.ok.inj h, Bool.eq_false_iff.mpr hcomplete]
    rfl

/-- Averages are kept one for one, each with its count unless counts are unknown. -/
structure Averaged (possiblyTruncated : Bool) (averages : List (SortedMap Binary64))
    (averaged : List UpstreamObservation) : Prop where
  length : averaged.length = averages.length
  distinct : (averaged.map (·.identity)).Nodup
  finite : ∀ upstream ∈ averaged, upstream.averageSeconds.isFinite ∧ upstream.averageSeconds.lt (.ofNat 0) = false
  unknown : ∀ upstream ∈ averaged, upstream.responses.isNone = possiblyTruncated

theorem normalizeAverages_spec {counts : List (String × UInt64)} {possiblyTruncated : Bool}
    {averages : List (SortedMap Binary64)} {averaged : List UpstreamObservation}
    (h : averages.foldlM (normalizeAverage counts possiblyTruncated) [] = .ok averaged) :
    Averaged possiblyTruncated averages averaged := by
  obtain ⟨upstreams, hupstreams, hdistinct, hperm⟩ := Distinct.perm_of_foldlM (normalizeAverage_step _ _) h
  have hkept : ∀ upstream ∈ averaged, ∃ entry, IsAverage counts possiblyTruncated entry upstream := by
    intro upstream hmem
    obtain ⟨entry, -, hentry⟩ := exists_of_forall₂_right hupstreams upstream (hperm.mem_iff.mp hmem)
    exact ⟨entry, hentry⟩
  refine ⟨hperm.length_eq.trans hupstreams.length_eq.symm, ((hperm.map _).nodup_iff).mpr hdistinct, fun upstream hmem => ?_,
    fun upstream hmem => ?_⟩
  · obtain ⟨entry, hentry⟩ := hkept upstream hmem
    exact ⟨hentry.finite, hentry.nonnegative⟩
  · obtain ⟨entry, hentry⟩ := hkept upstream hmem
    exact averagedResponses_spec hentry.responses

/-- What is kept of two upstream lists. -/
structure UpstreamsKept (averages : List (SortedMap Binary64)) (responses : List (SortedMap UInt64))
    (upstreams : List UpstreamObservation) : Prop where
  distinct : (upstreams.map (·.identity)).Nodup
  finite : ∀ upstream ∈ upstreams, upstream.averageSeconds.isFinite ∧ upstream.averageSeconds.lt (.ofNat 0) = false
  length_le : upstreams.length ≤ averages.length + responses.length
  /-- A list that may be truncated leaves the averages, and no count. -/
  unknown : upstreamListLimit ≤ responses.length →
    upstreams.length = averages.length ∧ ∀ upstream ∈ upstreams, upstream.responses = none

/-- **Normalized upstreams** are distinct, and all their counts are unknown if
the response list may be truncated. -/
theorem normalizeUpstreams_spec {averages : List (SortedMap Binary64)} {responses : List (SortedMap UInt64)}
    {upstreams : List UpstreamObservation} (h : normalizeUpstreams averages responses = .ok upstreams) :
    UpstreamsKept averages responses upstreams := by
  simp only [normalizeUpstreams, bind_eq_ok_iff] at h
  obtain ⟨counts, hcounts, averaged, haveraged, h⟩ := h
  obtain rfl := Except.ok.inj h
  have hcounted := countResponses_spec hcounts
  have hkept := normalizeAverages_spec haveraged
  by_cases htruncated : upstreamListLimit ≤ responses.length
  · simp only [decide_eq_true htruncated, if_true, List.append_nil] at hkept ⊢
    have hperm := perm_orderBy (·.identity) averaged
    refine ⟨((hperm.map _).nodup_iff).mpr hkept.distinct, fun upstream hmem => hkept.finite upstream (mem_orderBy.mp hmem),
      ?_, fun _ => ⟨by rw [hperm.length_eq, hkept.length], fun upstream hmem => ?_⟩⟩
    · rw [hperm.length_eq, hkept.length]
      omega
    · exact Option.isNone_iff_eq_none.mp (hkept.unknown upstream (mem_orderBy.mp hmem))
  · simp only [decide_eq_false htruncated, Bool.false_eq_true, if_false] at hkept ⊢
    have hperm := perm_orderBy (·.identity) (averaged ++ unaveraged counts averaged)
    have hidentities : (unaveraged counts averaged).map (·.identity) =
        (counts.filter fun entry => !averaged.any (·.identity = entry.1)).map Prod.fst := by
      rw [unaveraged, List.map_map]
      rfl
    refine ⟨((hperm.map _).nodup_iff).mpr ?_, fun upstream hmem => ?_, ?_, fun hle => absurd hle htruncated⟩
    · rw [List.map_append, hidentities, List.nodup_append]
      refine ⟨hkept.distinct, hcounted.distinct.sublist (List.filter_sublist.map _), fun identity hleft other hright hsame => ?_⟩
      obtain ⟨upstream, hupstream, rfl⟩ := List.mem_map.mp hleft
      obtain ⟨entry, hentry, rfl⟩ := List.mem_map.mp hright
      have hunseen := (List.mem_filter.mp hentry).2
      rw [Bool.not_eq_true', List.any_eq_false] at hunseen
      exact hunseen upstream hupstream (decide_eq_true hsame)
    · rcases List.mem_append.mp (mem_orderBy.mp hmem) with hmem | hmem
      · exact hkept.finite upstream hmem
      · obtain ⟨entry, -, rfl⟩ := List.mem_map.mp hmem
        have hzero : (Binary64.ofNat 0).isFinite ∧ (Binary64.ofNat 0).lt (.ofNat 0) = false := by decide +kernel
        exact hzero
    · have hfiltered := List.length_filter_le (fun entry => !averaged.any (·.identity = entry.1)) counts
      rw [hperm.length_eq, List.length_append, unaveraged, List.length_map, hkept.length]
      rw [hcounted.length] at hfiltered
      omega

/-! ### Statistics -/

/-- One client: the identities seen so far, and the greatest count. -/
def countClient (queries : UInt64) (state : List String × UInt64) (entry : SortedMap UInt64) :
    Except AdGuardError (List String × UInt64) := do
  let (identity, count) ← onlyEntry "each top_clients entry must contain exactly one client" entry
  ensure (identity ≠ "" && !state.1.contains identity && count ≤ queries)
    (invalidStats "top_clients contains invalid or duplicate data")
  return (identity :: state.1, max state.2 count)

/-- The source's `ratio` is `shareOf`. -/
def normalizeStats (protectionEnabled : Bool) (stats : StatsResponse) :
    Except AdGuardError OperationalObservation := do
  ensure (stats.numBlockedFiltering ≤ stats.numDnsQueries)
    (invalidStats "num_blocked_filtering exceeds num_dns_queries")
  ensure (stats.avgProcessingTime.isFinite && !stats.avgProcessingTime.lt (.ofNat 0))
    (invalidStats "avg_processing_time must be finite and nonnegative")
  let upstreams ← normalizeUpstreams stats.topUpstreamsAvgTime stats.topUpstreamsResponses
  let (_, topClientCount) ← stats.topClients.foldlM (countClient stats.numDnsQueries) ([], 0)
  return {
    protectionEnabled
    queries := stats.numDnsQueries
    blocked := stats.numBlockedFiltering
    blockedRatio := shareOf stats.numBlockedFiltering stats.numDnsQueries
    averageProcessingSeconds := stats.avgProcessingTime
    maximumUpstreamSeconds :=
      (maxBy (fun a b => a.totalKey ≤ b.totalKey) (upstreams.map (·.averageSeconds))).getD (.ofNat 0)
    topClientShare := shareOf topClientCount stats.numDnsQueries }

/-! ### DNS settings -/

def invalidDns (detail : String) : AdGuardError := .invalidResponse Endpoint.dnsInfo.label detail

/-- The legacy empty mode is load balancing. -/
def normalizeDns (dns : DnsResponse) : Except AdGuardError DnsObservation := do
  ensure (dns.upstreamMode = "" || Text.trim dns.upstreamMode ≠ "")
    (invalidDns "upstream mode must not contain only whitespace")
  ensure (!dns.upstreamDns.isEmpty) (invalidDns "upstream set must be nonempty")
  ensure (dns.upstreamDns.Nodup && dns.upstreamDns.all fun value => Text.trim value ≠ "")
    (invalidDns "upstream set contains empty or duplicate values")
  return ⟨if dns.upstreamMode = "" then "load_balance" else dns.upstreamMode, dns.upstreamDns⟩

/-! ### Filters -/

def invalidFilters (detail : String) : AdGuardError := .invalidResponse Endpoint.filteringStatus.label detail

/-- When a filter was updated, at most five minutes from now. -/
def lastUpdatedSeconds (packages : Packages) (nowUnixSeconds : ℤ) :
    Option String → Except AdGuardError (Option ℤ)
  | none => return none
  | some value => do
    let timestamp ← demand (invalidFilters "required filter last_updated is not RFC3339") (packages.parseTimestamp value)
    ensure (timestamp.asSecond ≤ saturatingAdd nowUnixSeconds 300)
      (invalidFilters "required filter last_updated is in the future")
    return some timestamp.asSecond

/-- A required filter. -/
def normalizeFilter (packages : Packages) (nowUnixSeconds : ℤ) (filter : FilterResponse) :
    Except AdGuardError FilterObservation := do
  let lastUpdatedUnixSeconds ← lastUpdatedSeconds packages nowUnixSeconds filter.lastUpdated
  ensure (!(filter.enabled && lastUpdatedUnixSeconds.isNone))
    (invalidFilters "enabled required filter has no last_updated value")
  return ⟨filter.url, filter.id, filter.enabled, filter.rulesCount, filter.lastUpdated, lastUpdatedUnixSeconds⟩

/-- One filter: the URLs seen so far, and the required filters among them. -/
def acceptFilter (packages : Packages) (required : List String) (nowUnixSeconds : ℤ)
    (state : List String × List FilterObservation) (filter : FilterResponse) :
    Except AdGuardError (List String × List FilterObservation) := do
  ensure (Text.trim filter.url ≠ "" && !state.1.contains filter.url)
    (invalidFilters "filter list contains an empty or duplicate URL")
  if required.contains filter.url then
    let observation ← normalizeFilter packages nowUnixSeconds filter
    return (filter.url :: state.1, state.2 ++ [observation])
  else return (filter.url :: state.1, state.2)

/-- The URLs a policy requires, if there is one. -/
def requiredUrls (policy : Option PolicyConfig) : List String :=
  policy.elim [] fun policy => policy.filters.map (·.url)

def normalizeFilters (packages : Packages) (filters : List FilterResponse) (policy : Option PolicyConfig)
    (nowUnixSeconds : ℤ) : Except AdGuardError (List FilterObservation) := do
  let (_, normalized) ← filters.foldlM (acceptFilter packages (requiredUrls policy) nowUnixSeconds) ([], [])
  return orderBy (·.url) normalized

/-- **Normalized filters** are sorted by distinct URLs. -/
theorem normalizeFilters_spec {packages : Packages} {filters : List FilterResponse} {policy : Option PolicyConfig}
    {nowUnixSeconds : ℤ} {observations : List FilterObservation}
    (h : normalizeFilters packages filters policy nowUnixSeconds = .ok observations) :
    (observations.map (·.url)).Nodup ∧ observations.Pairwise fun a b => a.url ≤ b.url := by
  simp only [normalizeFilters, bind_eq_ok_iff] at h
  obtain ⟨⟨seen, normalized⟩, hloop, h⟩ := h
  obtain rfl := Except.ok.inj h
  refine ⟨(((perm_orderBy (·.url) normalized).map _).nodup_iff).mpr ?_, pairwise_orderBy _ _⟩
  refine (foldlM_preserves (I := fun (state : List String × List FilterObservation) =>
      (∀ observation ∈ state.2, observation.url ∈ state.1) ∧ (state.2.map (·.url)).Nodup)
    (fun filter _ state state' ⟨hseen, hdistinct⟩ hstep => ?_) ⟨by simp, by simp⟩ hloop).2
  simp only [acceptFilter, bind_eq_ok_iff, ensure_eq_ok_iff, Bool.and_eq_true, Bool.not_eq_true'] at hstep
  obtain ⟨_, ⟨-, hnew⟩, hstep⟩ := hstep
  have hnew : filter.url ∉ state.1 := by simpa using hnew
  split at hstep
  · simp only [bind_eq_ok_iff, normalizeFilter] at hstep
    obtain ⟨_, ⟨_, -, _, -, hobservation⟩, hstep⟩ := hstep
    obtain rfl := Except.ok.inj hobservation
    obtain rfl := Except.ok.inj hstep
    refine ⟨fun observation hmem => ?_, ?_⟩
    · rcases List.mem_append.mp hmem with hold | hlast
      · exact List.mem_cons_of_mem _ (hseen observation hold)
      · rw [List.mem_singleton.mp hlast]
        exact List.mem_cons_self
    · refine nodup_map_concat_iff.mpr ⟨hdistinct, fun observation hmem hsame => hnew ?_⟩
      have hold := hseen observation hmem
      rwa [hsame] at hold
  · obtain rfl := Except.ok.inj hstep
    exact ⟨fun observation hmem => List.mem_cons_of_mem _ (hseen observation hmem), hdistinct⟩

/-! ### Rewrites -/

def RewriteObservation.key (rewrite : RewriteObservation) : String × String := (rewrite.domain, rewrite.answer)

/-- A rewrite in its normal form. -/
def RewriteResponse.normal (rewrite : RewriteResponse) : RewriteObservation :=
  ⟨normalizeDnsName rewrite.domain, normalizeRewriteAnswer rewrite.answer, rewrite.enabled⟩

/-- One rewrite; the pairs seen before are those of what was normalized. -/
def acceptRewrite (normalized : List RewriteObservation) (rewrite : RewriteResponse) :
    Except AdGuardError (List RewriteObservation) := do
  let entry := rewrite.normal
  ensure (entry.domain ≠ "" && entry.answer ≠ "" && !normalized.any (·.key = entry.key))
    (.invalidResponse Endpoint.rewriteList.label "rewrite list contains empty or duplicate normalized entries")
  return normalized ++ [entry]

def normalizeRewrites (rewrites : List RewriteResponse) : Except AdGuardError (List RewriteObservation) := do
  let normalized ← rewrites.foldlM acceptRewrite []
  return orderBy (fun entry => toLex entry.key) normalized

theorem acceptRewrite_eq_ok_iff {normalized accepted : List RewriteObservation} {rewrite : RewriteResponse} :
    acceptRewrite normalized rewrite = .ok accepted ↔
      (rewrite.normal.domain ≠ "" ∧ rewrite.normal.answer ≠ "") ∧
        (∀ entry ∈ normalized, entry.key ≠ rewrite.normal.key) ∧ normalized ++ [rewrite.normal] = accepted := by
  simp only [acceptRewrite, bind_eq_ok_iff, ensure_eq_ok_iff, Bool.and_eq_true, Bool.not_eq_true', List.any_eq_false,
    decide_eq_true_eq]
  constructor
  · rintro ⟨_, ⟨hnonempty, hnew⟩, h⟩
    exact ⟨hnonempty, hnew, Except.ok.inj h⟩
  · rintro ⟨hnonempty, hnew, rfl⟩
    exact ⟨(), ⟨hnonempty, hnew⟩, rfl⟩

theorem acceptRewrite_step : Distinct.Step acceptRewrite
    (fun rewrite entry => (rewrite.normal.domain ≠ "" ∧ rewrite.normal.answer ≠ "") ∧ rewrite.normal = entry)
    RewriteObservation.key (fun normalized entry => normalized ++ [entry]) where
  ok_iff normalized rewrite accepted := by
    rw [acceptRewrite_eq_ok_iff]
    constructor
    · rintro ⟨hnonempty, hnew, rfl⟩
      exact ⟨_, ⟨hnonempty, rfl⟩, hnew, rfl⟩
    · rintro ⟨_, ⟨hnonempty, rfl⟩, hnew, rfl⟩
      exact ⟨hnonempty, hnew, rfl⟩
  perm _ _ _ := .refl _

theorem acceptRewrites_eq_ok_iff {rewrites : List RewriteResponse} {accepted : List RewriteObservation} :
    rewrites.foldlM acceptRewrite [] = .ok accepted ↔
      (∀ rewrite ∈ rewrites, rewrite.normal.domain ≠ "" ∧ rewrite.normal.answer ≠ "") ∧
        ((rewrites.map RewriteResponse.normal).map RewriteObservation.key).Nodup ∧
        rewrites.map RewriteResponse.normal = accepted := by
  have hplaced (entries : List RewriteObservation) :
      entries.foldl (fun normalized entry => normalized ++ [entry]) [] = entries := by
    rw [List.foldl_append_eq_append, List.nil_append, ← List.flatMap_def, List.flatMap_singleton']
  rw [Distinct.foldlM_nil_eq_ok_iff acceptRewrite_step]
  simp only [List.forall₂_and_left, ← List.forall₂_map_left_iff, List.forall₂_eq_eq_eq, hplaced]
  constructor
  · rintro ⟨_, ⟨hall, rfl⟩, hdistinct, rfl⟩
    exact ⟨hall, hdistinct, rfl⟩
  · rintro ⟨hall, hdistinct, rfl⟩
    exact ⟨_, ⟨hall, rfl⟩, hdistinct, rfl⟩

/-- **Normalized rewrites** are the entries in normal form, sorted, if no part is
empty and no pair repeats. -/
theorem normalizeRewrites_eq_ok_iff {rewrites : List RewriteResponse} {observations : List RewriteObservation} :
    normalizeRewrites rewrites = .ok observations ↔
      (∀ rewrite ∈ rewrites, rewrite.normal.domain ≠ "" ∧ rewrite.normal.answer ≠ "") ∧
        (rewrites.map (·.normal.key)).Nodup ∧
        orderBy (fun entry => toLex entry.key) (rewrites.map RewriteResponse.normal) = observations := by
  have hkeys : rewrites.map (·.normal.key) = (rewrites.map RewriteResponse.normal).map RewriteObservation.key := by
    rw [List.map_map]
    rfl
  simp only [normalizeRewrites, bind_eq_ok_iff, acceptRewrites_eq_ok_iff, hkeys]
  constructor
  · rintro ⟨_, ⟨hall, hdistinct, rfl⟩, h⟩
    exact ⟨hall, hdistinct, Except.ok.inj h⟩
  · rintro ⟨hall, hdistinct, rfl⟩
    exact ⟨_, ⟨hall, hdistinct, rfl⟩, rfl⟩

/-! ### The observation -/

/-- The version library; a version is its text. -/
structure VersionPackage where
  /-- `Version::parse`. -/
  parse : String → Option String
  /-- `VersionReq::matches`. -/
  satisfies : (requirement version : String) → Bool
  /-- The text of a requirement. -/
  requirementText : String → String

/-- What each request of an observation returned. -/
structure Answers where
  status : Except AdGuardError StatusResponse
  statistics : Except AdGuardError StatsResponse
  dns : Except AdGuardError DnsResponse
  filtering : Except AdGuardError FilteringResponse
  rewrites : Except AdGuardError (List RewriteResponse)
  rewriteSettings : Except AdGuardError RewriteSettingsResponse

def invalidStatus (detail : String) : AdGuardError := .invalidResponse Endpoint.status.label detail

def observe (packages : Packages) (versions : VersionPackage) (requirement : String) (target : TargetConfig)
    (policy : Option PolicyConfig) (nowUnixSeconds : ℤ) (answers : Answers) : Except AdGuardError TargetReport := do
  let status ← answers.status
  let version ← demand (invalidStatus "version is not semantic-version data")
    (versions.parse (String.ofList (status.version.toList.dropWhile (· = 'v'))))
  ensure (versions.satisfies requirement version)
    (.unsupportedVersion status.version (versions.requirementText requirement))
  ensure status.running (invalidStatus "running must be true for a complete observation")
  let statistics ← answers.statistics
  let dns ← answers.dns
  let filtering ← answers.filtering
  let rewrites ← answers.rewrites
  let rewriteSettings ← answers.rewriteSettings
  let operational ← normalizeStats status.protectionEnabled statistics
  let upstreams ← normalizeUpstreams statistics.topUpstreamsAvgTime statistics.topUpstreamsResponses
  let dns ← normalizeDns dns
  let filters ← normalizeFilters packages filtering.filters policy nowUnixSeconds
  let rewrites ← normalizeRewrites rewrites
  return {
    id := target.id
    name := target.name
    status := .complete
    complete := true
    serverVersion := some version
    operational := some operational
    dns := some dns
    filteringEnabled := some filtering.enabled
    rewritesEnabled := some rewriteSettings.enabled
    upstreams, filters, rewrites
    errorKind := none
    errorDetail := none }

end Sentinel

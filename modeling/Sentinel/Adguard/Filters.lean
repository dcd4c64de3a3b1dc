/-
# Required filters

A required filter's verdict is about what is kept of a resolver's filters; here
it is read off the list itself. An entry of a URL that is not required decides
no verdict.

Key theorem: `evaluateFilters_follow`.
-/
import Sentinel.Adguard.Normalize

namespace Sentinel

open Collections Fallible

variable {packages : Packages} {nowUnixSeconds : ℤ}

/-! ### What is kept -/

/-- What is kept of an entry. -/
structure FilterKept (packages : Packages) (filter : FilterResponse) (observation : FilterObservation) : Prop where
  url : observation.url = filter.url
  enabled : observation.enabled = filter.enabled
  dated : filter.enabled = true → observation.lastUpdatedUnixSeconds.isSome
  updated : ∀ second, observation.lastUpdatedUnixSeconds = some second ↔
    ∃ value instant, filter.lastUpdated = some value ∧ packages.parseTimestamp value = some instant ∧
      instant.asSecond = second

theorem lastUpdatedSeconds_spec {lastUpdated : Option String} {kept : Option ℤ}
    (h : lastUpdatedSeconds packages nowUnixSeconds lastUpdated = .ok kept) (second : ℤ) :
    kept = some second ↔ ∃ value instant, lastUpdated = some value ∧ packages.parseTimestamp value = some instant ∧
      instant.asSecond = second := by
  cases lastUpdated with
  | none =>
    obtain rfl := Except.ok.inj h
    simp
  | some value =>
    simp only [lastUpdatedSeconds, bind_eq_ok_iff, demand_eq_ok_iff] at h
    obtain ⟨instant, hinstant, _, -, h⟩ := h
    obtain rfl := Except.ok.inj h
    constructor
    · intro hsecond
      exact ⟨value, instant, rfl, hinstant, Option.some.inj hsecond⟩
    · rintro ⟨_, other, hvalue, hother, rfl⟩
      rw [← Option.some.inj hvalue, hinstant] at hother
      rw [Option.some.inj hother]

theorem normalizeFilter_spec {filter : FilterResponse} {observation : FilterObservation}
    (h : normalizeFilter packages nowUnixSeconds filter = .ok observation) : FilterKept packages filter observation := by
  simp only [normalizeFilter, bind_eq_ok_iff, ensure_eq_ok_iff] at h
  obtain ⟨kept, hkept, _, hdated, h⟩ := h
  obtain rfl := Except.ok.inj h
  refine ⟨rfl, rfl, fun henabled => ?_, lastUpdatedSeconds_spec hkept⟩
  simpa [henabled] using hdated

/-- The entries that were accepted, and the required ones that were kept. -/
structure FiltersKept (packages : Packages) (required : List String) (nowUnixSeconds : ℤ) (accepted : List FilterResponse)
    (state : List String × List FilterObservation) : Prop where
  seen : ∀ url, url ∈ state.1 ↔ url ∈ accepted.map (·.url)
  distinct : (accepted.map (·.url)).Nodup
  normalized : ∀ filter ∈ accepted, filter.url ∈ required →
    ∃ observation, normalizeFilter packages nowUnixSeconds filter = .ok observation
  kept : ∀ observation, observation ∈ state.2 ↔
    ∃ filter ∈ accepted, filter.url ∈ required ∧ normalizeFilter packages nowUnixSeconds filter = .ok observation

/-- One more entry is accepted, and kept if it is required. -/
theorem FiltersKept.acceptFilter {required : List String} {accepted : List FilterResponse} {filter : FilterResponse}
    {state state' : List String × List FilterObservation}
    (hkept : FiltersKept packages required nowUnixSeconds accepted state)
    (h : acceptFilter packages required nowUnixSeconds state filter = .ok state') :
    FiltersKept packages required nowUnixSeconds (accepted ++ [filter]) state' := by
  simp only [Sentinel.acceptFilter, bind_eq_ok_iff, ensure_eq_ok_iff, Bool.and_eq_true, Bool.not_eq_true'] at h
  obtain ⟨_, ⟨-, hnew⟩, h⟩ := h
  have hnew : filter.url ∉ accepted.map (·.url) := by
    rw [← hkept.seen]
    simpa using hnew
  have hdistinct : ((accepted ++ [filter]).map (·.url)).Nodup :=
    nodup_map_concat_iff.mpr ⟨hkept.distinct, fun other hmem hsame => hnew (hsame ▸ List.mem_map_of_mem hmem)⟩
  have hseen (url : String) : url ∈ filter.url :: state.1 ↔ url ∈ (accepted ++ [filter]).map (·.url) := by
    simp [hkept.seen, or_comm]
  split at h
  case isTrue hrequired =>
    obtain ⟨observation, hobservation, h⟩ := bind_eq_ok_iff.mp h
    obtain rfl := Except.ok.inj h
    refine ⟨hseen, hdistinct, fun other hmem hother => ?_, fun other => ?_⟩
    · rcases List.mem_append.mp hmem with hold | hlast
      · exact hkept.normalized other hold hother
      · rw [List.mem_singleton.mp hlast]
        exact ⟨observation, hobservation⟩
    · have hurl : filter.url ∈ required := by simpa using hrequired
      simp only [List.mem_append, List.mem_singleton, hkept.kept, or_and_right, exists_or, exists_eq_left, hurl,
        hobservation, true_and, Except.ok.injEq]
      exact or_congr_right eq_comm
  case isFalse hrequired =>
    obtain rfl := Except.ok.inj h
    have hurl : filter.url ∉ required := by simpa using hrequired
    refine ⟨hseen, hdistinct, fun other hmem hother => ?_, fun other => ?_⟩
    · rcases List.mem_append.mp hmem with hold | hlast
      · exact hkept.normalized other hold hother
      · exact absurd (List.mem_singleton.mp hlast ▸ hother) hurl
    · simp only [List.mem_append, List.mem_singleton, hkept.kept, or_and_right, exists_or, exists_eq_left, hurl,
        false_and, or_false]

/-- **An accepted list** has distinct URLs, and its required entries are kept. -/
theorem normalizeFilters_kept {filters : List FilterResponse} {policy : Option PolicyConfig}
    {observations : List FilterObservation}
    (h : normalizeFilters packages filters policy nowUnixSeconds = .ok observations) :
    ∃ seen, FiltersKept packages (requiredUrls policy) nowUnixSeconds filters (seen, observations) := by
  simp only [normalizeFilters, bind_eq_ok_iff] at h
  obtain ⟨⟨seen, normalized⟩, hloop, h⟩ := h
  obtain rfl := Except.ok.inj h
  have hstart : FiltersKept packages (requiredUrls policy) nowUnixSeconds [] ([], []) :=
    ⟨by simp, List.nodup_nil, by simp, by simp⟩
  have hkept : FiltersKept packages (requiredUrls policy) nowUnixSeconds filters (seen, normalized) :=
    foldlM_ok (fun _ _ _ _ hkept hstep => hkept.acceptFilter hstep) hstart hloop
  exact ⟨seen, hkept.seen, hkept.distinct, hkept.normalized, fun observation => by rw [mem_orderBy, hkept.kept]⟩

section Found

variable {filters : List FilterResponse} {policy : PolicyConfig} {report : TargetReport}
  (haccepted : normalizeFilters packages filters (some policy) nowUnixSeconds = .ok report.filters)

include haccepted

/-- What is found of a required URL is what is kept of its entry. -/
theorem findLast_filters_eq_some_iff {url : String} (hurl : url ∈ requiredUrls (some policy))
    {observation : FilterObservation} :
    findLast (·.url = url) report.filters = some observation ↔
      ∃ filter ∈ filters, filter.url = url ∧ normalizeFilter packages nowUnixSeconds filter = .ok observation := by
  obtain ⟨_, hkept⟩ := normalizeFilters_kept haccepted
  rw [findLast_key_eq_some_iff (normalizeFilters_spec haccepted).1, hkept.kept]
  constructor
  · rintro ⟨⟨filter, hfilter, -, hobservation⟩, rfl⟩
    exact ⟨filter, hfilter, (normalizeFilter_spec hobservation).url.symm, hobservation⟩
  · rintro ⟨filter, hfilter, rfl, hobservation⟩
    exact ⟨⟨filter, hfilter, hurl, hobservation⟩, (normalizeFilter_spec hobservation).url⟩

/-- Nothing is found of a required URL just if no entry has it. -/
theorem findLast_filters_eq_none_iff {url : String} (hurl : url ∈ requiredUrls (some policy)) :
    findLast (·.url = url) report.filters = none ↔ ¬∃ filter ∈ filters, filter.url = url := by
  obtain ⟨_, hkept⟩ := normalizeFilters_kept haccepted
  constructor
  · rintro hnone ⟨filter, hfilter, rfl⟩
    obtain ⟨observation, hobservation⟩ := hkept.normalized filter hfilter hurl
    have hsome := (findLast_filters_eq_some_iff haccepted hurl).mpr ⟨filter, hfilter, rfl, hobservation⟩
    rw [hnone] at hsome
    cases hsome
  · intro hmissing
    cases hfind : findLast (fun observation : FilterObservation => observation.url = url) report.filters with
    | none => rfl
    | some observation =>
      obtain ⟨filter, hfilter, hsame, -⟩ := (findLast_filters_eq_some_iff haccepted hurl).mp hfind
      exact absurd ⟨filter, hfilter, hsame⟩ hmissing

end Found

/-! ### The verdict -/

/-- An entry shows what is required of its filter; its age counts whole seconds. -/
structure Satisfies (packages : Packages) (nowUnixSeconds : ℤ) (required : RequiredFilter) (filter : FilterResponse) :
    Prop where
  url : filter.url = required.url
  enabled : filter.enabled = required.enabled
  recent : required.enabled = true → ∃ hours value instant, required.maximumAgeHours = some hours ∧
    filter.lastUpdated = some value ∧ packages.parseTimestamp value = some instant ∧
    nowUnixSeconds - instant.asSecond ≤ hours.toNat * 3600

/-- The outcome and the reason that the raw list gives a required filter. -/
structure FollowsList (packages : Packages) (nowUnixSeconds : ℤ) (filters : List FilterResponse)
    (required : RequiredFilter) (outcome : EvaluationOutcome) (reason : String) : Prop where
  clear : outcome = .clear ∧ reason = "matches_policy" ↔
    ∃ filter ∈ filters, Satisfies packages nowUnixSeconds required filter
  missing : (¬∃ filter ∈ filters, filter.url = required.url) → outcome = .active ∧ reason = "missing"
  drifted : (∃ filter ∈ filters, filter.url = required.url) →
    (¬∃ filter ∈ filters, filter.url = required.url ∧ filter.enabled = required.enabled) →
    outcome = .active ∧ reason = "state_drift"
  stale : (∃ filter ∈ filters, filter.url = required.url ∧ filter.enabled = required.enabled) →
    (¬∃ filter ∈ filters, Satisfies packages nowUnixSeconds required filter) → outcome = .active ∧ reason = "stale"

/-- What validation gives an enabled filter. -/
theorem maximumAgeHours_of_valid {policies : SortedMap PolicyConfig} (valid : validatePolicies packages policies = [])
    {id : String} {policy : PolicyConfig} (hpolicy : (id, policy) ∈ policies.entries) {required : RequiredFilter}
    (hrequired : required ∈ policy.filters) (henabled : required.enabled = true) :
    ∃ hours, required.maximumAgeHours = some hours := by
  rw [validatePolicies, List.flatMap_eq_nil_iff] at valid
  have hempty := valid _ hpolicy
  simp only [validatePolicy, validateFilters, List.append_eq_nil_iff, List.flatMap_eq_nil_iff, errorIf_eq_nil_iff] at hempty
  obtain ⟨⟨-, hfilters⟩, -⟩ := hempty
  have hmem : required ∈ (screen (fun filter => (packages.parseUrl filter.url).isNone) RequiredFilter.url []
      policy.filters).map Prod.fst := by rwa [screen_map_fst]
  obtain ⟨entry, hentry, rfl⟩ := List.mem_map.mp hmem
  have hage := (hfilters entry hentry).1.2
  rw [henabled, Bool.true_and] at hage
  cases hhours : entry.1.maximumAgeHours with
  | none => simp [hhours] at hage
  | some hours => exact ⟨hours, rfl⟩

section Verdict

variable {filter : FilterResponse} {observation : FilterObservation} {required : RequiredFilter}

/-- The age of an entry is over the limit just if it is not recent. -/
theorem stale_iff (nowUnixSeconds : ℤ) (hkept : FilterKept packages filter observation) (henabled : filter.enabled = true) {hours : UInt32}
    (hhours : required.maximumAgeHours = some hours) :
    ((observation.lastUpdatedUnixSeconds.map fun updated => saturatingSub nowUnixSeconds updated).all
        (((required.maximumAgeHours.getD 0).toNat * 3600 : ℤ) < ·)) = false ↔
      ∃ hours value instant, required.maximumAgeHours = some hours ∧ filter.lastUpdated = some value ∧
        packages.parseTimestamp value = some instant ∧ nowUnixSeconds - instant.asSecond ≤ hours.toNat * 3600 := by
  obtain ⟨second, hsecond⟩ := Option.isSome_iff_exists.mp (hkept.dated henabled)
  obtain ⟨value, instant, hvalue, hinstant, rfl⟩ := (hkept.updated second).mp hsecond
  -- no age limit comes near the ends of the 64-bit range
  have hlimit : ((hours.toNat * 3600 : ℤ) < saturatingSub nowUnixSeconds instant.asSecond) ↔
      hours.toNat * 3600 < nowUnixSeconds - instant.asSecond := by
    have hbound := hours.toNat_lt
    refine lt_saturate_iff ?_ ?_
    · unfold i64Minimum
      omega
    · unfold i64Maximum
      omega
  rw [hsecond, hhours, Option.map_some, Option.all_some, Option.getD_some, decide_eq_false_iff_not, hlimit, not_lt]
  constructor
  · intro hrecent
    exact ⟨hours, value, instant, rfl, hvalue, hinstant, hrecent⟩
  · rintro ⟨hours', value', instant', hhours', hvalue', hinstant', hrecent⟩
    obtain rfl := Option.some.inj hhours'
    obtain rfl := Option.some.inj (hvalue.symm.trans hvalue')
    obtain rfl := Option.some.inj (hinstant.symm.trans hinstant')
    exact hrecent

/-- The verdict on what is kept of an entry. -/
theorem filterVerdict_of_kept (nowUnixSeconds : ℤ) (target : TargetConfig) (hkept : FilterKept packages filter observation)
    (hurl : filter.url = required.url)
    (hdeclared : required.enabled = true → ∃ hours, required.maximumAgeHours = some hours) :
    let verdict := (filterVerdict target required (some observation) nowUnixSeconds).1
    (Satisfies packages nowUnixSeconds required filter → verdict.outcome = .clear ∧ verdict.reason = "matches_policy") ∧
      (filter.enabled ≠ required.enabled → verdict.outcome = .active ∧ verdict.reason = "state_drift") ∧
      (filter.enabled = required.enabled → ¬Satisfies packages nowUnixSeconds required filter →
        verdict.outcome = .active ∧ verdict.reason = "stale") := by
  by_cases hstate : filter.enabled = required.enabled
  case neg =>
    refine ⟨fun hsatisfies => absurd hsatisfies.enabled hstate, fun _ => ?_, fun h => absurd h hstate⟩
    rw [filterVerdict, if_pos (hkept.enabled ▸ hstate)]
    exact ⟨rfl, rfl⟩
  case pos =>
    have hmatches : ¬observation.enabled ≠ required.enabled := not_not.mpr (hkept.enabled.trans hstate)
    refine ⟨fun hsatisfies => ?_, fun h => absurd hstate h, fun _ hfails => ?_⟩
    · rw [filterVerdict, if_neg hmatches]
      by_cases henabled : required.enabled = true
      · obtain ⟨hours, hhours⟩ := hdeclared henabled
        have hfresh := (stale_iff nowUnixSeconds hkept (hstate.trans henabled) hhours).mpr (hsatisfies.recent henabled)
        rw [if_pos henabled]
        simp only [hfresh]
        exact ⟨rfl, rfl⟩
      · rw [if_neg henabled]
        exact ⟨rfl, rfl⟩
    · rw [filterVerdict, if_neg hmatches]
      by_cases henabled : required.enabled = true
      · obtain ⟨hours, hhours⟩ := hdeclared henabled
        have hold := mt (stale_iff nowUnixSeconds hkept (hstate.trans henabled) hhours).mp fun hrecent =>
          hfails ⟨hurl, hstate, fun _ => hrecent⟩
        rw [Bool.not_eq_false] at hold
        rw [if_pos henabled]
        simp only [hold]
        exact ⟨rfl, rfl⟩
      · exact absurd ⟨hurl, hstate, fun h => absurd h henabled⟩ hfails

end Verdict

section Evaluated

variable {policies : SortedMap PolicyConfig} {id : String} {policy : PolicyConfig} {filters : List FilterResponse}
  {report : TargetReport}

/-- The verdict on what is found of a required filter. -/
theorem filterVerdict_follows (valid : validatePolicies packages policies = []) (hpolicy : (id, policy) ∈ policies.entries)
    (haccepted : normalizeFilters packages filters (some policy) nowUnixSeconds = .ok report.filters)
    (target : TargetConfig) {required : RequiredFilter} (hrequired : required ∈ policy.filters) :
    let verdict := (filterVerdict target required (findLast (·.url = required.url) report.filters) nowUnixSeconds).1
    FollowsList packages nowUnixSeconds filters required verdict.outcome verdict.reason := by
  have hurl : required.url ∈ requiredUrls (some policy) := List.mem_map_of_mem hrequired
  cases hfind : findLast (fun observation : FilterObservation => observation.url = required.url) report.filters with
  | none =>
    have hmissing := (findLast_filters_eq_none_iff haccepted hurl).mp hfind
    refine ⟨⟨fun h => ?_, ?_⟩, fun _ => ⟨rfl, rfl⟩, fun h => absurd h hmissing, ?_⟩
    · cases h.1
    · rintro ⟨filter, hfilter, hsatisfies⟩
      exact absurd ⟨filter, hfilter, hsatisfies.url⟩ hmissing
    · rintro ⟨filter, hfilter, hsame, -⟩
      exact absurd ⟨filter, hfilter, hsame⟩ hmissing
  | some observation =>
    obtain ⟨filter, hfilter, hsame, hobservation⟩ := (findLast_filters_eq_some_iff haccepted hurl).mp hfind
    obtain ⟨_, hkept⟩ := normalizeFilters_kept haccepted
    -- no other entry has the URL
    have honly : ∀ other ∈ filters, other.url = required.url → other = filter := fun other hother hurl =>
      List.inj_on_of_nodup_map hkept.distinct hother hfilter (hurl.trans hsame.symm)
    obtain ⟨hclear, hdrifted, hstale⟩ := filterVerdict_of_kept nowUnixSeconds target
      (normalizeFilter_spec hobservation) hsame (maximumAgeHours_of_valid valid hpolicy hrequired)
    refine ⟨⟨fun h => ?_, ?_⟩, fun h => absurd ⟨filter, hfilter, hsame⟩ h, fun _ h => ?_, ?_⟩
    · by_cases hstate : filter.enabled = required.enabled
      · by_contra hnone
        have hactive := (hstale hstate fun hsatisfies => hnone ⟨filter, hfilter, hsatisfies⟩).1
        rw [h.1] at hactive
        cases hactive
      · have hactive := (hdrifted hstate).1
        rw [h.1] at hactive
        cases hactive
    · rintro ⟨other, hother, hsatisfies⟩
      exact hclear (honly other hother hsatisfies.url ▸ hsatisfies)
    · exact hdrifted fun hstate => h ⟨filter, hfilter, hsame, hstate⟩
    · rintro ⟨other, hother, hsame', hstate⟩ h
      obtain rfl := honly other hother hsame'
      exact hstale hstate fun hsatisfies => h ⟨other, hother, hsatisfies⟩

/-- **Required-filter verdicts follow the raw list**, and entries of other URLs
decide nothing of what is reported. -/
theorem evaluateFilters_follow (valid : validatePolicies packages policies = [])
    (hpolicy : (id, policy) ∈ policies.entries)
    (haccepted : normalizeFilters packages filters (some policy) nowUnixSeconds = .ok report.filters)
    (target : TargetConfig) (profile : ConditionProfile) :
    List.Forall₂ (fun required verdict => FollowsList packages nowUnixSeconds filters required verdict.outcome verdict.reason)
        policy.filters (evaluateFilters packages target policy profile report nowUnixSeconds) ∧
      ∀ (filters' : List FilterResponse) (report' : TargetReport),
        normalizeFilters packages filters' (some policy) nowUnixSeconds = .ok report'.filters →
        (∀ filter, filter.url ∈ requiredUrls (some policy) → (filter ∈ filters' ↔ filter ∈ filters)) →
        evaluateFilters packages target policy profile report' nowUnixSeconds =
          evaluateFilters packages target policy profile report nowUnixSeconds := by
  constructor
  · rw [evaluateFilters, List.forall₂_map_right_iff, List.forall₂_same]
    intro required hrequired
    exact filterVerdict_follows valid hpolicy haccepted target hrequired
  · intro filters' report' haccepted' hsame
    refine List.map_congr_left fun required hrequired => ?_
    have hurl : required.url ∈ requiredUrls (some policy) := List.mem_map_of_mem hrequired
    have hfound : findLast (fun observation : FilterObservation => observation.url = required.url) report'.filters =
        findLast (fun observation : FilterObservation => observation.url = required.url) report.filters := by
      refine Option.ext fun observation => ?_
      rw [findLast_filters_eq_some_iff haccepted' hurl, findLast_filters_eq_some_iff haccepted hurl]
      refine exists_congr fun filter => ?_
      constructor
      · rintro ⟨hfilter, hown, hobservation⟩
        exact ⟨(hsame filter (hown ▸ hurl)).mp hfilter, hown, hobservation⟩
      · rintro ⟨hfilter, hown, hobservation⟩
        exact ⟨(hsame filter (hown ▸ hurl)).mpr hfilter, hown, hobservation⟩
    rw [hfound]

end Evaluated

/-- The packages, where one list is declared and one time is read. -/
def listPackages : Packages :=
  { (default : Packages) with
    parseUrl := fun text =>
      if text = "https://lists.example.invalid/ads.txt" then
        some ⟨"https", "", none, some (.domain "lists.example.invalid"), "/ads.txt", none, none⟩
      else none
    parseTimestamp := fun text => if text = "2026-01-01T00:00:00Z" then Timestamp.new 1767225600 0 else none }

def adsRequired : RequiredFilter := ⟨"https://lists.example.invalid/ads.txt", true, some 24⟩

/-- A policy that requires one list. -/
def adsPolicy : PolicyConfig := { filters := [adsRequired] }

def adsEntry : FilterResponse := ⟨1, true, "https://lists.example.invalid/ads.txt", 10, some "2026-01-01T00:00:00Z"⟩

/-- An entry that no policy requires, without an update. -/
def otherEntry : FilterResponse := ⟨2, true, "https://lists.example.invalid/other.txt", 10, none⟩

/-- A complete report of these filters alone. -/
def filtersReport (observations : List FilterObservation) : TargetReport :=
  { TargetReport.incomplete "home" "Home" .complete "" "" with
    complete := true
    filters := observations
    errorKind := none
    errorDetail := none }

def adsTarget : TargetConfig := { id := "home", name := "Home", baseUrl := "https://home" }

theorem evaluateFilters_follow_ads :
    ∃ observations alone,
      normalizeFilters listPackages [otherEntry, adsEntry] (some adsPolicy) 1767312000 = .ok observations ∧
      normalizeFilters listPackages [adsEntry] (some adsPolicy) 1767312000 = .ok alone ∧
      List.Forall₂ (fun required verdict =>
          FollowsList listPackages 1767312000 [otherEntry, adsEntry] required verdict.outcome verdict.reason) [adsRequired]
        (evaluateFilters listPackages adsTarget adsPolicy {} (filtersReport observations) 1767312000) ∧
      evaluateFilters listPackages adsTarget adsPolicy {} (filtersReport alone) 1767312000 =
        evaluateFilters listPackages adsTarget adsPolicy {} (filtersReport observations) 1767312000 := by
  have hok : (normalizeFilters listPackages [otherEntry, adsEntry] (some adsPolicy) 1767312000).toOption.any
      (fun _ => true) := by decide +kernel
  have hok' : (normalizeFilters listPackages [adsEntry] (some adsPolicy) 1767312000).toOption.any
      (fun _ => true) := by decide +kernel
  obtain ⟨observations, hobservations, -⟩ := ok_of_any hok
  obtain ⟨alone, halone, -⟩ := ok_of_any hok'
  have haccepted : normalizeFilters listPackages [otherEntry, adsEntry] (some adsPolicy) 1767312000 =
      .ok (filtersReport observations).filters := hobservations
  have valid : validatePolicies listPackages ⟨[("home", adsPolicy)], List.pairwise_singleton ..⟩ = [] := by decide +kernel
  obtain ⟨hfollows, hsame⟩ := evaluateFilters_follow valid (List.mem_singleton_self _) haccepted adsTarget {}
  refine ⟨observations, alone, hobservations, halone, hfollows, hsame [adsEntry] (filtersReport alone) halone ?_⟩
  intro filter hrequired
  have hurl : filter.url = adsRequired.url := by simpa [requiredUrls, adsPolicy] using hrequired
  rw [List.mem_singleton, List.mem_cons, List.mem_singleton]
  refine ⟨.inr, fun h => h.resolve_left ?_⟩
  rintro rfl
  exact absurd hurl (by decide)

end Sentinel

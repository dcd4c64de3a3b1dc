/-
# Observing the targets

What a check observes of each target: a pause after a rejection, the
normalized answers, or why there are none. Whatever a resolver answers, the
rows of its report satisfy the constraints of their tables.

Key theorems: `observeTarget_storable`, `targetTable_ok`.
-/
import Sentinel.Adguard.Normalize
import Sentinel.Cli.Phase

namespace Sentinel

open Collections Fallible

/-- The end of a target's pause, if it is paused. -/
def pausedUntil (cooldown : Option TargetRuntimeState) (nowUnixSeconds : ℤ) : Option ℤ :=
  (cooldown.bind (·.authRetryAfter)).filter (nowUnixSeconds < ·)

/-- The report of one target, from what its requests returned. -/
def observeTarget (packages : Packages) (versions : VersionPackage) (config : Config)
    (cooldown : Option TargetRuntimeState) (nowUnixSeconds : ℤ) (target : TargetConfig) (answers : Answers) :
    TargetReport :=
  match pausedUntil cooldown nowUnixSeconds with
  | some retryAfter =>
    .incomplete target.id target.name .authenticationCooldown "authentication_cooldown"
      s!"authentication retry is paused for {saturatingSub retryAfter nowUnixSeconds} seconds"
  | none =>
    match observe packages versions config.observation.adguardVersionRequirement target (config.policyOf target)
        nowUnixSeconds answers with
    | .ok report => report
    | .error error => incompleteReport target error

/-- The reports of the configured targets, in the order they finished. -/
def Config.Observes (packages : Packages) (versions : VersionPackage) (config : Config) (store : StateStore)
    (nowUnixSeconds : ℤ) (observed : List TargetReport) : Prop :=
  ∃ answers : TargetConfig → Answers, observed.Perm (config.targets.map fun target =>
    observeTarget packages versions config (store.targetRuntimeState.find? target.id) nowUnixSeconds target
      (answers target))

/-! ### Reports that can be stored -/

/-- What the constraints of the tables ask of a report. -/
structure TargetReport.Storable (report : TargetReport) : Prop where
  upstreams : (report.upstreams.map (·.identity)).Nodup
  latencies : ∀ upstream ∈ report.upstreams,
    upstream.averageSeconds.isFinite ∧ upstream.averageSeconds.lt (.ofNat 0) = false
  ordinals : (report.upstreams.length : ℤ) ≤ i64Maximum
  filters : (report.filters.map (·.url)).Nodup
  rewrites : (report.rewrites.map RewriteObservation.key).Nodup
  /-- No more is blocked than queried. -/
  counters : ∀ value ∈ report.operational, value.blocked ≤ value.queries

/-- A report without observations can be stored. -/
theorem storable_incomplete (id name : String) (status : TargetStatus) (errorKind errorDetail : String) :
    (TargetReport.incomplete id name status errorKind errorDetail).Storable where
  upstreams := List.nodup_nil
  latencies _ hmem := nomatch hmem
  ordinals := by
    show (0 : ℤ) ≤ i64Maximum
    decide
  filters := List.nodup_nil
  rewrites := List.nodup_nil
  counters _ hmem := nomatch hmem

section Observed

variable {packages : Packages} {versions : VersionPackage} {target : TargetConfig} {nowUnixSeconds : ℤ} {answers : Answers}

theorem normalizeStats_spec {protectionEnabled : Bool} {stats : StatsResponse} {observation : OperationalObservation}
    (h : normalizeStats protectionEnabled stats = .ok observation) : observation.blocked ≤ observation.queries := by
  simp only [normalizeStats, bind_eq_ok_iff, ensure_eq_ok_iff] at h
  obtain ⟨_, hblocked, _, -, _, -, _, -, h⟩ := h
  obtain rfl := Except.ok.inj h
  exact of_decide_eq_true hblocked

/-- **What is normalized can be stored.** -/
theorem observe_storable {requirement : String} {policy : Option PolicyConfig} {report : TargetReport}
    (h : observe packages versions requirement target policy nowUnixSeconds answers = .ok report) :
    report.Storable ∧ report.id = target.id := by
  simp only [observe, bind_eq_ok_iff] at h
  obtain ⟨_, -, _, -, _, -, _, -, statistics, -, _, -, _, -, _, -, _, -, _, hstats, _, hupstreams, _, -, _, hfilters,
    rewrites, hrewrites, h⟩ := h
  obtain rfl := Except.ok.inj h
  have hkept := normalizeUpstreams_spec hupstreams
  refine ⟨⟨hkept.distinct, hkept.finite, ?_, (normalizeFilters_spec hfilters).1, ?_, ?_⟩, rfl⟩
  · exact (Int.ofNat_le.mpr hkept.length_le).trans statistics.inMemory
  · obtain ⟨-, hdistinct, rfl⟩ := normalizeRewrites_eq_ok_iff.mp hrewrites
    rw [((perm_orderBy _ _).map _).nodup_iff, List.map_map]
    exact hdistinct
  · rintro _ ⟨⟩
    exact normalizeStats_spec hstats

/-- **Every target's report can be stored**, whatever its resolver answers. -/
theorem observeTarget_storable {config : Config} {cooldown : Option TargetRuntimeState} :
    (observeTarget packages versions config cooldown nowUnixSeconds target answers).Storable ∧
      (observeTarget packages versions config cooldown nowUnixSeconds target answers).id = target.id := by
  unfold observeTarget
  cases pausedUntil cooldown nowUnixSeconds with
  | some retryAfter => exact ⟨storable_incomplete .., rfl⟩
  | none =>
    cases hobserved : observe packages versions config.observation.adguardVersionRequirement target
        (config.policyOf target) nowUnixSeconds answers with
    | ok report => exact observe_storable hobserved
    | error error => exact ⟨storable_incomplete .., rfl⟩

theorem Config.Observes.storable {config : Config} {store : StateStore} {observed : List TargetReport}
    (h : config.Observes packages versions store nowUnixSeconds observed) :
    (∀ report ∈ observed, report.Storable) ∧ (observed.map (·.id)).Perm (config.targets.map (·.id)) := by
  obtain ⟨answers, hperm⟩ := h
  constructor
  · intro report hreport
    obtain ⟨target, -, rfl⟩ := List.mem_map.mp (hperm.mem_iff.mp hreport)
    exact observeTarget_storable.1
  · have hids := hperm.map (·.id)
    rw [List.map_map] at hids
    refine hids.trans (List.Perm.of_eq (List.map_congr_left fun target _ => ?_))
    exact observeTarget_storable.2

end Observed

/-! ### Their rows -/

/-- A finite double that is not negative is at least zero. -/
theorem zero_le_of_not_lt {x : Binary64} (hfinite : x.isFinite) (h : x.lt (.ofNat 0) = false) :
    (Binary64.ofNat 0).le x = true := by
  have hnan := not_isNan_of_isFinite hfinite
  have hzero : (Binary64.ofNat 0).isNan = false := by decide +kernel
  rw [Binary64.lt, hnan, hzero, Bool.not_false, Bool.true_and, Bool.true_and, decide_eq_false_iff_not, not_lt] at h
  rw [Binary64.le, hnan, hzero]
  exact decide_eq_true h

theorem upstreamRow_ok {upstream : UpstreamObservation} {ordinal : ℕ} (hordinal : (ordinal : ℤ) ≤ i64Maximum)
    (hlatency : upstream.averageSeconds.isFinite ∧ upstream.averageSeconds.lt (.ofNat 0) = false) :
    ∃ row, upstreamRow upstream ordinal = .ok row := by
  have hresponses : (upstream.responses.map Text.toText).all unsignedText = true := by
    cases upstream.responses <;> simp
  simp only [upstreamRow, i64FromUsize_ok hordinal, bindReal_of_isFinite hlatency.1, constraint, demand,
    columnCheck_ok (zero_le_of_not_lt hlatency.1 hlatency.2), columnCheck_ok hresponses, ok_bind]
  exact ⟨_, rfl⟩

theorem upstreamRow_identity {upstream : UpstreamObservation} {ordinal : ℕ} {row : UpstreamRow}
    (h : upstreamRow upstream ordinal = .ok row) : upstream.identity = row.upstreamIdentity := by
  simp only [upstreamRow, bind_eq_ok_iff] at h
  obtain ⟨_, -, _, -, _, -, _, -, h⟩ := h
  obtain rfl := Except.ok.inj h
  rfl

theorem filterRow_ok (filter : FilterObservation) : ∃ row, filterRow filter = .ok row := by
  simp only [filterRow, columnCheck_ok (unsignedText_toText _), ok_bind]
  exact ⟨_, rfl⟩

/-- **A report that can be stored has a row.** -/
theorem targetRow_ok {report : TargetReport} (h : report.Storable) :
    ∃ row, targetRow report = .ok row := by
  obtain ⟨upstreams, hupstreams⟩ := exists_upstreamRows report.upstreams fun entry hentry => by
    have hordinal := (List.mem_zipIdx hentry).2.1
    have hmemory := h.ordinals
    have hmem := (List.mem_zipIdx hentry).2.2
    refine upstreamRow_ok (by omega) (h.latencies entry.1 ?_)
    rw [hmem]
    exact List.getElem_mem _
  have hidentities : report.upstreams.map (·.identity) = upstreams.map (·.upstreamIdentity) := by
    have hrows : report.upstreams.zipIdx.map (fun entry => entry.1.identity) = upstreams.map (·.upstreamIdentity) :=
      Fallible.map_eq_map_of_forall₂ ((mapM_eq_ok_iff.mp hupstreams).imp fun _ _ hrow => upstreamRow_identity hrow)
    have hfst := List.zipIdx_map_fst 0 report.upstreams
    rw [← hrows, ← hfst, List.map_map, hfst]
    rfl
  obtain ⟨filters, hfilters⟩ := exists_mapM_eq_ok (f := filterRow) (l := report.filters) fun filter _ => filterRow_ok filter
  have hurls : report.filters.map (·.url) = filters.map (·.filterUrl) :=
    Fallible.map_eq_map_of_forall₂ ((mapM_eq_ok_iff.mp hfilters).imp fun _ _ hrow => (load_filterRow hrow).2.symm)
  have hkeys : ((report.rewrites.map rewriteRow).map RewriteRow.key).Nodup := by
    have hlex := h.rewrites.map toLex.injective
    rw [List.map_map] at hlex ⊢
    exact hlex
  have hcounters : ((report.operational.map fun value => Text.toText value.queries).all unsignedText &&
      (report.operational.map fun value => Text.toText value.blocked).all unsignedText) = true := by
    cases report.operational <;> simp
  simp only [targetRow, columnCheck_ok hcounters, hupstreams, hfilters, Table.insertAll_empty (hidentities ▸ h.upstreams),
    Table.insertAll_empty (hurls ▸ h.filters), Table.insertAll_empty hkeys, constraint, demand, ok_bind]
  exact ⟨_, rfl⟩

/-- The rows are inserted one after the other. -/
theorem foldlM_insert_targets {reports : List TargetReport} {rows : List TargetRow}
    (h : List.Forall₂ (fun report row => targetRow report = .ok row) reports rows) (table : Table TargetRow.targetId) :
    reports.foldlM (fun table target => do constraint (table.insert? (← targetRow target))) table =
      constraint (table.insertAll rows) := by
  induction h generalizing table with
  | nil => rfl
  | @cons report row _ _ hrow _ ih =>
    rw [List.foldlM_cons, hrow, ok_bind, Table.insertAll, List.foldlM_cons]
    cases table.insert? row with
    | none => rfl
    | some next => exact ih next

/-- **The rows of distinct targets** are inserted. -/
theorem targetTable_ok {reports : List TargetReport} (hstorable : ∀ report ∈ reports, report.Storable)
    (hdistinct : (reports.map (·.id)).Nodup) : ∃ table, StateStore.targetTable reports = .ok table := by
  obtain ⟨rows, hrows⟩ := exists_mapM_eq_ok (f := targetRow) (l := reports) fun report hreport =>
    targetRow_ok (hstorable report hreport)
  have hall := mapM_eq_ok_iff.mp hrows
  have hids : reports.map (·.id) = rows.map (·.targetId) := by
    refine Fallible.map_eq_map_of_forall₂ (hall.imp fun report row hrow => ?_)
    simp only [targetRow, bind_eq_ok_iff] at hrow
    obtain ⟨_, -, _, -, _, -, _, -, _, -, _, -, hrow⟩ := hrow
    obtain rfl := Except.ok.inj hrow
    rfl
  exact ⟨_, (foldlM_insert_targets hall .empty).trans (by rw [Table.insertAll_empty (hids ▸ hdistinct)]; rfl)⟩

end Sentinel

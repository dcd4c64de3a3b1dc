/-
# Rows read back what was written

An observation is stored in a row, with rows under it for its upstreams,
filters and rewrites, and counts as decimal texts. Reading the row gives the
observation again, if what a query sorts was sorted before and no float is a
NaN, which a column would hold as a null.

Key theorems: `load_upstreamRow`, `load_targetRow`, `load_targetTable`, `load_aggregateRow`.
-/
import Sentinel.Store.Load

namespace Sentinel

open Collections

/-! ### Finite floats -/

theorem not_isNan_of_isFinite {x : Binary64} (h : x.isFinite) : x.isNan = false := by
  have hne : x.exponent ≠ 2047 := of_decide_eq_true h
  rw [Binary64.isNan, decide_eq_false hne, Bool.false_and]

theorem bindReal_of_isFinite {x : Binary64} (h : x.isFinite) : bindReal x = some x := by
  rw [bindReal, not_isNan_of_isFinite h]
  rfl

/-- The floats are finite. -/
structure OperationalObservation.Finite (value : OperationalObservation) : Prop where
  blockedRatio : value.blockedRatio.isFinite
  averageProcessingSeconds : value.averageProcessingSeconds.isFinite
  maximumUpstreamSeconds : value.maximumUpstreamSeconds.isFinite
  topClientShare : value.topClientShare.isFinite

/-! ### The rows under an observation -/

theorem load_upstreamRow {upstream : UpstreamObservation} {ordinal : ℕ} {row : UpstreamRow}
    (h : upstreamRow upstream ordinal = .ok row) : row.load = .ok upstream ∧ row.ordinal = ordinal := by
  simp only [upstreamRow, Fallible.bind_eq_ok_iff, constraint_eq_ok_iff] at h
  obtain ⟨stored, hstored, average, haverage, _, -, _, -, h⟩ := h
  obtain rfl := Except.ok.inj h
  have hvalue : average = upstream.averageSeconds := bindReal_eq_some haverage
  refine ⟨?_, i64FromUsize_eq_ok hstored⟩
  unfold UpstreamRow.load
  rw [hvalue]
  cases hr : upstream.responses with
  | none =>
    show Except.ok (⟨upstream.identity, upstream.averageSeconds, none⟩ : UpstreamObservation) = .ok upstream
    rw [← hr]
  | some count =>
    simp only [Option.map_some, Option.mapM_some, parseCounter_toText]
    show Except.ok (⟨upstream.identity, upstream.averageSeconds, some count⟩ : UpstreamObservation) = .ok upstream
    rw [← hr]

theorem load_filterRow {filter : FilterObservation} {row : FilterRow} (h : filterRow filter = .ok row) :
    row.load = .ok filter ∧ row.filterUrl = filter.url := by
  simp only [filterRow, Fallible.bind_eq_ok_iff] at h
  obtain ⟨_, -, h⟩ := h
  obtain rfl := Except.ok.inj h
  refine ⟨?_, rfl⟩
  unfold FilterRow.load
  rw [parseCounter_toText]
  rfl

/-- What is read of the rows of upstreams is in the order of the upstreams. -/
theorem mapM_upstreamRows {β : Type} {g : UpstreamRow → Except StoreError β} {f : UpstreamObservation → β}
    (hg : ∀ upstream ordinal row, upstreamRow upstream ordinal = .ok row → g row = .ok (f upstream))
    {upstreams : List UpstreamObservation} {rows : List UpstreamRow}
    (h : upstreams.zipIdx.mapM (fun (upstream, ordinal) => upstreamRow upstream ordinal) = .ok rows) :
    (orderBy (·.ordinal) rows).mapM g = .ok (upstreams.map f) := by
  have hall := Fallible.mapM_eq_ok_iff.mp h
  have hordinals : upstreams.zipIdx.map (fun entry => (entry.2 : ℤ)) = rows.map (·.ordinal) :=
    Fallible.map_eq_map_of_forall₂ (hall.imp fun _ _ hrow => (load_upstreamRow hrow).2.symm)
  have hnat : (upstreams.zipIdx.map Prod.snd).Pairwise (· ≤ ·) := by
    rw [List.zipIdx_map_snd]
    exact List.pairwise_le_range'
  have hsorted : (rows.map (·.ordinal)).Pairwise (· ≤ ·) := by
    rw [← hordinals, List.pairwise_map]
    exact (List.pairwise_map.mp hnat).imp fun hle => Int.ofNat_le.mpr hle
  rw [orderBy_eq_self (List.pairwise_map.mp hsorted), Fallible.mapM_eq_ok_iff]
  have hread : List.Forall₂ (fun (row : UpstreamRow) (entry : UpstreamObservation × ℕ) => g row = .ok (f entry.1))
      rows upstreams.zipIdx := (hall.imp fun entry row hrow => hg entry.1 entry.2 row hrow).flip
  have hfst := List.zipIdx_map_fst 0 upstreams
  rw [← hfst, List.map_map, List.forall₂_map_right_iff]
  exact hread

theorem load_upstreamRows {upstreams : List UpstreamObservation} {rows : List UpstreamRow}
    (h : upstreams.zipIdx.mapM (fun (upstream, ordinal) => upstreamRow upstream ordinal) = .ok rows) :
    (orderBy (·.ordinal) rows).mapM (·.load) = .ok upstreams := by
  rw [mapM_upstreamRows (fun _ _ _ hrow => (load_upstreamRow hrow).1) h, List.map_id']

/-! ### Observations -/

/-- An observation as it is normalized: filters and rewrites are in order, and
the floats are finite. -/
structure TargetReport.Normalized (report : TargetReport) : Prop where
  filters : report.filters.Pairwise fun a b => a.url ≤ b.url
  rewrites : report.rewrites.Pairwise fun a b => toLex (a.domain, a.answer) ≤ toLex (b.domain, b.answer)
  operational : ∀ value ∈ report.operational, value.Finite
  upstreams : ∀ upstream ∈ report.upstreams, upstream.averageSeconds.isFinite

/-- The rows of filters in order are the filters. -/
theorem load_filterRows {filters : List FilterObservation} {rows : List FilterRow}
    (hn : filters.Pairwise fun a b => a.url ≤ b.url) (h : filters.mapM filterRow = .ok rows) :
    (orderBy (·.filterUrl) rows).mapM (·.load) = .ok filters := by
  have hall := (Fallible.mapM_eq_ok_iff.mp h).imp fun _ _ => load_filterRow
  have hurls : filters.map (·.url) = rows.map (·.filterUrl) :=
    Fallible.map_eq_map_of_forall₂ (hall.imp fun _ _ h => h.2.symm)
  have hsorted : (rows.map (·.filterUrl)).Pairwise (· ≤ ·) := hurls ▸ List.pairwise_map.mpr hn
  rw [orderBy_eq_self (List.pairwise_map.mp hsorted), Fallible.mapM_eq_ok_iff]
  exact (hall.imp fun _ _ h => h.1).flip

theorem load_rewriteRows {rewrites : List RewriteObservation}
    (hn : rewrites.Pairwise fun a b => toLex (a.domain, a.answer) ≤ toLex (b.domain, b.answer)) :
    (orderBy RewriteRow.key (rewrites.map rewriteRow)).map (·.load) = rewrites := by
  have hsorted : (rewrites.map rewriteRow).Pairwise fun a b => a.key ≤ b.key := List.pairwise_map.mpr hn
  rw [orderBy_eq_self hsorted, List.map_map]
  exact List.map_id _

/-- The operational part is read back from its columns. -/
theorem load_operational {row : TargetRow} {operational : Option OperationalObservation}
    (hfinite : ∀ value ∈ operational, value.Finite)
    (hp : row.protectionEnabled = operational.map (·.protectionEnabled))
    (hq : row.queries = operational.map fun value => Text.toText value.queries)
    (hb : row.blocked = operational.map fun value => Text.toText value.blocked)
    (hr : row.blockedRatio = operational.bind fun value => bindReal value.blockedRatio)
    (ha : row.averageProcessingSeconds = operational.bind fun value => bindReal value.averageProcessingSeconds)
    (hu : row.maximumUpstreamSeconds = operational.bind fun value => bindReal value.maximumUpstreamSeconds)
    (hc : row.topClientShare = operational.bind fun value => bindReal value.topClientShare) :
    row.operational = .ok operational := by
  unfold TargetRow.operational
  rw [hp, hq, hb, hr, ha, hu, hc]
  cases operational with
  | none => rfl
  | some value =>
    have hv := hfinite value rfl
    simp only [Option.map_some, Option.bind_some, bindReal_of_isFinite hv.blockedRatio,
      bindReal_of_isFinite hv.averageProcessingSeconds, bindReal_of_isFinite hv.maximumUpstreamSeconds,
      bindReal_of_isFinite hv.topClientShare, parseCounter_toText]
    rfl

theorem load_dns {row : TargetRow} {dns : Option DnsObservation} (hm : row.dnsUpstreamMode = dns.map (·.upstreamMode))
    (hu : row.dnsUpstream = dns.map (·.upstreamDns)) : row.dns = dns := by
  unfold TargetRow.dns
  rw [hm, hu]
  cases dns <;> rfl

/-- **An observation is read back from its row.** -/
theorem load_targetRow {report : TargetReport} {row : TargetRow} (hn : report.Normalized)
    (h : targetRow report = .ok row) : row.load = .ok report ∧ row.targetId = report.id := by
  simp only [targetRow, Fallible.bind_eq_ok_iff, constraint_eq_ok_iff] at h
  obtain ⟨_, -, upstreamRows, hupstreams, filterRows, hfilters, upstreams, hu, filters, hf, rewrites, hr, h⟩ := h
  obtain rfl := Except.ok.inj h
  have hu := (Table.insertAll_eq_some_iff.mp hu).2
  have hf := (Table.insertAll_eq_some_iff.mp hf).2
  have hr := (Table.insertAll_eq_some_iff.mp hr).2
  rw [Table.rows_empty, List.nil_append] at hu hf hr
  refine ⟨?_, rfl⟩
  simp only [TargetRow.load, Fallible.bind_eq_ok_iff]
  refine ⟨report.operational, load_operational hn.operational rfl rfl rfl rfl rfl rfl rfl, report.status, ?_,
    report.upstreams, hu ▸ load_upstreamRows hupstreams, report.filters, hf ▸ load_filterRows hn.filters hfilters, ?_⟩
  · rw [decodeStatus, TargetStatus.decode_encode]
    rfl
  · rw [hr, load_rewriteRows hn.rewrites, (load_dns rfl rfl : TargetRow.dns _ = report.dns)]
    rfl

/-- The rows of observations, in the order they were inserted. -/
theorem targetTable_eq_ok {reports : List TargetReport} {table : Table TargetRow.targetId}
    (h : StateStore.targetTable reports = .ok table) :
    List.Forall₂ (fun report row => targetRow report = .ok row) reports table.rows := by
  refine Fallible.foldlM_ok (I := fun done (table : Table TargetRow.targetId) =>
    List.Forall₂ (fun report row => targetRow report = .ok row) done table.rows) ?_ .nil h
  intro done report table table' hdone hstep
  simp only [Fallible.bind_eq_ok_iff, constraint_eq_ok_iff] at hstep
  obtain ⟨row, hrow, hinsert⟩ := hstep
  rw [(Table.insert?_eq_some_iff.mp hinsert).2]
  exact List.rel_append hdone (.cons hrow .nil)

/-- The rows of observations in order are the observations. -/
theorem load_targetTable {reports : List TargetReport} {table : Table TargetRow.targetId}
    (hsorted : reports.Pairwise fun a b => a.id ≤ b.id) (hn : ∀ report ∈ reports, report.Normalized)
    (h : StateStore.targetTable reports = .ok table) :
    (orderBy (·.targetId) table.rows).mapM (·.load) = .ok reports := by
  have hall := targetTable_eq_ok h
  have hloaded : List.Forall₂ (fun report row => row.load = .ok report ∧ row.targetId = report.id) reports
      table.rows := by
    refine ((List.forall₂_and_left _ _).mpr ⟨hn, hall⟩).imp ?_
    rintro report row ⟨hreport, hrow⟩
    exact load_targetRow hreport hrow
  have hids : reports.map (·.id) = table.rows.map (·.targetId) :=
    Fallible.map_eq_map_of_forall₂ (hloaded.imp fun _ _ h => h.2.symm)
  have horder : (table.rows.map (·.targetId)).Pairwise (· ≤ ·) := hids ▸ List.pairwise_map.mpr hsorted
  rw [orderBy_eq_self (List.pairwise_map.mp horder), Fallible.mapM_eq_ok_iff]
  exact (hloaded.imp fun _ _ h => h.1).flip

/-! ### The aggregate -/

/-- The offset fits its width, and the floats are finite. -/
structure AggregateObservation.Normalized (aggregate : AggregateObservation) : Prop where
  utcOffsetMinutes : -2147483648 ≤ aggregate.utcOffsetMinutes ∧ aggregate.utcOffsetMinutes < 2147483648
  combinedBlockedRatio : aggregate.combinedBlockedRatio.isFinite
  resolverQueryShare : ∀ share ∈ aggregate.resolverQueryShare, share.2.isFinite
  topClientShare : ∀ share ∈ aggregate.topClientShare, share.2.isFinite

theorem u8FromI64_toNat (value : UInt8) (detail : String) : u8FromI64 value.toNat detail = .ok value := by
  have hlt := value.toNat_lt
  unfold u8FromI64
  rw [if_pos (by omega), Int.toNat_natCast, UInt8.ofNat_toNat]

/-- **The aggregate is read back from its row.** -/
theorem load_aggregateRow {aggregate : AggregateObservation} {row : AggregateRow} (hn : aggregate.Normalized)
    (h : aggregateRow aggregate = .ok row) : row.load = .ok aggregate := by
  simp only [aggregateRow, Fallible.bind_eq_ok_iff, constraint_eq_ok_iff] at h
  obtain ⟨samples, hsamples, _, -, _, -, ratio, hratio, _, -, _, -, h⟩ := h
  obtain rfl := Except.ok.inj h
  obtain rfl := i64FromUsize_eq_ok hsamples
  rw [bindReal_of_isFinite hn.combinedBlockedRatio, Option.some.injEq] at hratio
  have hoffset : i32FromI64 aggregate.utcOffsetMinutes "UTC offset out of range" = .ok aggregate.utcOffsetMinutes := by
    unfold i32FromI64
    rw [if_pos hn.utcOffsetMinutes]
  simp only [AggregateRow.load, u8FromI64_toNat, hoffset, parseCounter_toText, usizeFromI64_natCast, ← hratio]
  rfl

/-! ### Reports -/

/-- A report as a check assembles it: its parts are in order, its health is
its counts', its exit reason its code's. -/
structure RunReport.Assembled (report : RunReport) : Prop where
  schemaVersion : report.schemaVersion = reportSchemaVersion
  targets : report.targets.Pairwise fun a b => a.id ≤ b.id
  normalized : ∀ target ∈ report.targets, target.Normalized
  aggregate : ∀ aggregate ∈ report.aggregate, aggregate.Normalized
  evaluations : report.evaluations.Pairwise fun a b => a.id ≤ b.id
  health : report.health = {
    minimumCompleteTargets := report.minimumCompleteTargets
    completeTargets := report.completeTargets
    met := report.minimumCompleteTargets ≤ report.completeTargets
    issues := report.health.issues }
  exit : report.exit.reason = exitReason report.exit.code

end Sentinel

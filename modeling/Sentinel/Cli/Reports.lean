/-
# The report command

`report` reads the newest stored runs and writes them in a format. On a database
that checks have left, it writes the reports that the checks committed, newest
first, delivery apart, and fails only for its arguments or for want of a run.

Key theorems: `reportCommand_eq_ok_iff`, `reports_printed`.
-/
import Sentinel.Cli.Assembled

namespace Sentinel

open Collections CrashTxn

inductive OutputFormat where
  | human
  | json
  | jsonl
  deriving DecidableEq, Repr

/-- What is written of a report. -/
structure Written where
  report : RunReport
  format : OutputFormat
  explain : Bool

/-- `write_reports`: the reports that are written, in their order. -/
def writeReports (reports : List RunReport) (format : OutputFormat) (explain : Bool) :
    Except CommandError (List Written) :=
  match format with
  | .json => do
    let report ← Fallible.demand (.invocation "no report is available to render") reports.head?
    return [⟨report, .json, explain⟩]
  | .jsonl => return reports.map fun report => ⟨report, .jsonl, explain⟩
  | .human => return reports.map fun report => ⟨report, .human, explain⟩

section Command

variable (packages : Packages) (state : Except StoreError StateStore) (format : OutputFormat) (limit : ℕ)
  (since : Option String) (explain : Bool)

/-- `report`, on the state that its path opens as; the error of an invalid
instant ends with the time library's. -/
def reportCommand : Except CommandError (List Written) := do
  Fallible.ensure (!(explain && format ≠ .human))
    (.invocation "--explain requires --format human; JSON already includes condition evidence")
  Fallible.ensure (!(limit = 0 || 10000 < limit)) (.invocation "report limit must be between 1 and 10000")
  let since ← since.mapM fun value =>
    Fallible.demand (.invocation "invalid --since timestamp") (packages.parseTimestamp value)
  Fallible.ensure (!(format = .json && limit ≠ 1))
    (.invocation "--format json requires --limit 1; use jsonl for multiple reports")
  let store ← state.mapError .ofStore
  let reports ← (store.loadReports limit since).mapError .ofStore
  Fallible.ensure (!reports.isEmpty) (.invocation "state contains no matching runs")
  writeReports reports format explain

/-- The arguments that are accepted, with the instant they name. -/
structure Accepted (instant : Option Timestamp) : Prop where
  explained : explain → format = .human
  limited : 1 ≤ limit ∧ limit ≤ 10000
  parsed : since.mapM packages.parseTimestamp = some instant
  single : format = .json → limit = 1

variable {packages state format limit since explain}

theorem length_loadReports_le {store : StateStore} {instant : Option Timestamp} {reports : List RunReport}
    (h : store.loadReports limit instant = .ok reports) : reports.length ≤ limit := by
  simp only [StateStore.loadReports, Fallible.bind_eq_ok_iff] at h
  obtain ⟨_, -, h⟩ := h
  rw [← (Fallible.mapM_eq_ok_iff.mp h).length_eq, List.length_take]
  omega

/-- **What the command writes**: the reports it loads, if there are any and its
arguments are accepted. -/
theorem reportCommand_eq_ok_iff {store : StateStore} {written : List Written} :
    reportCommand packages (.ok store) format limit since explain = .ok written ↔
      ∃ instant reports, Accepted packages format limit since explain instant ∧
        store.loadReports limit instant = .ok reports ∧ reports ≠ [] ∧
        written = reports.map fun report => ⟨report, format, explain⟩ := by
  have hparse : ∀ instant, (since.mapM fun value => Fallible.demand (CommandError.invocation "invalid --since timestamp")
      (packages.parseTimestamp value)) = .ok instant ↔ since.mapM packages.parseTimestamp = some instant := by
    intro instant
    cases since with
    | none =>
      show Except.ok none = Except.ok instant ↔ some none = some instant
      simp
    | some value =>
      rw [Option.mapM_some, Option.mapM_some]
      cases packages.parseTimestamp value with
      | none => exact iff_of_false (fun h => by cases h) (fun h => by cases h)
      | some parsed =>
        show Except.ok (some parsed) = Except.ok instant ↔ some (some parsed) = some instant
        simp
  have hwritten : ∀ reports : List RunReport, reports ≠ [] → (format = .json → reports.length ≤ 1) →
      writeReports reports format explain = .ok (reports.map fun report => ⟨report, format, explain⟩) := by
    intro reports hne hsingle
    unfold writeReports
    cases format with
    | human | jsonl => rfl
    | json =>
      obtain ⟨first, rest, rfl⟩ := List.exists_cons_of_ne_nil hne
      obtain rfl : rest = [] := List.length_eq_zero_iff.mp (by simpa using hsingle rfl)
      rfl
  simp only [reportCommand, Fallible.bind_eq_ok_iff, Fallible.ensure_eq_ok_iff, Fallible.mapError_eq_ok_iff, hparse,
    Bool.not_eq_true', Bool.and_eq_false_iff, Bool.or_eq_false_iff, decide_eq_false_iff_not, List.isEmpty_eq_false_iff]
  constructor
  · rintro ⟨_, hexplain, _, hlimit, instant, hinstant, _, hsingle, _, hstore, reports, hload, _, hne, hwrite⟩
    obtain rfl := Except.ok.inj hstore
    have hjson : format = .json → limit = 1 := fun h => by simpa [h] using hsingle
    refine ⟨instant, reports, ⟨fun h => by simpa [h] using hexplain, by omega, hinstant, hjson⟩, hload, hne, ?_⟩
    rw [hwritten reports hne fun h => (length_loadReports_le hload).trans (hjson h).le] at hwrite
    exact (Except.ok.inj hwrite).symm
  · rintro ⟨instant, reports, haccepted, hload, hne, rfl⟩
    refine ⟨(), ?_, (), by have := haccepted.limited; omega, instant, haccepted.parsed, (), ?_, store, rfl, reports, hload,
      (), hne, hwritten reports hne fun h => (length_loadReports_le hload).trans (haccepted.single h).le⟩
    · by_cases h : explain
      · exact .inr (by simp [haccepted.explained h])
      · exact .inl (by simpa using h)
    · by_cases h : format = .json
      · exact .inr (by simp [haccepted.single h])
      · exact .inl h

end Command

/-! ### Checks and their reports -/

/-- What is written of a report, delivery apart. -/
def Written.withoutDelivery (written : Written) : Written :=
  { written with report := written.report.withoutDelivery }

/-- What is written of the newest runs of a logbook, delivery apart. -/
def Logbook.written (kept : List LoggedRun) (format : OutputFormat) (limit : ℕ) (instant : Option Timestamp)
    (explain : Bool) : List Written :=
  ((newest instant kept).take limit).map fun run => ⟨run.stored.withoutDelivery, format, explain⟩

/-- **The reports that the command writes** are those that the checks committed. -/
theorem Logbook.reportCommand_eq_ok_iff {log kept : List LoggedRun} {store : StateStore} (h : Logbook log kept store)
    (checked : ∀ run ∈ log, run.Checked) {packages : Packages} {format : OutputFormat} {limit : ℕ}
    {since : Option String} {explain : Bool} {written : List Written} :
    (reportCommand packages (.ok store) format limit since explain).map (List.map (·.withoutDelivery)) = .ok written ↔
      ∃ instant, Accepted packages format limit since explain instant ∧
        (∀ bound ∈ instant, Timestamp.yearZero ≤ bound.nanoseconds) ∧ newest instant kept ≠ [] ∧
        written = Logbook.written kept format limit instant explain := by
  have hmapped : ∀ reports : List RunReport,
      (reports.map fun report => Written.mk report format explain).map (·.withoutDelivery) =
        (reports.map (·.withoutDelivery)).map fun report => ⟨report, format, explain⟩ := by
    intro reports
    rw [List.map_map, List.map_map]
    rfl
  have hreports : ∀ instant reports, Accepted packages format limit since explain instant →
      (∀ bound ∈ instant, Timestamp.yearZero ≤ bound.nanoseconds) → store.loadReports limit instant = .ok reports →
      reports.map (·.withoutDelivery) = ((newest instant kept).take limit).map (·.stored.withoutDelivery) := by
    intro instant reports haccepted canonical hload
    have hloaded := h.loadReports_eq checked limit canonical
    have hlimit : min limit i64Maximum.toNat = limit := by
      have hlimited := haccepted.limited
      have hmaximum : 10000 ≤ i64Maximum.toNat := by decide
      omega
    rw [hload, hlimit] at hloaded
    exact Except.ok.inj hloaded
  have hempty : ∀ instant (reports : List RunReport), Accepted packages format limit since explain instant →
      reports.map (·.withoutDelivery) = ((newest instant kept).take limit).map (·.stored.withoutDelivery) →
      (reports = [] ↔ newest instant kept = []) := by
    intro instant reports haccepted heq
    have hlength := congrArg List.length heq
    have hlimited := haccepted.limited
    rw [List.length_map, List.length_map, List.length_take] at hlength
    rw [← List.length_eq_zero_iff, ← List.length_eq_zero_iff]
    omega
  rw [Fallible.map_eq_ok_iff]
  constructor
  · rintro ⟨loaded, hcommand, rfl⟩
    obtain ⟨instant, reports, haccepted, hload, hne, rfl⟩ := Sentinel.reportCommand_eq_ok_iff.mp hcommand
    have canonical : ∀ bound ∈ instant, Timestamp.yearZero ≤ bound.nanoseconds := by
      rintro bound rfl
      rw [StateStore.loadReports, Option.mapM_some] at hload
      cases hcanonical : canonicalTimestamp bound with
      | ok canonical => exact le_of_canonicalTimestamp hcanonical
      | error error =>
        rw [hcanonical] at hload
        cases hload
    have heq := hreports instant reports haccepted canonical hload
    refine ⟨instant, haccepted, canonical, fun hnone => hne ((hempty instant reports haccepted heq).mpr hnone), ?_⟩
    rw [hmapped, heq, List.map_map]
    rfl
  · rintro ⟨instant, haccepted, canonical, hne, rfl⟩
    obtain ⟨reports, hload, -⟩ := Fallible.map_eq_ok_iff.mp (h.loadReports_eq checked limit canonical)
    have heq := hreports instant reports haccepted canonical hload
    refine ⟨_, Sentinel.reportCommand_eq_ok_iff.mpr ⟨instant, reports, haccepted, hload,
      fun hnone => hne ((hempty instant reports haccepted heq).mp hnone), rfl⟩, ?_⟩
    rw [hmapped, heq, List.map_map]
    rfl

/-- **The command writes what checks committed.** Whatever checks have run on a
database, and wherever they died, it has a logbook of their runs, in which
retention keeps every run that completed after all cutoffs. The command
succeeds if and only if its arguments are accepted and a kept run completed
since the instant they name, and then writes the newest such runs' reports as
they were committed, delivery apart, newest first. -/
theorem reports_printed {store : StateStore} (h : Operated store) :
    ∃ log kept, Logbook log kept store ∧ kept.Sublist log ∧
      (∀ run ∈ log, (∀ other ∈ log, other.cutoff ≤ run.report.completedAt) → run ∈ kept) ∧
      ∀ (packages : Packages) (format : OutputFormat) (limit : ℕ) (since : Option String) (explain : Bool)
        (written : List Written),
        (reportCommand packages (.ok store) format limit since explain).map (List.map (·.withoutDelivery)) =
            .ok written ↔
          ∃ instant, Accepted packages format limit since explain instant ∧
            (∀ bound ∈ instant, Timestamp.yearZero ≤ bound.nanoseconds) ∧ Logbook.newest instant kept ≠ [] ∧
            written = Logbook.written kept format limit instant explain := by
  obtain ⟨log, kept, hlogbook, hchecked⟩ := h.logbook
  exact ⟨log, kept, hlogbook, hlogbook.sublist, hlogbook.spared,
    fun _ _ _ _ _ _ => hlogbook.reportCommand_eq_ok_iff hchecked⟩

/-- After one check the command writes its report as JSON. -/
theorem reports_printed_first : ∃ store log kept, Operated store ∧ Logbook log kept store ∧ kept ≠ [] ∧
    (reportCommand default (.ok store) .json 1 none false).map (List.map (·.withoutDelivery)) =
      .ok (Logbook.written kept .json 1 none false) := by
  have hany : (checkWithSink (rejectedCheck "first" 0).inputs .empty).1.any (fun store =>
      (reportCommand default (.ok store) .json 1 none false).toOption.isSome) = true := by decide +kernel
  obtain ⟨store, hleft, hcommand⟩ := List.any_eq_true.mp hany
  have offsets : (rejectedCheck "first" 0).packages.CivilOffsets := fun _ _ h => nomatch h
  obtain ⟨log, kept, hlogbook, -, -, hwritten⟩ :=
    reports_printed (.check .start (rejectedCheck "first" 0) offsets (List.mem_cons_of_mem _ hleft))
  obtain ⟨written, hprinted, -⟩ := Fallible.ok_of_any (p := fun _ => true) (by rwa [Option.any_true])
  have hmapped : (reportCommand default (.ok store) .json 1 none false).map (List.map (·.withoutDelivery)) =
      .ok (written.map (·.withoutDelivery)) := by
    rw [hprinted]
    rfl
  obtain ⟨instant, haccepted, -, hne, heq⟩ := (hwritten _ _ _ _ _ _).mp hmapped
  obtain rfl : instant = none := (Option.some.inj haccepted.parsed).symm
  have hkept : kept ≠ [] := fun hnil => hne (by rw [hnil]; rfl)
  exact ⟨store, log, kept, .check .start _ offsets (List.mem_cons_of_mem _ hleft), hlogbook, hkept, heq ▸ hmapped⟩

end Sentinel

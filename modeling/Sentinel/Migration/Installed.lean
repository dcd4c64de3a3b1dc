/-
# The life of an installation

From its first file on, a disk meets processes that open the file, to migrate
it or to check, and checks that then run on its tables; each may be killed
anywhere. A released file waits, untouched, for the migration that was asked
for; it is upgraded once, and its backup stays. Whatever was found, from then
on there are only checks.

Key theorems: `BackedUp.trans`, `Lived.opens`, `Lived.process`, `Process.untouched`, `installed_once`.
-/
import Sentinel.Migration.Afterwards
import Sentinel.Migration.Lifecycle

namespace Sentinel

open Collections CrashTxn Relation

/-! ### Backups over several openings -/

section Backups

variable {disk left next : Disk}

/-- The backups of a database that stays as it is. -/
theorem BackedUp.trans (h : BackedUp disk left) (hsame : left.database = disk.database) (hnext : BackedUp left next) :
    BackedUp disk next := by
  obtain ⟨made, hbackups, hmade⟩ := h
  obtain ⟨more, hmore, hall⟩ := hnext
  refine ⟨made ++ more, ?_, fun backup hbackup => ?_⟩
  · rw [hmore, hbackups, List.append_assoc]
  · rcases List.mem_append.mp hbackup with hbackup | hbackup
    · exact hmade backup hbackup
    · rw [← hsame]
      exact hall backup hbackup

theorem BackedUp.of_eq (h : BackedUp disk left) (hsame : next.backups = left.backups) : BackedUp disk next := by
  obtain ⟨made, hbackups, hmade⟩ := h
  exact ⟨made, hsame.trans hbackups, hmade⟩

/-- No backup is made of a current database. -/
theorem BackedUp.of_current {tables : Tables Timestamp CountedUpstreamTable} (h : BackedUp disk left)
    (hcurrent : disk.database = .file (.v3 tables)) : left.backups = disk.backups := by
  obtain ⟨made, hbackups, hmade⟩ := h
  have hnone : made = [] := by
    refine List.eq_nil_iff_forall_not_mem.mpr fun backup hbackup => ?_
    obtain ⟨file, hfile, hversion, -⟩ := hmade backup hbackup
    obtain rfl := Database.file.inj (hcurrent.symm.trans hfile)
    exact hversion rfl
  rw [hbackups, hnone, List.append_nil]

end Backups

section Installed

variable (packages : Packages) (checksum : ℤ → String)

/-! ### Processes -/

/-- **What a process may leave of a disk** when it is killed. `asked` says
whether a migration was asked for; the other commands write nothing. -/
inductive Process (asked : Bool) (disk : Disk) : Disk → Prop
  /-- An opening, for the migration or for a check that does not get further. -/
  | opens (o : Opening) (appliedAt : ℤ → Timestamp) (allowMigration : Bool) (asks : allowMigration → asked)
      {left : Disk} (leaves : left ∈ crashStates (openOwned packages checksum appliedAt o allowMigration) disk) :
      Process asked disk left
  /-- A check, on the tables that it opened. -/
  | checks (o : Opening) (appliedAt : ℤ → Timestamp) (inputs : CheckInputs)
      {tables tables' : Tables Timestamp CountedUpstreamTable} {backup : Option String} {opened : Disk}
      (returns : Returns (openOwned packages checksum appliedAt o false) disk (tables, backup) opened)
      (leaves : tables'.store ∈ crashStates (checkWithSink inputs) tables.store)
      (migrations : tables'.schemaMigrations = tables.schemaMigrations) :
      Process asked disk { opened with database := .file (.v3 tables') }

/-- **The database that checks go on from**: a new one, the upgraded tables of
a released file that is in a backup, or tables that were current. -/
inductive Begins (first disk : Disk) : StateStore → Prop
  | blank (found : first.database = .unversioned 0) : Begins first disk .empty
  | upgraded {file : StateFile} {result : Tables Timestamp CountedUpstreamTable} {appliedAt : ℤ → Timestamp}
      {name : String}
      (found : first.database = .file file) (valid : file.validate checksum file.version = .ok ())
      (upgrades : migrateTransaction packages checksum appliedAt file = .ok result)
      (backup : (name, some file) ∈ disk.backups) : Begins first disk result.store
  | current {tables : Tables Timestamp CountedUpstreamTable} (found : first.database = .file (.v3 tables)) :
      Begins first disk tables.store

/-- What has become of the first database: it waits, or checks are made on
what it became. -/
inductive Lived (first disk : Disk) : Prop
  | waits (database : disk.database = first.database)
  | serves {tables : Tables Timestamp CountedUpstreamTable} {start : StateStore}
      (current : validateSchema checksum disk = .ok tables) (begins : Begins packages checksum first disk start)
      (checked : CheckedSince start tables.store)

variable {packages checksum} {asked : Bool} {first disk left : Disk}

/-! ### What processes leave -/

theorem Begins.mono {start : StateStore} (h : Begins packages checksum first disk start)
    (hbackups : left.backups = disk.backups) : Begins packages checksum first left start := by
  cases h with
  | blank found => exact .blank found
  | upgraded found valid upgrades backup => exact .upgraded found valid upgrades (hbackups ▸ backup)
  | current found => exact .current found

/-- A file that can be upgraded is a released one. -/
theorem released_of_upgrades {appliedAt : ℤ → Timestamp} {file : StateFile}
    {result : Tables Timestamp CountedUpstreamTable}
    (h : migrateTransaction packages checksum appliedAt file = .ok result) : 1 ≤ file.version ∧ file.version < 3 := by
  cases file with
  | v1 _ | v2 _ => simp [StateFile.version]
  | v3 _ => cases h

/-- The migration of a file that is valid and can be upgraded. -/
theorem migrate_of_upgrades {appliedAt : ℤ → Timestamp} {file : StateFile}
    {result : Tables Timestamp CountedUpstreamTable}
    (hvalid : file.validate checksum file.version = .ok ())
    (h : migrateTransaction packages checksum appliedAt file = .ok result) :
    migrate packages checksum appliedAt file.version file = ([.v3 result], .ok ((), .v3 result)) := by
  simp [migrate, Bind.bind, Except.bind, Pure.pure, Except.pure, CrashTxn.read, CrashTxn.commit, Except.map,
    Fallible.ensure, released_of_upgrades h, hvalid, h]

/-- What is opened is what opening leaves. -/
theorem Opens.leaves {appliedAt : ℤ → Timestamp} {o : Opening} {allowMigration : Bool}
    {tables : Tables Timestamp CountedUpstreamTable} {backup : Option String}
    (h : Opens packages checksum appliedAt o allowMigration disk tables backup left) :
    Leaves packages checksum appliedAt o allowMigration disk left := by
  cases h with
  | current => exact .kept rfl (.refl _) fun _ => rfl
  | initialized blank => exact .initialized blank rfl rfl
  | upgraded allowed valid upgraded => exact .upgraded allowed valid upgraded

/-- **An opening carries the first database on.** -/
theorem Lived.opens {appliedAt : ℤ → Timestamp} {o : Opening} {allowMigration : Bool}
    (hmade : BackedUp first disk) (h : Lived packages checksum first disk)
    (hleaves : Leaves packages checksum appliedAt o allowMigration disk left) :
    BackedUp first left ∧ Lived packages checksum first left := by
  cases h with
  | waits database =>
    cases hleaves with
    | kept same backups _ => exact ⟨hmade.trans database backups, .waits (same.trans database)⟩
    | initialized blank created backups =>
      have hcurrent := validateSchema_eq_ok_iff.mpr ⟨created, validate_initialTables _⟩
      exact ⟨hmade.of_eq backups, .serves hcurrent (.blank (database.symm.trans blank)) .start⟩
    | upgraded _ valid upgraded =>
      have hreleased := released_of_upgrades upgraded.upgrades
      have hbackedUp : BackedUp disk left := .one upgraded.found (by omega) (.inr rfl) upgraded.backups
      have hbackup : (o.backupName, some _) ∈ left.backups :=
        upgraded.backups ▸ List.mem_append_right _ List.mem_cons_self
      refine ⟨hmade.trans database hbackedUp, .serves ?_ (.upgraded ?_ valid upgraded.upgrades hbackup) .start⟩
      · exact validateSchema_eq_ok_iff.mpr ⟨upgraded.database, validate_migrateTransaction valid upgraded.upgrades⟩
      · exact database.symm.trans upgraded.found
  | serves current begins checked =>
    obtain ⟨hdatabase, hvalid⟩ := validateSchema_eq_ok_iff.mp current
    cases hleaves with
    | kept same backups _ =>
      have hsame := backups.of_current hdatabase
      have hcurrent := validateSchema_eq_ok_iff.mpr ⟨same.trans hdatabase, hvalid⟩
      exact ⟨hmade.of_eq hsame, .serves hcurrent (begins.mono hsame) checked⟩
    | initialized blank _ _ =>
      rw [blank] at hdatabase
      cases hdatabase
    | upgraded _ _ upgraded =>
      obtain rfl := Database.file.inj (hdatabase.symm.trans upgraded.found)
      cases upgraded.upgrades

/-- **Every process carries it on.** -/
theorem Lived.process (hmade : BackedUp first disk) (h : Lived packages checksum first disk)
    (hprocess : Process packages checksum asked disk left) :
    BackedUp first left ∧ Lived packages checksum first left := by
  cases hprocess with
  | opens o appliedAt allowMigration _ leaves =>
    obtain ⟨hlog, -⟩ := @spec_openOwned packages checksum appliedAt o disk allowMigration disk rfl
    rcases List.mem_cons.mp leaves with rfl | leaves
    · exact ⟨hmade, h⟩
    · exact h.opens hmade (hlog left leaves)
  | @checks o appliedAt inputs tables tables' _ opened returns leaves migrations =>
    obtain ⟨hopens, hvalid⟩ := returns.of_spec spec_openOwned rfl
    obtain ⟨hmade', hlived⟩ := h.opens hmade hopens.leaves
    obtain ⟨hopened, hrecorded⟩ := validateSchema_eq_ok_iff.mp hvalid
    have hserved : ∃ start, Begins packages checksum first opened start ∧ CheckedSince start tables.store := by
      cases hlived with
      | waits database => exact ⟨tables.store, .current (database.symm.trans hopened), .start⟩
      | serves current begins checked =>
        obtain rfl := Except.ok.inj (current.symm.trans hvalid)
        exact ⟨_, begins, checked⟩
    obtain ⟨start, hbegins, hchecked⟩ := hserved
    have hcurrent : (StateFile.v3 tables').validate checksum 3 = .ok () := by
      rw [validate_current_iff] at hrecorded ⊢
      rw [migrations]
      exact hrecorded
    exact ⟨hmade'.of_eq rfl, .serves (validateSchema_eq_ok_iff.mpr ⟨rfl, hcurrent⟩) (hbegins.mono rfl)
      (hchecked.check inputs leaves)⟩

/-- **A released file is not touched** by a process that no migration was asked of. -/
theorem Process.untouched {file : StateFile} (h : Process packages checksum false disk left)
    (hfound : disk.database = .file file) (hreleased : file.version ≠ 3) : left = disk := by
  cases h with
  | opens o appliedAt allowMigration asks leaves =>
    obtain rfl : allowMigration = false := by simpa using asks
    obtain ⟨hlog, -⟩ := @spec_openOwned packages checksum appliedAt o disk false disk rfl
    rcases List.mem_cons.mp leaves with rfl | leaves
    · rfl
    cases hlog left leaves with
    | kept _ _ untouched => exact untouched rfl
    | initialized blank _ _ =>
      rw [blank] at hfound
      cases hfound
    | upgraded allowed _ _ => cases allowed
  | checks o appliedAt inputs returns _ _ =>
    obtain ⟨hopens, -⟩ := returns.of_spec spec_openOwned rfl
    cases hopens with
    | current database =>
      obtain rfl := Database.file.inj (hfound.symm.trans database)
      exact absurd rfl hreleased
    | initialized blank =>
      rw [blank] at hfound
      cases hfound
    | upgraded allowed _ _ => cases allowed

/-- It waits through any number of them. -/
theorem untouched_of_unasked {file : StateFile} (h : ReflTransGen (Process packages checksum false) first disk)
    (hfound : first.database = .file file) (hreleased : file.version ≠ 3) : disk = first := by
  induction h with
  | refl => rfl
  | tail _ hprocess ih =>
    subst ih
    exact hprocess.untouched hfound hreleased

/-- A new file, or one of version 1, is not current. -/
theorem not_current_of_first {tables : Tables Timestamp CountedUpstreamTable}
    (hfirst : first.database = .unversioned 0 ∨ ∃ source, first.database = .file (.v1 source)) :
    first.database ≠ .file (.v3 tables) := by
  rcases hfirst with h | ⟨source, h⟩ <;> simp [h]

/-- What checks go on from is coherent, if it was new or of version 1. -/
theorem Begins.coherent {start : StateStore} (h : Begins packages checksum first disk start)
    (hfirst : first.database = .unversioned 0 ∨ ∃ source, first.database = .file (.v1 source)) : Coherent start := by
  cases h with
  | blank => exact coherent_empty
  | upgraded found valid upgrades backup =>
    rcases hfirst with hblank | ⟨source, hsource⟩
    · rw [hblank] at found
      cases found
    · obtain rfl := Database.file.inj (hsource.symm.trans found)
      exact coherent_migrated (migrate_of_upgrades valid upgrades)
  | current found => exact absurd found (not_current_of_first hfirst)

/-- **An installation is upgraded at most once.** Whatever processes have met a
disk, each killed anywhere, every complete backup that they made is of the
first file, and either that is still there, or a current file on which there
have been only checks since it was new, or upgraded with its backup kept, or
found. If it was new or of version 1 the outbox holds what the latches owe; and
a released file that nobody asked to migrate has not been touched. -/
theorem installed_once (h : ReflTransGen (Process packages checksum asked) first disk) :
    BackedUp first disk ∧ Lived packages checksum first disk ∧
    (∀ tables, validateSchema checksum disk = .ok tables →
      (first.database = .unversioned 0 ∨ ∃ source, first.database = .file (.v1 source)) → Coherent tables.store) ∧
    ∀ file, asked = false → first.database = .file file → file.version ≠ 3 → disk = first := by
  have hlived : BackedUp first disk ∧ Lived packages checksum first disk := by
    induction h with
    | refl => exact ⟨.refl first, .waits rfl⟩
    | tail _ hprocess ih => exact ih.2.process ih.1 hprocess
  refine ⟨hlived.1, hlived.2, fun tables hcurrent hfirst => ?_, fun file hasked hfound hreleased => ?_⟩
  · cases hlived.2 with
    | waits database =>
      have hfound := (validateSchema_eq_ok_iff.mp hcurrent).1
      exact absurd (database.symm.trans hfound) (not_current_of_first hfirst)
    | serves current begins checked =>
      obtain rfl := Except.ok.inj (current.symm.trans hcurrent)
      exact checked.kept kept_coherent (begins.coherent hfirst)
  · subst hasked
    exact untouched_of_unasked h hfound hreleased

end Installed

/-- An opening that meets no obstacle. -/
def plainOpening : Opening where
  parent := some true
  opens := true
  links := 1
  inUse := false
  now := second 0
  backupName := "backup"
  backupIsUtf8 := true
  creates := true
  writes := true
  permits := true

/-- The packages of the migrated file. -/
def legacyPackages : Packages := { (default : Packages) with parseTimestamp := fun _ => some (second 1) }

/-- A check that evaluates nothing. -/
def quietCheck : CheckInputs :=
  { apiCheck "first" .clear 1 with observe := fun _ _ => .ok { apiReport "first" .clear 1 with evaluations := [] } }

def newTables : Tables Timestamp CountedUpstreamTable := initialTables (fun _ => "checksum") (second 0)

/-- A new database with the run of that check. -/
def quietTables : Tables Timestamp CountedUpstreamTable :=
  { newTables with
    stateIdentity := some .live
    runs := ⟨[{
      id := "first", startedAt := second 1, completedAt := second 1, mode := .live, configSha256 := ""
      status := .complete, expectedTargets := 1, completeTargets := 1, minimumTargets := 1, exitCode := 0
      healthIssues := [], deliveryActivity := [] }], List.nodup_singleton _⟩ }

/-- A first check makes a blank file current, and a migration one of version 1. -/
theorem installed_once_first :
    (∃ disk, ReflTransGen (Process legacyPackages (fun _ => "checksum") false) ⟨.unversioned 0, []⟩ disk ∧
      validateSchema (fun _ => "checksum") disk = .ok quietTables ∧ disk.backups = [] ∧ Coherent quietTables.store) ∧
    ∃ disk tables, ReflTransGen (Process legacyPackages (fun _ => "checksum") true)
        ⟨.file (.v1 (legacyAlert "run" (some "run"))), []⟩ disk ∧
      validateSchema (fun _ => "checksum") disk = .ok tables ∧ disk.backups.map (·.1) = ["backup"] ∧
      Coherent tables.store := by
  refine ⟨?_, ?_⟩
  · have hlog : (checkWithSink quietCheck newTables.store).1.head? = some quietTables.store := rfl
    have hleft := List.mem_cons_of_mem newTables.store (List.mem_of_head? hlog)
    have hopens : Returns (openOwned legacyPackages (fun _ => "checksum") (fun _ => second 2) plainOpening false)
        ⟨.unversioned 0, []⟩ (newTables, none) ⟨.file (.v3 newTables), []⟩ := rfl
    have hprocess : Process legacyPackages (fun _ => "checksum") false ⟨.unversioned 0, []⟩
        ⟨.file (.v3 quietTables), []⟩ := .checks plainOpening (fun _ => second 2) quietCheck hopens hleft rfl
    obtain ⟨-, -, hcoherent, -⟩ := installed_once (.single hprocess)
    exact ⟨_, .single hprocess, rfl, rfl, hcoherent _ rfl (.inl rfl)⟩
  · have hany : (openOwned legacyPackages (fun _ => "checksum") (fun _ => second 2) plainOpening true
        ⟨.file (.v1 (legacyAlert "run" (some "run"))), []⟩).1.any (fun left =>
          (validateSchema (fun _ => "checksum") left).toOption.any fun _ =>
            decide (left.backups.map (·.1) = ["backup"])) = true := by
      decide +kernel
    obtain ⟨disk, hdisk, hleft⟩ := List.any_eq_true.mp hany
    obtain ⟨tables, htables, hbackups⟩ := Fallible.ok_of_any hleft
    have hprocess : Process legacyPackages (fun _ => "checksum") true
        ⟨.file (.v1 (legacyAlert "run" (some "run"))), []⟩ disk :=
      .opens plainOpening (fun _ => second 2) true (fun _ => rfl) (List.mem_cons_of_mem _ hdisk)
    obtain ⟨-, -, hcoherent, -⟩ := installed_once (.single hprocess)
    have hsent := hcoherent tables htables (.inr ⟨_, rfl⟩)
    exact ⟨disk, tables, .single hprocess, htables, of_decide_eq_true hbackups, hsent⟩

end Sentinel

/-
# Opening and migrating a state file

`open` initializes a blank file and takes one of the current version as it is;
a released file it refuses. `migrate` upgrades a released file in one
transaction, once a backup of it is complete. Killed anywhere either leaves a
file that was not changed, or one that opens as current; and no file is
upgraded without its backup.

Key theorems: `validate_migrateTransaction`, `validateSchema_eq_ok_iff`, `spec_openOwned`, `openOwned_current`,
`opening_atomic`.
-/
import Sentinel.Migration.Carried

namespace Sentinel

open Collections

/-! ### Files and openings -/

/-- What is at the path of a database. -/
inductive Database where
  /-- A file without version, blank or with tables of its own. -/
  | unversioned (tables : ℕ)
  | file (file : StateFile)
  | other (version : ℤ) (unknown : version < 0 ∨ 3 < version)

/-- `PRAGMA user_version`. -/
def Database.version : Database → ℤ
  | .unversioned _ => 0
  | .file state => state.version
  | .other version _ => version

/-- The database, and the backups beside it by name, each with what it holds
once it is written. -/
structure Disk where
  database : Database
  backups : List (String × Option StateFile)

inductive OpenError where
  | missingParent
  | parentMissing
  | alreadyInUse
  | migrationRequired (observed : ℤ)
  | unversionedState
  | permissions
  | io
  | store (error : StoreError)

/-- What opening meets outside the database. -/
structure Opening where
  /-- The path's parent, and whether it exists. -/
  parent : Option Bool
  /-- The database file and its lock file can be opened. -/
  opens : Bool
  links : ℕ
  inUse : Bool
  now : Timestamp
  backupName : String
  backupIsUtf8 : Bool
  /-- The backup file can be created. -/
  creates : Bool
  /-- The backup can be written. -/
  writes : Bool
  permits : Bool

/-- `acquire_ownership`, once the parent is there. -/
def Opening.acquire (o : Opening) : Except OpenError Unit := do
  Fallible.ensure (← Fallible.demand .missingParent o.parent) .parentMissing
  Fallible.ensure o.opens .io
  Fallible.ensure (o.links = 1) (.store (.invalidData "hard-linked state databases are unsupported"))
  Fallible.ensure (!o.inUse) .alreadyInUse

section Open

variable (packages : Packages) (checksum : ℤ → String) (appliedAt : ℤ → Timestamp)

/-- The tables of a new database, with its record of all versions. -/
def initialTables (now : Timestamp) : Tables Timestamp CountedUpstreamTable where
  schemaMigrations := ⟨[1, 2, 3].map fun version => ⟨version, migrationName version, checksum version, now⟩, by
    rw [List.map_map]
    exact (by decide : ([1, 2, 3] : List ℤ).Nodup)⟩
  stateIdentity := none
  runs := .empty
  targetObservations := .empty
  upstreamObservations := .empty
  filterObservations := .empty
  rewriteObservations := .empty
  aggregateObservations := .empty
  conditionEvaluations := .empty
  conditionState := .empty
  targetRuntimeState := .empty
  notificationOutbox := .empty
  notificationConditions := .empty
  notificationAttempts := .empty

/-- `validate_schema`: the tables of a current file. -/
def validateSchema (disk : Disk) : Except OpenError (Tables Timestamp CountedUpstreamTable) :=
  match disk.database with
  | .file (.v3 tables) => do
    ((StateFile.v3 tables).validate checksum 3).mapError .store
    return tables
  | .file file => .error (.migrationRequired file.version)
  | database => .error (.store (.unsupportedVersion database.version))

/-- `backup_before_migration`: the name of the backup. -/
def backupBeforeMigration (o : Opening) (file : StateFile) : CrashTxn Disk OpenError String := do
  CrashTxn.commit fun disk => do
    Fallible.ensure (o.creates && decide (o.backupName ∉ disk.backups.map (·.1))) .io
    return ({ disk with backups := disk.backups ++ [(o.backupName, none)] }, ())
  CrashTxn.read fun _ => Fallible.ensure o.backupIsUtf8 (.store (.invalidData "backup path is not UTF-8"))
  -- `VACUUM INTO`
  CrashTxn.commit fun disk => do
    Fallible.ensure o.writes (.store .sqlite)
    return ({ disk with backups := disk.backups.map fun backup =>
      if backup.1 = o.backupName then (backup.1, some file) else backup }, ())
  CrashTxn.read fun _ => (file.validate checksum file.version).mapError .store
  return o.backupName

/-- `migrate` on the file of the database. -/
def migrateDatabase (version : ℤ) : CrashTxn Disk OpenError Unit :=
  CrashTxn.within (fun disk => match disk.database with
      | .file file => .ok file
      | database => .error (.store (.unsupportedVersion database.version)))
    (fun disk file => { disk with database := .file file })
    (CrashTxn.mapError .store (migrate packages checksum appliedAt version))

/-- What opening does by the version it finds: the backup that it makes. -/
def bringCurrent (o : Opening) (allowMigration : Bool) : Database → CrashTxn Disk OpenError (Option String)
  | .unversioned tables => do
    CrashTxn.read fun _ => Fallible.ensure (tables = 0) .unversionedState
    CrashTxn.commit fun disk => .ok ({ disk with database := .file (.v3 (initialTables checksum o.now)) }, ())
    return none
  | .file (.v3 _) => return none
  | .file file => do
    CrashTxn.read fun _ => Fallible.ensure allowMigration (.migrationRequired file.version)
    CrashTxn.read fun _ => (file.validate checksum file.version).mapError .store
    let name ← backupBeforeMigration checksum o file
    migrateDatabase packages checksum appliedAt file.version
    return some name
  | .other version _ => CrashTxn.read fun _ => .error (.store (.unsupportedVersion version))

/-- `open_owned`: the tables, and the backup that was made. -/
def openOwned (o : Opening) (allowMigration : Bool) :
    CrashTxn Disk OpenError (Tables Timestamp CountedUpstreamTable × Option String) := do
  CrashTxn.read fun _ => o.acquire
  let database ← CrashTxn.read fun disk => .ok disk.database
  let backup ← bringCurrent packages checksum appliedAt o allowMigration database
  let tables ← CrashTxn.read (validateSchema checksum)
  CrashTxn.read fun _ => Fallible.ensure o.permits .permissions
  return (tables, backup)

/-- `open_existing`, which only reads. -/
def openExisting (isFile : Bool) (disk : Disk) : Except OpenError (Tables Timestamp CountedUpstreamTable) := do
  Fallible.ensure isFile (.store (.invalidData "state database does not exist"))
  validateSchema checksum disk

end Open

/-! ### The record of the migrations -/

section Record

variable {packages : Packages} {checksum : ℤ → String} {appliedAt : ℤ → Timestamp} {τ υ : Type}

/-- A migration is recorded with the digest of its schema. -/
def RecordedIn (checksum : ℤ → String) (migrations : Table (@MigrationRow.version τ)) (version : ℤ) : Prop :=
  ∃ row ∈ migrations.rows, row.version = version ∧ row.checksum = checksum version

theorem recorded_iff {migrations : Table (@MigrationRow.version τ)} {version : ℤ} :
    (migrations.find? version).map (·.checksum) = some (checksum version) ↔ RecordedIn checksum migrations version := by
  rw [Option.map_eq_some_iff]
  refine exists_congr fun row => ?_
  rw [Table.find?_eq_some_iff, and_assoc]

/-- **A file is valid** just if its version is the expected one and every
migration up to it is recorded. -/
theorem validate_eq_ok_iff {expected : ℤ} {file : StateFile} :
    file.validate checksum expected = .ok () ↔ file.version = expected ∧
      ∀ index < expected.toNat, file.recordedChecksum (index + 1 : ℤ) = some (checksum (index + 1)) := by
  simp only [StateFile.validate, Fallible.bind_eq_ok_iff, Fallible.ensure_eq_ok_iff, decide_eq_true_eq]
  rw [List.forM_eq_forM, Fallible.forM_eq_ok_iff]
  simp only [Fallible.ensure_eq_ok_iff, decide_eq_true_eq, List.mem_range]
  exact exists_const Unit

theorem validate_current_iff {tables : Tables Timestamp CountedUpstreamTable} :
    (StateFile.v3 tables).validate checksum 3 = .ok () ↔ ∀ version ∈ [1, 2, 3],
      RecordedIn checksum tables.schemaMigrations version := by
  rw [validate_eq_ok_iff]
  simp only [StateFile.recordedChecksum, recorded_iff]
  constructor
  · rintro ⟨-, hall⟩ version hversion
    simp only [List.mem_cons, List.not_mem_nil, or_false] at hversion
    rcases hversion with rfl | rfl | rfl
    · exact hall 0 (by decide)
    · exact hall 1 (by decide)
    · exact hall 2 (by decide)
  · intro hall
    refine ⟨rfl, fun index hindex => hall _ ?_⟩
    have hindex : index < 3 := hindex
    simp only [List.mem_cons, List.not_mem_nil, or_false]
    omega

/-- Recording a migration keeps those that were recorded. -/
theorem rows_recordMigration {version : ℤ} {tables tables' : Tables Timestamp υ}
    (h : tables.recordMigration checksum appliedAt version = .ok tables') :
    tables'.schemaMigrations.rows = tables.schemaMigrations.rows ++
      [⟨version, migrationName version, checksum version, appliedAt version⟩] := by
  simp only [Tables.recordMigration, Fallible.bind_eq_ok_iff, constraint_eq_ok_iff] at h
  obtain ⟨_, -, migrations, hmigrations, h⟩ := h
  obtain rfl := Except.ok.inj h
  exact (Table.insert?_eq_some_iff.mp hmigrations).2

theorem recordedIn_recordMigration {version : ℤ} {tables tables' : Tables Timestamp υ}
    (h : tables.recordMigration checksum appliedAt version = .ok tables') :
    RecordedIn checksum tables'.schemaMigrations version ∧ ∀ earlier,
      RecordedIn checksum tables.schemaMigrations earlier → RecordedIn checksum tables'.schemaMigrations earlier := by
  have hrows := rows_recordMigration h
  refine ⟨⟨_, hrows ▸ List.mem_append_right _ List.mem_cons_self, rfl, rfl⟩, ?_⟩
  rintro earlier ⟨row, hrow, hversion, hchecksum⟩
  exact ⟨row, hrows ▸ List.mem_append_left _ hrow, hversion, hchecksum⟩

/-- **A migration to version 2 records it**, and keeps what was recorded. -/
theorem recordedIn_migrateToV2 {source : LegacyTables CountedUpstreamTable}
    {result : Tables Timestamp CountedUpstreamTable} (h : source.migrateToV2 packages checksum appliedAt = .ok result) :
    RecordedIn checksum result.schemaMigrations 2 ∧ ∀ earlier,
      RecordedIn checksum source.schemaMigrations earlier → RecordedIn checksum result.schemaMigrations earlier := by
  simp only [LegacyTables.migrateToV2, Fallible.bind_eq_ok_iff] at h
  obtain ⟨identity, -, rebuilt, hrebuild, respelled, hrespell, settled, hhistory, healthy, hhealth, hrecord⟩ := h
  obtain ⟨hnew, hearlier⟩ := recordedIn_recordMigration hrecord
  refine ⟨hnew, fun earlier hsource => hearlier earlier ?_⟩
  obtain ⟨runs, rfl, -⟩ := runs_migrateHealth hhealth
  have hframe := (Tables.reattributed_migrateNotificationHistory hhistory).frame
  have hsettled : settled.schemaMigrations = respelled.schemaMigrations := by
    rw [hframe]
    rfl
  have hrebuilt : rebuilt.schemaMigrations = source.schemaMigrations := by
    simp only [LegacyTables.rebuild, Fallible.bind_eq_ok_iff] at hrebuild
    obtain ⟨_, -, _, -, _, -, _, -, _, -, _, -, _, -, _, -, _, -, hrebuild⟩ := hrebuild
    obtain rfl := Except.ok.inj hrebuild
    rfl
  simp only [Tables.normalizeTimestamps, Fallible.bind_eq_ok_iff] at hrespell
  obtain ⟨_, -, _, -, _, -, _, -, migrations, hmigrations, hrespell⟩ := hrespell
  obtain rfl := Except.ok.inj hrespell
  show RecordedIn checksum settled.schemaMigrations earlier
  rw [hsettled]
  obtain ⟨row, hrow, hversion, hchecksum⟩ := hsource
  rw [← hrebuilt] at hrow
  obtain ⟨row', hrow', hrespelled⟩ := Fallible.exists_of_forall₂_left (carryRows_eq_ok hmigrations) row hrow
  simp only [MigrationRow.respell, Fallible.bind_eq_ok_iff] at hrespelled
  obtain ⟨instant, -, hrespelled⟩ := hrespelled
  obtain rfl := Except.ok.inj hrespelled
  exact ⟨_, hrow', hversion, hchecksum⟩

/-- **A migrated file is valid as current.** -/
theorem validate_migrateTransaction {file : StateFile} {result : Tables Timestamp CountedUpstreamTable}
    (hvalid : file.validate checksum file.version = .ok ())
    (h : migrateTransaction packages checksum appliedAt file = .ok result) :
    (StateFile.v3 result).validate checksum 3 = .ok () := by
  obtain ⟨-, hrecorded⟩ := validate_eq_ok_iff.mp hvalid
  have hfinish : ∀ {tables : Tables Timestamp CountedUpstreamTable},
      tables.finishMigration checksum appliedAt = .ok result →
      RecordedIn checksum tables.schemaMigrations 1 → RecordedIn checksum tables.schemaMigrations 2 →
      (StateFile.v3 result).validate checksum 3 = .ok () := by
    intro tables hfinish hfirst hsecond
    simp only [Tables.finishMigration, Fallible.bind_eq_ok_iff] at hfinish
    obtain ⟨recorded, hrecord, _, -, hfinish⟩ := hfinish
    obtain rfl := Except.ok.inj hfinish
    obtain ⟨hthird, hearlier⟩ := recordedIn_recordMigration hrecord
    rw [validate_current_iff]
    intro version hversion
    simp only [List.mem_cons, List.not_mem_nil, or_false] at hversion
    rcases hversion with rfl | rfl | rfl
    · exact hearlier 1 hfirst
    · exact hearlier 2 hsecond
    · exact hthird
  cases file with
  | v1 source =>
    simp only [migrateTransaction, Fallible.bind_eq_ok_iff] at h
    obtain ⟨upstreams, -, tables, hmigrate, h⟩ := h
    obtain ⟨hsecond, hearlier⟩ := recordedIn_migrateToV2 hmigrate
    have hone : 0 < (StateFile.v1 source).version.toNat := Nat.one_pos
    exact hfinish h (hearlier 1 (recorded_iff.mp (hrecorded 0 hone))) hsecond
  | v2 source =>
    simp only [migrateTransaction, Fallible.bind_eq_ok_iff] at h
    obtain ⟨upstreams, -, h⟩ := h
    have htwo : 1 < (StateFile.v2 source).version.toNat := Nat.one_lt_two
    exact hfinish h (recorded_iff.mp (hrecorded 0 (Nat.lt_of_succ_lt htwo))) (recorded_iff.mp (hrecorded 1 htwo))
  | v3 tables => cases h

/-- A new database is valid, and holds nothing. -/
theorem validate_initialTables (now : Timestamp) :
    (StateFile.v3 (initialTables checksum now)).validate checksum 3 = .ok () := by
  rw [validate_current_iff]
  intro version hversion
  exact ⟨_, List.mem_map_of_mem hversion, rfl, rfl⟩

theorem store_initialTables (now : Timestamp) : (initialTables checksum now).store = .empty := rfl

/-- **What opens as current** is a current file that is valid. -/
theorem validateSchema_eq_ok_iff {disk : Disk} {tables : Tables Timestamp CountedUpstreamTable} :
    validateSchema checksum disk = .ok tables ↔
      disk.database = .file (.v3 tables) ∧ (StateFile.v3 tables).validate checksum 3 = .ok () := by
  have hcurrent : ∀ found, disk.database = .file (.v3 found) → (validateSchema checksum disk = .ok tables ↔
      found = tables ∧ (StateFile.v3 found).validate checksum 3 = .ok ()) := by
    intro found h
    simp only [validateSchema, h, Fallible.bind_eq_ok_iff, Fallible.mapError_eq_ok_iff]
    constructor
    · rintro ⟨_, hvalid, hsame⟩
      exact ⟨Except.ok.inj hsame, hvalid⟩
    · rintro ⟨rfl, hvalid⟩
      exact ⟨(), hvalid, rfl⟩
  cases h : disk.database with
  | file file =>
    cases file with
    | v3 found =>
      rw [hcurrent found h, Database.file.injEq, StateFile.v3.injEq]
      refine and_congr_right fun hsame => ?_
      rw [hsame]
    | v1 _ | v2 _ => simp [validateSchema, h]
  | unversioned _ | other _ _ => simp [validateSchema, h]

end Record

/-! ### What opening leaves -/

section Leaves

variable (packages : Packages) (checksum : ℤ → String) (appliedAt : ℤ → Timestamp)

/-- The file with its backup, as an upgrade of it leaves them. -/
structure Upgraded (o : Opening) (disk : Disk) (file : StateFile) (result : Tables Timestamp CountedUpstreamTable)
    (left : Disk) : Prop where
  found : disk.database = .file file
  upgrades : migrateTransaction packages checksum appliedAt file = .ok result
  database : left.database = .file (.v3 result)
  backups : left.backups = disk.backups ++ [(o.backupName, some file)]

/-- Backups were made beside a database, all of it as it was, and none if it
was current. -/
def BackedUp (disk left : Disk) : Prop :=
  ∃ made, left.backups = disk.backups ++ made ∧ ∀ backup ∈ made, ∃ file, disk.database = .file file ∧
    file.version ≠ 3 ∧ (backup.2 = none ∨ backup.2 = some file)

/-- **What opening may leave** when it is killed: the database as it was, a new
one, or an upgraded one with its backup. -/
inductive Leaves (o : Opening) (allowMigration : Bool) (disk : Disk) : Disk → Prop
  | kept {left : Disk} (database : left.database = disk.database) (backups : BackedUp disk left)
      (untouched : allowMigration = false → left = disk) : Leaves o allowMigration disk left
  | initialized {left : Disk} (blank : disk.database = .unversioned 0)
      (database : left.database = .file (.v3 (initialTables checksum o.now))) (backups : left.backups = disk.backups) :
    Leaves o allowMigration disk left
  | upgraded {left : Disk} {file : StateFile} {result : Tables Timestamp CountedUpstreamTable}
      (allowed : allowMigration) (valid : file.validate checksum file.version = .ok ())
      (upgraded : Upgraded packages checksum appliedAt o disk file result left) : Leaves o allowMigration disk left

/-- **What opening returns**: the tables of a current file, of a new one or of
an upgraded one, with the name of the backup if one was made. -/
inductive Opens (o : Opening) (allowMigration : Bool) (disk : Disk) :
    Tables Timestamp CountedUpstreamTable → Option String → Disk → Prop
  | current {tables : Tables Timestamp CountedUpstreamTable} (database : disk.database = .file (.v3 tables)) :
    Opens o allowMigration disk tables none disk
  | initialized (blank : disk.database = .unversioned 0) :
      Opens o allowMigration disk (initialTables checksum o.now) none
      { disk with database := .file (.v3 (initialTables checksum o.now)) }
  | upgraded {left : Disk} {file : StateFile} {tables : Tables Timestamp CountedUpstreamTable}
      (allowed : allowMigration) (valid : file.validate checksum file.version = .ok ())
      (upgraded : Upgraded packages checksum appliedAt o disk file tables left) :
      Opens o allowMigration disk tables (some o.backupName) left

variable {packages checksum appliedAt} {o : Opening} {disk : Disk}

theorem BackedUp.refl (disk : Disk) : BackedUp disk disk := ⟨[], (List.append_nil _).symm, nofun⟩

theorem BackedUp.one {file : StateFile} {name : String} {held : Option StateFile} {left : Disk}
    (found : disk.database = .file file) (released : file.version ≠ 3) (hheld : held = none ∨ held = some file)
    (h : left.backups = disk.backups ++ [(name, held)]) : BackedUp disk left := by
  refine ⟨_, h, fun backup hbackup => ⟨file, found, released, ?_⟩⟩
  rw [List.mem_singleton.mp hbackup]
  exact hheld

/-- **A backup is complete before it is relied on**, and the database is as it was. -/
theorem spec_backup {file : StateFile} (found : disk.database = .file file) (released : file.version ≠ 3) :
    CrashTxn.Spec (fun left => left.database = disk.database ∧ BackedUp disk left) (fun left => left = disk)
      (backupBeforeMigration checksum o file) fun name left => name = o.backupName ∧
        left = { disk with backups := disk.backups ++ [(o.backupName, some file)] } := by
  unfold backupBeforeMigration
  have hcreate : CrashTxn.Spec (fun left => left.database = disk.database ∧ BackedUp disk left)
      (fun left => left = disk) (CrashTxn.commit fun disk : Disk => do
        Fallible.ensure (o.creates && decide (o.backupName ∉ disk.backups.map (·.1))) OpenError.io
        return ({ disk with backups := disk.backups ++ [(o.backupName, none)] }, ()))
      fun _ left => o.backupName ∉ disk.backups.map (·.1) ∧
        left = { disk with backups := disk.backups ++ [(o.backupName, none)] } := by
    refine .commit fun now left _ hnow h => ?_
    subst hnow
    simp only [Fallible.bind_eq_ok_iff, Fallible.ensure_eq_ok_iff, Bool.and_eq_true, decide_eq_true_eq] at h
    obtain ⟨_, ⟨-, hnew⟩, h⟩ := h
    obtain ⟨rfl, -⟩ := Prod.mk.inj (Except.ok.inj h)
    exact ⟨⟨rfl, .one found released (.inl rfl) rfl⟩, hnew, rfl⟩
  refine .bind hcreate fun _ => .bind .reads fun _ => ?_
  refine .bind (.commit (Q := fun _ left => left = { disk with backups := disk.backups ++ [(o.backupName, some file)] })
    fun now left _ hnow h => ?_) fun _ => .bind .reads fun _ => .pure fun left hleft => ⟨rfl, hleft⟩
  obtain ⟨hnew, rfl⟩ := hnow
  simp only [Fallible.bind_eq_ok_iff, Fallible.ensure_eq_ok_iff] at h
  obtain ⟨_, -, h⟩ := h
  obtain ⟨rfl, -⟩ := Prod.mk.inj (Except.ok.inj h)
  have hold : (disk.backups.map fun backup : String × Option StateFile =>
      if backup.1 = o.backupName then (backup.1, some file) else backup) = disk.backups := by
    refine (List.map_congr_left fun backup hbackup => if_neg fun he => ?_).trans (List.map_id _)
    exact hnew (he ▸ List.mem_map_of_mem hbackup)
  have hbackups : ((disk.backups ++ [(o.backupName, none)]).map fun backup : String × Option StateFile =>
      if backup.1 = o.backupName then (backup.1, some file) else backup) =
      disk.backups ++ [(o.backupName, some file)] := by
    rw [List.map_append, List.map_singleton, if_pos rfl, hold]
  rw [hbackups]
  exact ⟨⟨rfl, .one found released (.inr rfl) rfl⟩, rfl⟩

/-- **An upgrade is one step.** -/
theorem spec_migrateDatabase {file : StateFile} (hfound : disk.database = .file file) :
    CrashTxn.Spec (fun left => ∃ result, Upgraded packages checksum appliedAt o disk file result left)
      (fun left => left = { disk with backups := disk.backups ++ [(o.backupName, some file)] })
      (migrateDatabase packages checksum appliedAt file.version) fun _ left =>
        ∃ result, Upgraded packages checksum appliedAt o disk file result left := by
  unfold migrateDatabase
  refine .within fun now found hnow hpart => ?_
  subst hnow
  obtain rfl : file = found := by
    rw [hfound] at hpart
    exact Except.ok.inj hpart
  rw [CrashTxn.log_mapError]
  rcases migrate_cases packages checksum appliedAt file.version file with ⟨error, herror⟩ | ⟨result, hresult, hupgrades⟩
  · refine ⟨fun left hleft => ?_, fun _ left hleft => ?_⟩
    · rw [herror] at hleft
      cases hleft
    · simp only [CrashTxn.mapError, herror] at hleft
      cases hleft
  · have hupgraded : Upgraded packages checksum appliedAt o disk file result
        { disk with database := .file (.v3 result), backups := disk.backups ++ [(o.backupName, some file)] } :=
      ⟨hfound, hupgrades, rfl, rfl⟩
    refine ⟨fun left hleft => ?_, fun _ left hleft => ?_⟩
    · rw [hresult] at hleft
      obtain rfl := List.mem_singleton.mp hleft
      exact ⟨result, hupgraded⟩
    · simp only [CrashTxn.mapError, hresult] at hleft
      obtain ⟨-, rfl⟩ := Prod.mk.inj (Except.ok.inj hleft)
      exact ⟨result, hupgraded⟩

/-- What opening leaves of a database by its version, and what it has done if it goes on. -/
theorem spec_bringCurrent {allowMigration : Bool} :
    CrashTxn.Spec (Leaves packages checksum appliedAt o allowMigration disk) (fun left => left = disk)
      (bringCurrent packages checksum appliedAt o allowMigration disk.database) fun backup left =>
        ∃ tables, Opens packages checksum appliedAt o allowMigration disk tables backup left := by
  have hreleased : ∀ file, disk.database = .file file → file.version ≠ 3 → CrashTxn.Spec
      (Leaves packages checksum appliedAt o allowMigration disk) (fun left => left = disk) (do
        CrashTxn.read fun _ => Fallible.ensure allowMigration (OpenError.migrationRequired file.version)
        CrashTxn.read fun _ => (file.validate checksum file.version).mapError OpenError.store
        let name ← backupBeforeMigration checksum o file
        migrateDatabase packages checksum appliedAt file.version
        return some name) fun backup left =>
        ∃ tables, Opens packages checksum appliedAt o allowMigration disk tables backup left := by
    intro file hfound hversion
    refine .bind (.read (Q := fun _ left => left = disk ∧ allowMigration = true) fun now _ hnow h => ?_) fun _ => .assuming
      fun hallowed => .bind (.read (Q := fun _ left => left = disk ∧ file.validate checksum file.version = .ok ())
        fun now _ hnow h => ?_) fun _ => .assuming fun hvalid => ?_
    · exact ⟨hnow, by simpa using h⟩
    · exact ⟨hnow, Fallible.mapError_eq_ok_iff.mp h⟩
    have hbackup : ∀ left : Disk, left.database = disk.database ∧ BackedUp disk left →
        Leaves packages checksum appliedAt o allowMigration disk left :=
      fun left hleft => .kept hleft.1 hleft.2 fun hrefused => absurd (hrefused.symm.trans hallowed) Bool.false_ne_true
    refine .bind ((spec_backup hfound hversion).mono hbackup) fun name => ?_
    have hrest : name = o.backupName → CrashTxn.Spec (Leaves packages checksum appliedAt o allowMigration disk)
        (fun left => left = { disk with backups := disk.backups ++ [(o.backupName, some file)] }) (do
          migrateDatabase packages checksum appliedAt file.version
          return some name) fun backup left =>
        ∃ tables, Opens packages checksum appliedAt o allowMigration disk tables backup left := by
      rintro rfl
      exact .bind (.mono (spec_migrateDatabase hfound) fun left ⟨_, hleft⟩ => .upgraded hallowed hvalid hleft) fun _ =>
        .pure fun left ⟨result, hleft⟩ => ⟨result, .upgraded hallowed hvalid hleft⟩
    exact .weaken (.assuming hrest) (fun _ hleft => ⟨hleft.2, hleft.1⟩) fun _ _ hleft => hleft
  cases hfound : disk.database with
  | unversioned tables =>
    refine .bind (.read (Q := fun _ left => left = disk ∧ tables = 0) fun now _ hnow h => ?_) fun _ => ?_
    · exact ⟨hnow, by simpa using h⟩
    refine .bind (.commit (Q := fun _ left => left = { disk with database := .file (.v3 (initialTables checksum o.now)) } ∧
      tables = 0) fun now left _ hnow h => ?_) fun _ => .pure fun left hleft => ?_
    · obtain ⟨rfl, hblank⟩ := hnow
      obtain ⟨rfl, -⟩ := Prod.mk.inj (Except.ok.inj h)
      exact ⟨.initialized (hblank ▸ hfound) rfl rfl, rfl, hblank⟩
    · obtain ⟨rfl, hblank⟩ := hleft
      exact ⟨_, .initialized (hblank ▸ hfound)⟩
  | file file =>
    cases file with
    | v3 tables =>
      refine .pure fun left hleft => ⟨tables, ?_⟩
      rw [hleft]
      exact .current hfound
    | v1 tables | v2 tables => exact hreleased _ hfound (by simp [StateFile.version])
  | other version unknown =>
    refine .read fun now _ _ h => ?_
    cases h

/-- **What opening does**, wherever it is killed. -/
theorem spec_openOwned {allowMigration : Bool} :
    CrashTxn.Spec (Leaves packages checksum appliedAt o allowMigration disk) (fun left => left = disk)
      (openOwned packages checksum appliedAt o allowMigration) fun opened left =>
        Opens packages checksum appliedAt o allowMigration disk opened.1 opened.2 left ∧
          validateSchema checksum left = .ok opened.1 := by
  unfold openOwned
  refine .bind .reads fun _ => ?_
  refine .bind (.read (Q := fun database left => left = disk ∧ database = disk.database) fun now _ hnow h => ?_)
    fun database => ?_
  · exact ⟨hnow, hnow ▸ (Except.ok.inj h).symm⟩
  refine .assuming fun hdatabase => ?_
  subst hdatabase
  refine .bind spec_bringCurrent fun backup => ?_
  refine .bind (.read (Q := fun tables left => Opens packages checksum appliedAt o allowMigration disk tables backup left ∧
    validateSchema checksum left = .ok tables) fun left tables hleft h => ?_) fun tables => .bind .reads fun _ =>
      .pure fun left hleft => hleft
  obtain ⟨opened, hopened⟩ := hleft
  have hcurrent := (validateSchema_eq_ok_iff.mp h).1
  have hsame : ∀ {tables' : Tables Timestamp CountedUpstreamTable},
      left.database = .file (.v3 tables') → tables = tables' :=
    fun h' => StateFile.v3.inj (Database.file.inj (hcurrent.symm.trans h'))
  have htables : tables = opened := by
    cases hopened with
    | current database => exact hsame database
    | initialized => exact hsame rfl
    | upgraded _ _ upgraded => exact hsame upgraded.database
  exact ⟨htables ▸ hopened, h⟩

/-- A file that opening changed opens as current. -/
theorem Leaves.current {allowMigration : Bool} {left : Disk}
    (h : Leaves packages checksum appliedAt o allowMigration disk left) :
    left.database = disk.database ∨ ∃ tables, validateSchema checksum left = .ok tables := by
  cases h with
  | kept database => exact .inl database
  | initialized _ database => exact .inr ⟨_, validateSchema_eq_ok_iff.mpr ⟨database, validate_initialTables _⟩⟩
  | upgraded _ valid upgraded =>
    exact .inr ⟨_, validateSchema_eq_ok_iff.mpr
      ⟨upgraded.database, validate_migrateTransaction valid upgraded.upgrades⟩⟩

/-- **A current file opens as it is**, without a backup. -/
theorem openOwned_current {tables : Tables Timestamp CountedUpstreamTable} {allowMigration : Bool}
    (h : validateSchema checksum disk = .ok tables) (hacquires : o.acquire = .ok ()) (hpermits : o.permits) :
    openOwned packages checksum appliedAt o allowMigration disk = ([], .ok ((tables, none), disk)) := by
  have hdatabase := (validateSchema_eq_ok_iff.mp h).1
  unfold openOwned
  simp only [Bind.bind, Pure.pure, CrashTxn.read, hacquires, hdatabase, bringCurrent, h, hpermits, Fallible.ensure,
    Except.map, if_true, List.append_nil]

/-- **Opening is all or nothing.** Killed anywhere it leaves the database as it
was, untouched if no migration was asked for; or a new database, or an upgraded
one with a backup of what it was, which open as current. What it returns is
what is on the disk and what a reader finds, a new database is empty, and from
then on opening changes nothing and makes no backup. -/
theorem opening_atomic (packages : Packages) (checksum : ℤ → String) (appliedAt : ℤ → Timestamp) (o : Opening)
    (allowMigration : Bool) (disk : Disk) :
    (∀ left ∈ CrashTxn.crashStates (openOwned packages checksum appliedAt o allowMigration) disk,
      Leaves packages checksum appliedAt o allowMigration disk left ∧
        (left.database = disk.database ∨ ∃ tables, validateSchema checksum left = .ok tables)) ∧
    ∀ tables backup left,
      CrashTxn.Returns (openOwned packages checksum appliedAt o allowMigration) disk (tables, backup) left →
      Opens packages checksum appliedAt o allowMigration disk tables backup left ∧
      openExisting checksum true left = .ok tables ∧ (disk.database = .unversioned 0 → tables.store = .empty) ∧
      ∀ (o' : Opening) (allowMigration' : Bool), o'.acquire = .ok () → o'.permits →
        openOwned packages checksum appliedAt o' allowMigration' left = ([], .ok ((tables, none), left)) := by
  obtain ⟨hlog, hreturns⟩ := @spec_openOwned packages checksum appliedAt o disk allowMigration disk rfl
  refine ⟨fun left hleft => ?_, fun tables backup left hleft => ?_⟩
  · have hleaves : Leaves packages checksum appliedAt o allowMigration disk left := by
      rcases List.mem_cons.mp hleft with rfl | hleft
      · exact .kept rfl (.refl _) fun _ => rfl
      · exact hlog left hleft
    exact ⟨hleaves, hleaves.current⟩
  · obtain ⟨hopens, hvalid⟩ := hreturns (tables, backup) left hleft
    refine ⟨hopens, hvalid, fun hblank => ?_, fun o' allowMigration' => openOwned_current hvalid⟩
    cases hopens with
    | current database =>
      rw [hblank] at database
      cases database
    | initialized => exact store_initialTables _
    | upgraded _ _ upgraded =>
      have hfound := upgraded.found
      rw [hblank] at hfound
      cases hfound

end Leaves

end Sentinel

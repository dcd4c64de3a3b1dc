/-
# Loading a configuration

A configuration is a file of a bounded size, decoded and validated. The command
that only validates looks at the files of its secrets too; a check does not,
but reads the passwords before it opens the database and the provider's secrets
before it sends. What the one accepts the other can work with, as long as the
files hold more than line ends.

Key theorems: `Config.wellFormed_true_iff`, `exists_readTargetPasswords_iff`, `preflight_exact`.
-/
import Sentinel.Cli.Check
import Sentinel.Notify.Pushover

namespace Sentinel

open Fallible

def maxConfigBytes : ℕ := 1048576

inductive ConfigError where
  | inspect (path source : String)
  | tooLarge (path : String) (size maximum : ℕ)
  | read (path source : String)
  | decode (source : String)
  /-- The text of `Config.validate`. -/
  | validation (text : String)

/-- The text of an error with its source. -/
def ConfigError.text : ConfigError → String
  | inspect path source => s!"cannot inspect configuration {path}: {source}"
  | tooLarge path size maximum => s!"configuration {path} is {size} bytes; maximum is {maximum}"
  | read path source => s!"cannot read configuration {path}: {source}"
  | decode source => s!"configuration is not valid TOML: {source}"
  | validation text => text

/-- The TOML decoder of a configuration. -/
abbrev ConfigDecoder := String → Except String Config

section Load

variable (packages : Packages) (contents : Contents) (decode : ConfigDecoder) (path : String)

/-- `load`. -/
def Config.load (checkSecretFiles : Bool) : Except ConfigError Config := do
  let (_, length) ← (packages.metadata path).mapError (.inspect path)
  ensure (length ≤ maxConfigBytes) (.tooLarge path length maxConfigBytes)
  let text ← (contents path).mapError (.read path)
  let config ← (decode text).mapError .decode
  (config.validate packages checkSecretFiles).mapError .validation
  return config

/-- The `validate-config` command. -/
def validateConfig : Except CommandError UInt8 := do
  let _ ← (Config.load packages contents decode path true).mapError fun error => .invocation error.text
  return 0

/-- `check_with_sink`, before it opens the database. -/
def configure : Except CommandError (Config × Passwords) := do
  let config ← (Config.load packages contents decode path false).mapError fun error => .invocation error.text
  let passwords ← (readTargetPasswords packages contents config).mapError .invocation
  return (config, passwords)

end Load

/-! ### The files of the secrets -/

/-- The files of a target's secrets. -/
def TargetConfig.secretFiles (target : TargetConfig) : List String :=
  match target.auth with
  | .none => []
  | .basic => target.passwordFile.toList

def PushoverConfig.secretFiles (pushover : PushoverConfig) : List String :=
  [pushover.applicationTokenFile, pushover.userKeyFile]

/-- The files that a check reads secrets from. -/
def Config.secretFiles (config : Config) : List String :=
  config.targets.flatMap (·.secretFiles) ++ config.notifications.pushover.toList.flatMap (·.secretFiles)

/-- The file holds more than line ends. -/
def HoldsText (contents : Contents) (path : String) : Prop := ∃ text, contents path = .ok text ∧ trimLineEnds text ≠ ""

section Secrets

variable {packages : Packages} {contents : Contents}

theorem exists_loadSecret_iff {errors : SecretErrors} {path : String} :
    (∃ secret, loadSecret packages contents errors path = .ok secret) ↔
      packages.HasSecret path ∧ HoldsText contents path := by
  simp only [loadSecret_eq_ok_iff, HoldsText]
  constructor
  · rintro ⟨_, hsecret, text, hread, rfl, hnonempty⟩
    exact ⟨hsecret, text, hread, hnonempty⟩
  · rintro ⟨hsecret, text, hread, hnonempty⟩
    exact ⟨_, hsecret, text, hread, rfl, hnonempty⟩

theorem exists_readPassword_iff {target : TargetConfig} {path : String} :
    (∃ password, readPassword packages contents target path = .ok password) ↔
      packages.HasSecret path ∧ HoldsText contents path := exists_loadSecret_iff

theorem exists_readSecret_iff {path : String} :
    (∃ secret, readSecret packages contents path = .ok secret) ↔ packages.HasSecret path ∧ HoldsText contents path :=
  exists_loadSecret_iff

theorem TargetConfig.authenticates_true_iff {target : TargetConfig} :
    target.Authenticates packages true ↔
      target.Authenticates packages false ∧ ∀ file ∈ target.secretFiles, packages.HasSecret file := by
  constructor
  · intro h
    cases h with
    | anonymous auth username file =>
      refine ⟨.anonymous auth username file, ?_⟩
      simp [secretFiles, auth]
    | basic auth named nonempty filed absolute secret =>
      refine ⟨.basic auth named nonempty filed absolute nofun, ?_⟩
      simpa [secretFiles, auth, filed] using secret
  · rintro ⟨h, hfiles⟩
    cases h with
    | anonymous auth username file => exact .anonymous auth username file
    | basic auth named nonempty filed absolute _ =>
      refine .basic auth named nonempty filed absolute fun _ => hfiles _ ?_
      simp [secretFiles, auth, filed]

theorem NotificationConfig.wellFormed_true_iff {notifications : NotificationConfig} :
    notifications.WellFormed packages true ↔ notifications.WellFormed packages false ∧
      ∀ file ∈ notifications.pushover.toList.flatMap (·.secretFiles), packages.HasSecret file := by
  constructor
  · intro h
    cases h with
    | disabled provider absent =>
      refine ⟨.disabled provider absent, ?_⟩
      simp [absent]
    | pushover provider present token user secrets =>
      refine ⟨.pushover provider present token user nofun, ?_⟩
      simpa [present, PushoverConfig.secretFiles] using secrets
  · rintro ⟨h, hfiles⟩
    cases h with
    | disabled provider absent => exact .disabled provider absent
    | pushover provider present token user _ =>
      refine .pushover provider present token user fun _ => ?_
      simpa [present, PushoverConfig.secretFiles] using hfiles

/-- **What looking at the files adds** to a well-formed configuration. -/
theorem Config.wellFormed_true_iff {config : Config} :
    config.WellFormed packages true ↔
      config.WellFormed packages false ∧ ∀ file ∈ config.secretFiles, packages.HasSecret file := by
  simp only [secretFiles, List.mem_append, or_imp, forall_and]
  constructor
  · intro h
    obtain ⟨hnotifications, hpushover⟩ := NotificationConfig.wellFormed_true_iff.mp h.notifications
    have htargets := fun target ht => TargetConfig.authenticates_true_iff.mp (h.targets target ht).credentials
    refine ⟨{ h with
      targets := fun target ht => { h.targets target ht with credentials := (htargets target ht).1 }
      notifications := hnotifications }, fun file hfile => ?_, hpushover⟩
    obtain ⟨target, ht, hfile⟩ := List.mem_flatMap.mp hfile
    exact (htargets target ht).2 file hfile
  · rintro ⟨h, hpasswords, hpushover⟩
    refine { h with
      targets := fun target ht => { h.targets target ht with
        credentials := TargetConfig.authenticates_true_iff.mpr
          ⟨(h.targets target ht).credentials, fun file hfile => ?_⟩ }
      notifications := NotificationConfig.wellFormed_true_iff.mpr ⟨h.notifications, hpushover⟩ }
    exact hpasswords file (List.mem_flatMap.mpr ⟨target, ht, hfile⟩)

/-! ### What is read of them -/

theorem exists_readTargetPassword_iff (passwords : Passwords) (target : TargetConfig) :
    (∃ passwords', readTargetPassword packages contents passwords target = .ok passwords') ↔
      (target.auth = .basic → target.passwordFile.isSome) ∧
        ∀ file ∈ target.secretFiles, packages.HasSecret file ∧ HoldsText contents file := by
  unfold readTargetPassword TargetConfig.secretFiles
  cases target.auth with
  | none => simp [pure, Except.pure]
  | basic =>
    cases target.passwordFile with
    | none => simp [demand, bind, Except.bind]
    | some file =>
      simp only [demand_eq_ok_iff, bind_eq_ok_iff, Option.isSome_some, Option.toList_some, List.mem_singleton,
        forall_eq, implies_true, true_and, ← @exists_readPassword_iff packages contents target]
      constructor
      · rintro ⟨_, _, hfile, password, hread, -⟩
        obtain rfl := Option.some.inj hfile
        exact ⟨password, hread⟩
      · rintro ⟨password, hread⟩
        exact ⟨_, file, rfl, password, hread, rfl⟩

theorem exists_readTargetPasswords_iff {config : Config} :
    (∃ passwords, readTargetPasswords packages contents config = .ok passwords) ↔ ∀ target ∈ config.targets,
      (target.auth = .basic → target.passwordFile.isSome) ∧
        ∀ file ∈ target.secretFiles, packages.HasSecret file ∧ HoldsText contents file :=
  exists_foldlM_eq_ok_iff exists_readTargetPassword_iff

theorem exists_fromConfig_iff {config : Config} :
    (∃ client, PushoverClient.fromConfig packages contents config = .ok client) ↔
      ∃ pushover, config.notifications.pushover = some pushover ∧
        ∀ file ∈ pushover.secretFiles, packages.HasSecret file ∧ HoldsText contents file := by
  simp only [PushoverClient.fromConfig, PushoverClient.build, bind_eq_ok_iff, demand_eq_ok_iff, mapError_eq_ok_iff,
    PushoverConfig.secretFiles, List.forall_mem_cons, List.not_mem_nil, forall_false, implies_true, and_true,
    ← exists_readSecret_iff]
  constructor
  · rintro ⟨_, pushover, hpushover, token, htoken, user, huser, -⟩
    exact ⟨pushover, hpushover, ⟨token, htoken⟩, user, huser⟩
  · rintro ⟨pushover, hpushover, ⟨token, htoken⟩, user, huser⟩
    exact ⟨_, pushover, hpushover, token, htoken, user, huser, rfl⟩

/-! ### The two commands -/

variable {decode : ConfigDecoder} {path : String} {config : Config}

/-- The file is small enough, and is read as the configuration. -/
structure Loads (packages : Packages) (contents : Contents) (decode : ConfigDecoder) (path : String) (config : Config) :
    Prop where
  bounded : ∃ isFile length, packages.metadata path = .ok (isFile, length) ∧ length ≤ maxConfigBytes
  decoded : ∃ text, contents path = .ok text ∧ decode text = .ok config

theorem load_eq_ok_iff {checkSecretFiles : Bool} :
    Config.load packages contents decode path checkSecretFiles = .ok config ↔
      Loads packages contents decode path config ∧ config.WellFormed packages checkSecretFiles := by
  simp only [Config.load, bind_eq_ok_iff, mapError_eq_ok_iff, ensure_eq_ok_iff, decide_eq_true_eq, Prod.exists]
  have hvalid := @validate_ok_iff packages config checkSecretFiles |>.trans validationErrors_eq_nil_iff
  constructor
  · rintro ⟨isFile, length, hmetadata, _, hlength, text, hread, found, hdecode, _, hwellFormed, h⟩
    obtain rfl := Except.ok.inj h
    exact ⟨⟨⟨isFile, length, hmetadata, hlength⟩, text, hread, hdecode⟩, hvalid.mp hwellFormed⟩
  · rintro ⟨⟨⟨isFile, length, hmetadata, hlength⟩, text, hread, hdecode⟩, hwellFormed⟩
    exact ⟨isFile, length, hmetadata, (), hlength, text, hread, config, hdecode, (), hvalid.mpr hwellFormed, rfl⟩

/-- **What the one command accepts is what the other adds**: the secrets' files. -/
theorem validateConfig_eq_ok_iff : validateConfig packages contents decode path = .ok 0 ↔
    ∃ config, Config.load packages contents decode path false = .ok config ∧
      ∀ file ∈ config.secretFiles, packages.HasSecret file := by
  simp only [validateConfig, bind_eq_ok_iff, mapError_eq_ok_iff, load_eq_ok_iff, Config.wellFormed_true_iff]
  constructor
  · rintro ⟨config, ⟨hloads, hwellFormed, hsecrets⟩, -⟩
    exact ⟨config, ⟨hloads, hwellFormed⟩, hsecrets⟩
  · rintro ⟨config, ⟨hloads, hwellFormed⟩, hsecrets⟩
    exact ⟨config, ⟨hloads, hwellFormed, hsecrets⟩, rfl⟩

theorem exists_configure_iff : (∃ passwords, configure packages contents decode path = .ok (config, passwords)) ↔
    Config.load packages contents decode path false = .ok config ∧
      ∃ passwords, readTargetPasswords packages contents config = .ok passwords := by
  simp only [configure, bind_eq_ok_iff, mapError_eq_ok_iff]
  constructor
  · rintro ⟨passwords, found, hload, read, hread, h⟩
    obtain ⟨rfl, rfl⟩ := Prod.mk.inj (Except.ok.inj h)
    exact ⟨hload, read, hread⟩
  · rintro ⟨hload, passwords, hread⟩
    exact ⟨passwords, config, hload, passwords, hread, rfl⟩

/-- A well-formed target that authenticates names its file. -/
theorem TargetConfig.Authenticates.filed {checkSecretFiles : Bool} {target : TargetConfig}
    (h : target.Authenticates packages checkSecretFiles) (hauth : target.auth = .basic) :
    target.passwordFile.isSome := by
  cases h with
  | anonymous auth _ _ =>
    rw [auth] at hauth
    cases hauth
  | basic _ _ _ filed _ _ => exact filed ▸ rfl

/-- The secrets of a well-formed configuration can be read just if each of
their files holds one. -/
theorem secrets_read_iff (hwellFormed : config.WellFormed packages false) :
    (∀ file ∈ config.secretFiles, packages.HasSecret file ∧ HoldsText contents file) ↔
      (∃ passwords, readTargetPasswords packages contents config = .ok passwords) ∧
        (config.notifications.provider = .pushover →
          ∃ client, PushoverClient.fromConfig packages contents config = .ok client) := by
  rw [exists_readTargetPasswords_iff, exists_fromConfig_iff]
  simp only [Config.secretFiles, List.forall_mem_append]
  refine and_congr ?_ ?_
  · simp only [List.forall_mem_flatMap]
    exact forall₂_congr fun target ht => (and_iff_right (hwellFormed.targets target ht).credentials.filed).symm
  · cases hwellFormed.notifications with
    | disabled provider absent => simp [absent, provider]
    | pushover provider present _ _ _ => simp [present, provider]

/-- **Validating a configuration tells what a check can do with it.** It is
accepted, and the files of its secrets hold more than line ends, just if a
check gets its configuration and its passwords, and the provider's client where
there is a provider. -/
theorem preflight_exact (packages : Packages) (contents : Contents) (decode : ConfigDecoder) (path : String) :
    (validateConfig packages contents decode path = .ok 0 ∧
      ∀ config, Config.load packages contents decode path false = .ok config →
        ∀ file ∈ config.secretFiles, HoldsText contents file) ↔
      ∃ config passwords, configure packages contents decode path = .ok (config, passwords) ∧
        (config.notifications.provider = .pushover →
          ∃ client, PushoverClient.fromConfig packages contents config = .ok client) := by
  rw [validateConfig_eq_ok_iff]
  constructor
  · rintro ⟨⟨config, hload, hsecrets⟩, htexts⟩
    have hwellFormed := (load_eq_ok_iff.mp hload).2
    obtain ⟨hpasswords, hclient⟩ := (secrets_read_iff hwellFormed).mp fun file hfile =>
      ⟨hsecrets file hfile, htexts config hload file hfile⟩
    obtain ⟨passwords, hconfigure⟩ := exists_configure_iff.mpr ⟨hload, hpasswords⟩
    exact ⟨config, passwords, hconfigure, hclient⟩
  · rintro ⟨config, passwords, hconfigure, hclient⟩
    obtain ⟨hload, hpasswords⟩ := exists_configure_iff.mp ⟨passwords, hconfigure⟩
    have hwellFormed := (load_eq_ok_iff.mp hload).2
    have hfiles := (secrets_read_iff hwellFormed).mpr ⟨hpasswords, hclient⟩
    refine ⟨⟨config, hload, fun file hfile => (hfiles file hfile).1⟩, fun other hother => ?_⟩
    obtain rfl := Except.ok.inj (hload.symm.trans hother)
    exact fun file hfile => (hfiles file hfile).2

end Secrets

end Sentinel

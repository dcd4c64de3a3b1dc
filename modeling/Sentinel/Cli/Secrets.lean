/-
# Secrets in files

The passwords of the targets, and the secrets of the notification provider,
are read from files: a regular file that is not empty, its text less the line
ends it closes with. Every target that authenticates gets what its own file
holds, and the others get nothing.

Key theorems: `loadSecret_eq_ok_iff`, `passwords_of_read`.
-/
import Sentinel.Core.WellFormed
import Sentinel.Lib.Fallible
import Mathlib.Logic.Function.Basic

namespace Sentinel

open Fallible

/-- `trim_end_matches(['\r', '\n'])`. -/
def trimLineEnds (text : String) : String := Text.trimEnd (fun c => c = '\r' || c = '\n') text

/-- How the failures of reading a secret are reported. -/
structure SecretErrors where
  inspect : String → String
  irregular : String
  read : String → String
  empty : String

/-- The text of every file, or the error of reading it. -/
abbrev Contents := String → Except String String

section Read

variable (packages : Packages) (contents : Contents)

def loadSecret (errors : SecretErrors) (path : String) : Except String String := do
  let (isFile, length) ← (packages.metadata path).mapError errors.inspect
  ensure (isFile && length ≠ 0) errors.irregular
  let text ← (contents path).mapError errors.read
  ensure (trimLineEnds text ≠ "") errors.empty
  return trimLineEnds text

/-- `read_secret`. -/
def readSecret : String → Except String String :=
  loadSecret packages contents
    { inspect := id
      irregular := "secret path is not a nonempty regular file"
      read := id
      empty := "secret file is empty" }

/-- The password of a target. -/
def readPassword (target : TargetConfig) : String → Except String String :=
  loadSecret packages contents
    { inspect := fun error => s!"cannot inspect password file for target {target.id}: {error}"
      irregular := s!"password file for target {target.id} is not a nonempty regular file"
      read := fun error => s!"cannot read password file for target {target.id}: {error}"
      empty := s!"password file for target {target.id} is empty" }

/-- The passwords, by the ids of the targets. -/
abbrev Passwords := String → Option String

/-- One target of `read_target_passwords`. -/
def readTargetPassword (passwords : Passwords) (target : TargetConfig) : Except String Passwords :=
  match target.auth with
  | .none => return passwords
  | .basic => do
    let file ← demand s!"target {target.id} has no password file" target.passwordFile
    let password ← readPassword packages contents target file
    return Function.update passwords target.id (some password)

def readTargetPasswords (config : Config) : Except String Passwords :=
  config.targets.foldlM (readTargetPassword packages contents) fun _ => none

variable {packages contents}

/-- **A secret is read** just from a file that holds one. -/
theorem loadSecret_eq_ok_iff {errors : SecretErrors} {path secret : String} :
    loadSecret packages contents errors path = .ok secret ↔
      packages.HasSecret path ∧ ∃ text, contents path = .ok text ∧ trimLineEnds text = secret ∧ secret ≠ "" := by
  simp only [loadSecret, Packages.HasSecret, bind_eq_ok_iff, mapError_eq_ok_iff, ensure_eq_ok_iff, Bool.and_eq_true,
    decide_eq_true_eq, Prod.exists]
  constructor
  · rintro ⟨isFile, length, hmetadata, _, ⟨rfl, hlength⟩, text, hread, _, hnonempty, h⟩
    obtain rfl := Except.ok.inj h
    exact ⟨⟨length, hmetadata, Nat.pos_of_ne_zero hlength⟩, text, hread, rfl, hnonempty⟩
  · rintro ⟨⟨length, hmetadata, hlength⟩, text, hread, rfl, hnonempty⟩
    exact ⟨true, length, hmetadata, (), ⟨rfl, Nat.ne_of_gt hlength⟩, text, hread, (), hnonempty, rfl⟩

/-- What a target authenticates with. -/
inductive TargetConfig.Authenticated (packages : Packages) (contents : Contents) (target : TargetConfig) :
    Option String → Prop
  | anonymous (auth : target.auth = .none) : Authenticated packages contents target none
  | basic {file text : String} (auth : target.auth = .basic) (filed : target.passwordFile = some file)
      (secret : packages.HasSecret file) (read : contents file = .ok text) (nonempty : trimLineEnds text ≠ "") :
      Authenticated packages contents target (some (trimLineEnds text))

theorem readTargetPassword_eq_ok {target : TargetConfig} {passwords passwords' : Passwords}
    (h : readTargetPassword packages contents passwords target = .ok passwords') :
    (target.auth = .none ∧ passwords' = passwords) ∨
      ∃ password, target.Authenticated packages contents (some password) ∧
        passwords' = Function.update passwords target.id (some password) := by
  unfold readTargetPassword at h
  cases hauth : target.auth with
  | none =>
    simp only [hauth] at h
    exact .inl ⟨rfl, (Except.ok.inj h).symm⟩
  | basic =>
    simp only [hauth, bind_eq_ok_iff, demand_eq_ok_iff, readPassword, loadSecret_eq_ok_iff] at h
    obtain ⟨file, hfiled, _, ⟨hsecret, text, hread, rfl, hnonempty⟩, h⟩ := h
    exact .inr ⟨_, .basic hauth hfiled hsecret hread hnonempty, (Except.ok.inj h).symm⟩

/-- What has been read belongs to the targets so far. -/
def Passwords.ReadOf (packages : Packages) (contents : Contents) (targets : List TargetConfig) (passwords : Passwords) : Prop :=
  (targets.map (·.id)).Nodup → (∀ target ∈ targets, target.Authenticated packages contents (passwords target.id)) ∧
    ∀ id, id ∉ targets.map (·.id) → passwords id = none

/-- One more target is read. -/
theorem Passwords.ReadOf.step {done : List TargetConfig} {target : TargetConfig} {passwords passwords' : Passwords}
    (h : passwords.ReadOf packages contents done)
    (hread : readTargetPassword packages contents passwords target = .ok passwords') :
    passwords'.ReadOf packages contents (done ++ [target]) := by
  intro hdistinct
  rw [List.map_append, List.nodup_append] at hdistinct
  obtain ⟨hdone, -, hnew⟩ := hdistinct
  obtain ⟨hall, hothers⟩ := h hdone
  have hfresh : target.id ∉ done.map (·.id) := fun hmem => hnew _ hmem _ (by simp) rfl
  have houtside : ∀ id, id ∉ (done ++ [target]).map (·.id) → id ∉ done.map (·.id) ∧ id ≠ target.id := by
    intro id hid
    rw [List.map_append, List.mem_append, not_or] at hid
    exact ⟨hid.1, by simpa using hid.2⟩
  rcases readTargetPassword_eq_ok hread with ⟨hauth, rfl⟩ | ⟨password, hauthenticated, rfl⟩
  · refine ⟨fun other hother => ?_, fun id hid => hothers id (houtside id hid).1⟩
    rw [List.mem_append, List.mem_singleton] at hother
    rcases hother with hother | rfl
    · exact hall other hother
    · rw [hothers _ hfresh]
      exact .anonymous hauth
  · refine ⟨fun other hother => ?_, fun id hid => ?_⟩
    · rw [List.mem_append, List.mem_singleton] at hother
      rcases hother with hother | rfl
      · have hne : other.id ≠ target.id := fun hsame => hfresh (hsame ▸ List.mem_map_of_mem hother)
        rw [Function.update_of_ne hne]
        exact hall other hother
      · rw [Function.update_self]
        exact hauthenticated
    · rw [Function.update_of_ne (houtside id hid).2]
      exact hothers id (houtside id hid).1

/-- **Every target gets what its own file holds**, when the targets have ids of
their own. -/
theorem passwords_of_read {config : Config} {passwords : Passwords}
    (h : readTargetPasswords packages contents config = .ok passwords) (distinct : (config.targets.map (·.id)).Nodup) :
    ∀ target ∈ config.targets, target.Authenticated packages contents (passwords target.id) := by
  have hread : passwords.ReadOf packages contents ([] ++ config.targets) :=
    foldlM_ok (I := fun done passwords => passwords.ReadOf packages contents done)
      (fun done target passwords passwords' => Passwords.ReadOf.step) (fun _ => ⟨nofun, fun _ _ => rfl⟩) h
  exact (hread distinct).1

end Read

end Sentinel

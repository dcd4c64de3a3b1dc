/-
# Required rewrites

A policy's rewrites are normalized once, and a resolver's twice: when its
answer is read and when it is evaluated. The normal forms are not fixed
points: white space before a trailing dot is left by the first
normalization and trimmed by the second. So a rewrite is found by the pair
it has after both, while its entry is the one with that pair after the first.

Key theorems: `reported_iff_settlesAt`, `rewriteClear_iff`, `spaced_rewrite_missing`.
-/
import Sentinel.Adguard.Normalize

namespace Sentinel

open Collections

/-- The pair an observed rewrite is evaluated by. -/
def RewriteObservation.again (rewrite : RewriteObservation) : String × String :=
  (normalizeDnsName rewrite.domain, normalizeRewriteAnswer rewrite.answer)

theorem currentRewrite_eq (report : TargetReport) (required : RequiredRewrite) :
    currentRewrite report required = findLast (·.again = required.key) report.rewrites := rfl

/-- The outcome of each required rewrite, in the policy's order. -/
def rewriteOutcomes (packages : Packages) (target : TargetConfig) (policy : PolicyConfig) (profile : ConditionProfile)
    (report : TargetReport) : List (RequiredRewrite × EvaluationOutcome) :=
  policy.rewrites.required.zip
    (((evaluateRewrites packages target policy profile report).filter (·.kind = "required_rewrite")).map (·.outcome))

theorem rewriteOutcomes_eq (packages : Packages) (target : TargetConfig) (policy : PolicyConfig)
    (profile : ConditionProfile) (report : TargetReport) :
    rewriteOutcomes packages target policy profile report =
      policy.rewrites.required.map fun required => (required, (rewriteVerdict target report required).outcome) := by
  have houtcomes : ((evaluateRewrites packages target policy profile report).filter
      (·.kind = "required_rewrite")).map (·.outcome) =
        policy.rewrites.required.map fun required => (rewriteVerdict target report required).outcome := by
    have hrequired : ∀ f : RequiredRewrite → ConditionEvaluation, (∀ required, (f required).kind = "required_rewrite") →
        (policy.rewrites.required.map f).filter (·.kind = "required_rewrite") = policy.rewrites.required.map f := by
      intro f hf
      rw [List.filter_eq_self]
      intro evaluation hmem
      obtain ⟨required, -, rfl⟩ := List.mem_map.mp hmem
      exact decide_eq_true (hf required)
    unfold evaluateRewrites
    rw [List.filter_append, hrequired _ fun _ => rfl, List.map_append, List.map_map]
    cases policy.rewrites.enabled <;> rfl
  have hzip := List.zip_map' (f := id) (g := fun required => (rewriteVerdict target report required).outcome)
    (l := policy.rewrites.required)
  rw [rewriteOutcomes, houtcomes]
  rwa [List.map_id] at hzip

theorem mem_rewriteOutcomes_iff {packages : Packages} {target : TargetConfig} {policy : PolicyConfig}
    {profile : ConditionProfile} {report : TargetReport} {required : RequiredRewrite} {outcome : EvaluationOutcome}
    (h : required ∈ policy.rewrites.required) :
    (required, outcome) ∈ rewriteOutcomes packages target policy profile report ↔
      (rewriteVerdict target report required).outcome = outcome := by
  rw [rewriteOutcomes_eq, List.mem_map]
  constructor
  · rintro ⟨_, -, heq⟩
    obtain ⟨rfl, houtcome⟩ := Prod.mk.inj heq
    exact houtcome
  · intro houtcome
    exact ⟨required, h, by rw [houtcome]⟩

theorem rewriteVerdict_clear_iff {target : TargetConfig} {report : TargetReport} {required : RequiredRewrite} :
    (rewriteVerdict target report required).outcome = .clear ↔
      (∃ current, currentRewrite report required = some current ∧ current.enabled = required.enabled) ∧
        (required.enabled → report.rewritesEnabled = some true) := by
  unfold rewriteVerdict
  cases hcurrent : currentRewrite report required with
  | none => simp [Verdict.active]
  | some current =>
    by_cases hflag : current.enabled = required.enabled
    · by_cases hswitch : required.enabled ∧ report.rewritesEnabled ≠ some true
      · simp [hflag, hswitch, Verdict.active]
      · simp only [Option.all_some, hflag, ne_eq, not_true_eq_false, decide_false, Bool.false_eq_true, if_false]
        rw [if_neg hswitch]
        have henabled : required.enabled → report.rewritesEnabled = some true := fun henabled =>
          of_not_not fun hoff => hswitch ⟨henabled, hoff⟩
        exact iff_of_true rfl ⟨⟨current, rfl, hflag⟩, henabled⟩
    · simp [hflag, Verdict.active]

/-! ### Spellings and flags -/

/-- The same spellings with other flags. -/
def RewriteResponse.flagged (flag : RewriteResponse → Bool) (rewrite : RewriteResponse) : RewriteResponse :=
  { rewrite with enabled := flag rewrite }

section Flagged

variable (flag : RewriteResponse → Bool) (rewrite : RewriteResponse)

@[simp] theorem flagged_key : (rewrite.flagged flag).normal.key = rewrite.normal.key := by
  simp only [RewriteResponse.flagged, RewriteResponse.normal, RewriteObservation.key]

@[simp] theorem flagged_again : (rewrite.flagged flag).normal.again = rewrite.normal.again := by
  simp only [RewriteResponse.flagged, RewriteResponse.normal, RewriteObservation.again]

@[simp] theorem flagged_enabled : (rewrite.flagged flag).normal.enabled = flag rewrite := by
  simp only [RewriteResponse.flagged, RewriteResponse.normal]

end Flagged

/-- The list shows the rewrite: an entry's pair is its key, and the flag is the
required one. -/
def Listed (rewrites : List RewriteResponse) (required : RequiredRewrite) : Prop :=
  ∃ rewrite ∈ rewrites, rewrite.normal.key = required.key ∧ rewrite.enabled = required.enabled

/-- What the outcome of a required rewrite must say of the list and the switch. -/
def Reported (rewrites : List RewriteResponse) (switch : Bool) (required : RequiredRewrite) (clear : Prop) : Prop :=
  (Listed rewrites required → switch → clear) ∧
    (clear → Listed rewrites required ∧ (required.enabled → switch))

/-- What a second normalization makes of the entries: an entry of the pair
keeps it, and another entry that gets it comes before such an entry. -/
structure Settles (rewrites : List RewriteResponse) (key : String × String) : Prop where
  kept : ∀ rewrite ∈ rewrites, rewrite.normal.key = key → rewrite.normal.again = key
  before : ∀ rewrite ∈ rewrites, rewrite.normal.again = key → rewrite.normal.key ≠ key →
    toLex rewrite.normal.key < toLex key ∧ ∃ listed ∈ rewrites, listed.normal.key = key

/-- The entry a key is looked up by: the last of those that get it when they are
normalized again. -/
structure Decides (rewrites : List RewriteResponse) (key : String × String) (rewrite : RewriteResponse) : Prop where
  mem : rewrite ∈ rewrites
  again : rewrite.normal.again = key
  last : ∀ other ∈ rewrites, other.normal.again = key →
    other.normal.key = rewrite.normal.key ∨ toLex other.normal.key < toLex rewrite.normal.key

/-- One list settles with the flags it has, under one position of the switch:
with the switch on, a listed rewrite's flag is that of the entry that decides;
and a required flag of the entry that decides is that of a listed rewrite, if
the switch is where the policy requires it. -/
structure SettlesAt (rewrites : List RewriteResponse) (switch : Bool) (required : RequiredRewrite) : Prop where
  found : switch → Listed rewrites required →
    ∃ rewrite, Decides rewrites required.key rewrite ∧ rewrite.enabled = required.enabled
  listed : (required.enabled → switch) → ∀ rewrite, Decides rewrites required.key rewrite →
    rewrite.enabled = required.enabled → Listed rewrites required

section Report

variable {rewrites : List RewriteResponse} {flag : RewriteResponse → Bool} {report : TargetReport}

/-- An observed rewrite is an entry in normal form. -/
theorem mem_rewrites_iff (h : normalizeRewrites (rewrites.map (·.flagged flag)) = .ok report.rewrites)
    {observation : RewriteObservation} :
    observation ∈ report.rewrites ↔ ∃ rewrite ∈ rewrites, (rewrite.flagged flag).normal = observation := by
  obtain ⟨-, -, hreport⟩ := normalizeRewrites_eq_ok_iff.mp h
  rw [← hreport, mem_orderBy]
  simp only [List.mem_map, exists_exists_and_eq_and]

/-- The entry that is found is the one that decides. -/
theorem currentRewrite_eq_some (h : normalizeRewrites (rewrites.map (·.flagged flag)) = .ok report.rewrites)
    {required : RequiredRewrite} {current : RewriteObservation} (hcurrent : currentRewrite report required = some current) :
    ∃ rewrite, Decides rewrites required.key rewrite ∧ (rewrite.flagged flag).normal = current := by
  obtain ⟨-, hdistinct, hreport⟩ := normalizeRewrites_eq_ok_iff.mp h
  have hkeys : (((rewrites.map (·.flagged flag)).map RewriteResponse.normal).map fun entry => toLex entry.key).Nodup := by
    have hlex := hdistinct.map toLex.injective
    rw [List.map_map] at hlex ⊢
    exact hlex
  have hsorted := pairwise_lt_orderBy hkeys
  rw [hreport] at hsorted
  obtain ⟨hmem, hkey, hlast⟩ := findLast_eq_some hsorted ((currentRewrite_eq report required).symm.trans hcurrent)
  obtain ⟨rewrite, hrewrite, rfl⟩ := (mem_rewrites_iff h).mp hmem
  have hkey := of_decide_eq_true hkey
  rw [flagged_again] at hkey
  refine ⟨rewrite, ⟨hrewrite, hkey, fun other hother hagain => ?_⟩, rfl⟩
  have hobserved := (mem_rewrites_iff h).mpr ⟨other, hother, rfl⟩
  rcases hlast _ hobserved (decide_eq_true (by rw [flagged_again, hagain])) with hsame | hlt
  · have hkeys := congrArg RewriteObservation.key hsame
    rw [flagged_key, flagged_key] at hkeys
    exact .inl hkeys
  · rw [flagged_key, flagged_key] at hlt
    exact .inr hlt

theorem currentRewrite_isSome_iff (h : normalizeRewrites (rewrites.map (·.flagged flag)) = .ok report.rewrites)
    {required : RequiredRewrite} :
    (∃ current, currentRewrite report required = some current) ↔
      ∃ rewrite ∈ rewrites, rewrite.normal.again = required.key := by
  rw [← Option.isSome_iff_exists, currentRewrite_eq, findLast_isSome_iff]
  constructor
  · rintro ⟨observation, hmem, hagain⟩
    obtain ⟨rewrite, hrewrite, rfl⟩ := (mem_rewrites_iff h).mp hmem
    have hagain := of_decide_eq_true hagain
    rw [flagged_again] at hagain
    exact ⟨rewrite, hrewrite, hagain⟩
  · rintro ⟨rewrite, hrewrite, hagain⟩
    exact ⟨_, (mem_rewrites_iff h).mpr ⟨rewrite, hrewrite, rfl⟩, decide_eq_true (by rw [flagged_again, hagain])⟩

end Report

/-! ### Required rewrites are reported -/

section Clear

variable {packages : Packages} {target : TargetConfig} {policy : PolicyConfig} {profile : ConditionProfile}
  {required : RequiredRewrite} {rewrites : List RewriteResponse}

/-- Two entries of one pair are one entry. -/
theorem eq_of_normal_key_eq {observations : List RewriteObservation} (h : normalizeRewrites rewrites = .ok observations)
    {a b : RewriteResponse} (ha : a ∈ rewrites) (hb : b ∈ rewrites) (hkey : a.normal.key = b.normal.key) : a = b :=
  List.inj_on_of_nodup_map (normalizeRewrites_eq_ok_iff.mp h).2.1 ha hb hkey

section Settled

variable {observations : List RewriteObservation} {flag : RewriteResponse → Bool} {report : TargetReport}

/-- If the second normalization settles, only an entry of the key is found. -/
theorem currentRewrite_of_settles (h : Settles rewrites required.key)
    (hreport : normalizeRewrites (rewrites.map (·.flagged flag)) = .ok report.rewrites) {current : RewriteObservation}
    (hcurrent : currentRewrite report required = some current) :
    ∃ rewrite ∈ rewrites, (rewrite.flagged flag).normal = current ∧ rewrite.normal.key = required.key := by
  obtain ⟨rewrite, hdecides, rfl⟩ := currentRewrite_eq_some hreport hcurrent
  refine ⟨rewrite, hdecides.mem, rfl, ?_⟩
  by_contra hne
  obtain ⟨hbefore, listed, hlisted, hsame⟩ := h.before rewrite hdecides.mem hdecides.again hne
  rcases hdecides.last listed hlisted (h.kept listed hlisted hsame) with heq | hlt
  · exact hne (heq.symm.trans hsame)
  · rw [hsame] at hlt
    exact lt_asymm hbefore hlt

theorem found_iff_listed (haccepted : normalizeRewrites rewrites = .ok observations) (h : Settles rewrites required.key)
    (hreport : normalizeRewrites (rewrites.map (·.flagged flag)) = .ok report.rewrites) :
    (∃ current, currentRewrite report required = some current ∧ current.enabled = required.enabled) ↔
      Listed (rewrites.map (·.flagged flag)) required := by
  constructor
  · rintro ⟨current, hcurrent, hflag⟩
    obtain ⟨rewrite, hrewrite, rfl, hkey⟩ := currentRewrite_of_settles h hreport hcurrent
    exact ⟨rewrite.flagged flag, List.mem_map_of_mem hrewrite, by rw [flagged_key, hkey], hflag⟩
  · rintro ⟨_, hmem, hkey, hflag⟩
    obtain ⟨rewrite, hrewrite, rfl⟩ := List.mem_map.mp hmem
    rw [flagged_key] at hkey
    obtain ⟨current, hcurrent⟩ :=
      (currentRewrite_isSome_iff hreport).mpr ⟨rewrite, hrewrite, h.kept rewrite hrewrite hkey⟩
    refine ⟨current, hcurrent, ?_⟩
    obtain ⟨found, hfound, rfl, hsame⟩ := currentRewrite_of_settles h hreport hcurrent
    rw [eq_of_normal_key_eq haccepted hfound hrewrite (hsame.trans hkey.symm)]
    exact hflag

/-- A complete report of these rewrites, with the global switch on. -/
def rewritesReport (observations : List RewriteObservation) : TargetReport :=
  { TargetReport.incomplete "home" "Home" .complete "" "" with
    complete := true
    rewritesEnabled := some true
    rewrites := observations
    errorKind := none
    errorDetail := none }

/-- Flags do not decide whether a list is accepted. -/
theorem normalizeRewrites_flagged (haccepted : normalizeRewrites rewrites = .ok observations)
    (flag : RewriteResponse → Bool) :
    ∃ observations, normalizeRewrites (rewrites.map (·.flagged flag)) = .ok (rewritesReport observations).rewrites := by
  obtain ⟨hnonempty, hdistinct, -⟩ := normalizeRewrites_eq_ok_iff.mp haccepted
  refine ⟨orderBy (fun entry => toLex entry.key) ((rewrites.map (·.flagged flag)).map RewriteResponse.normal),
    normalizeRewrites_eq_ok_iff.mpr ⟨fun rewrite hmem => ?_, ?_, rfl⟩⟩
  · obtain ⟨rewrite, hrewrite, rfl⟩ := List.mem_map.mp hmem
    exact hnonempty rewrite hrewrite
  · rw [List.map_map]
    convert hdistinct using 2
    funext rewrite
    exact flagged_key flag rewrite

end Settled

/-- Every flagging of the list finds the required flag where it is listed. -/
def Agrees (rewrites : List RewriteResponse) (required : RequiredRewrite) : Prop :=
  ∀ (flag : RewriteResponse → Bool) (observations : List RewriteObservation),
    normalizeRewrites (rewrites.map (·.flagged flag)) = .ok (rewritesReport observations).rewrites →
    ((∃ current, currentRewrite (rewritesReport observations) required = some current ∧
        current.enabled = required.enabled) ↔ Listed (rewrites.map (·.flagged flag)) required)

/-- The entry of the key is found, in some order of the list after which the
others of the key come. -/
theorem last_of_agrees {observations : List RewriteObservation} (haccepted : normalizeRewrites rewrites = .ok observations)
    (h : Agrees rewrites required) {listed : RewriteResponse} (hlisted : listed ∈ rewrites)
    (hkey : listed.normal.key = required.key) :
    listed.normal.again = required.key ∧ ∀ rewrite ∈ rewrites, rewrite.normal.again = required.key →
      rewrite.normal.key = required.key ∨ toLex rewrite.normal.key < toLex required.key := by
  -- only the listed entry has the required flag
  set flag : RewriteResponse → Bool := fun rewrite => if rewrite = listed then required.enabled else !required.enabled with hflag
  obtain ⟨flagged, hflagged⟩ := normalizeRewrites_flagged haccepted flag
  have hfound := (h flag flagged hflagged).mpr
    ⟨listed.flagged flag, List.mem_map_of_mem hlisted, by rw [flagged_key, hkey], by
      show flag listed = required.enabled
      rw [hflag]
      exact if_pos rfl⟩
  obtain ⟨current, hcurrent, hcurrentFlag⟩ := hfound
  obtain ⟨rewrite, hdecides, rfl⟩ := currentRewrite_eq_some hflagged hcurrent
  have hsame : rewrite = listed := by
    by_contra hne
    rw [flagged_enabled, hflag] at hcurrentFlag
    simp [hne] at hcurrentFlag
  rw [hsame] at hdecides
  refine ⟨hdecides.again, fun other hother hotherAgain => ?_⟩
  have horder := hdecides.last other hother hotherAgain
  rwa [hkey] at horder

theorem settles_of_agrees {observations : List RewriteObservation}
    (haccepted : normalizeRewrites rewrites = .ok observations) (h : Agrees rewrites required) :
    Settles rewrites required.key where
  kept rewrite hrewrite hkey := (last_of_agrees haccepted h hrewrite hkey).1
  before rewrite hrewrite hagain hne := by
    -- with the required flag everywhere, what is found must be listed
    obtain ⟨flagged, hflagged⟩ := normalizeRewrites_flagged haccepted fun _ => required.enabled
    obtain ⟨current, hcurrent⟩ :=
      (currentRewrite_isSome_iff hflagged).mpr ⟨rewrite, hrewrite, hagain⟩
    obtain ⟨found, -, rfl⟩ := currentRewrite_eq_some hflagged hcurrent
    obtain ⟨_, hmem, hkey, -⟩ := (h _ flagged hflagged).mp ⟨_, hcurrent, flagged_enabled _ found⟩
    obtain ⟨listed, hlisted, rfl⟩ := List.mem_map.mp hmem
    rw [flagged_key] at hkey
    exact ⟨((last_of_agrees haccepted h hlisted hkey).2 rewrite hrewrite hagain).resolve_left hne, listed, hlisted, hkey⟩

/-- What is found in one list is the entry that decides. -/
theorem found_iff_decides {report : TargetReport} (hreport : normalizeRewrites rewrites = .ok report.rewrites) :
    (∃ current, currentRewrite report required = some current ∧ current.enabled = required.enabled) ↔
      ∃ rewrite, Decides rewrites required.key rewrite ∧ rewrite.enabled = required.enabled := by
  -- a list has the flags it has
  have hflagged : normalizeRewrites (rewrites.map (·.flagged (·.enabled))) = .ok report.rewrites := by
    rw [← hreport]
    exact congrArg _ (List.map_id rewrites)
  constructor
  · rintro ⟨current, hcurrent, hflag⟩
    obtain ⟨rewrite, hdecides, rfl⟩ := currentRewrite_eq_some hflagged hcurrent
    exact ⟨rewrite, hdecides, hflag⟩
  · rintro ⟨rewrite, hdecides, hflag⟩
    obtain ⟨current, hcurrent⟩ := (currentRewrite_isSome_iff hflagged).mpr ⟨rewrite, hdecides.mem, hdecides.again⟩
    refine ⟨current, hcurrent, ?_⟩
    obtain ⟨found, hfound, rfl⟩ := currentRewrite_eq_some hflagged hcurrent
    have hkey : found.normal.key = rewrite.normal.key := by
      rcases hdecides.last found hfound.mem hfound.again with hsame | hlt
      · exact hsame
      · exact ((hfound.last rewrite hdecides.mem hdecides.again).resolve_right hlt.asymm).symm
    rw [eq_of_normal_key_eq hreport hfound.mem hdecides.mem hkey]
    exact hflag

/-- **When one list reports a required rewrite right**, with the flags it has and
the switch where it is. -/
theorem reported_iff_settlesAt (packages : Packages) (target : TargetConfig) (profile : ConditionProfile)
    (hrequired : required ∈ policy.rewrites.required) {switch : Bool} {report : TargetReport}
    (hreport : normalizeRewrites rewrites = .ok report.rewrites) (hswitch : report.rewritesEnabled = some switch) :
    Reported rewrites switch required ((required, .clear) ∈ rewriteOutcomes packages target policy profile report) ↔
      SettlesAt rewrites switch required := by
  have hon : (required.enabled → report.rewritesEnabled = some true) ↔ (required.enabled → switch) := by
    rw [hswitch, Option.some_inj]
  rw [Reported, mem_rewriteOutcomes_iff hrequired, rewriteVerdict_clear_iff, found_iff_decides hreport, hon]
  constructor
  · intro h
    refine ⟨fun hswitched hlisted => (h.1 hlisted hswitched).1, fun hrequires rewrite hdecides hflag => ?_⟩
    exact (h.2 ⟨⟨rewrite, hdecides, hflag⟩, hrequires⟩).1
  · intro h
    refine ⟨fun hlisted hswitched => ⟨h.found hswitched hlisted, fun _ => hswitched⟩, ?_⟩
    rintro ⟨⟨rewrite, hdecides, hflag⟩, hrequires⟩
    exact ⟨h.listed hrequires rewrite hdecides hflag, hrequires⟩

/-- **A required rewrite is reported clear where the resolver has it.** One list
with its flags does so under one position of the switch exactly if it settles
there. Whatever the flags and the switch, it does exactly if normalizing again
settles: the entry of its pair keeps that pair, and every other entry that gets
the pair comes before it. -/
theorem rewriteClear_iff (packages : Packages) (target : TargetConfig) (profile : ConditionProfile)
    (hrequired : required ∈ policy.rewrites.required) {observations : List RewriteObservation}
    (haccepted : normalizeRewrites rewrites = .ok observations) :
    (∀ (switch : Bool) (report : TargetReport), report.complete → report.rewrites = observations →
        report.rewritesEnabled = some switch →
        (Reported rewrites switch required
            ((required, .clear) ∈ rewriteOutcomes packages target policy profile report) ↔
          SettlesAt rewrites switch required)) ∧
    ((∀ (flag : RewriteResponse → Bool) (switch : Bool) (report : TargetReport), report.complete →
        normalizeRewrites (rewrites.map (·.flagged flag)) = .ok report.rewrites → report.rewritesEnabled = some switch →
        Reported (rewrites.map (·.flagged flag)) switch required
          ((required, .clear) ∈ rewriteOutcomes packages target policy profile report)) ↔
      Settles rewrites required.key) := by
  refine ⟨fun switch report _ hobservations hswitch => ?_, ?_⟩
  · rw [← hobservations] at haccepted
    exact reported_iff_settlesAt packages target profile hrequired haccepted hswitch
  simp only [Reported, mem_rewriteOutcomes_iff hrequired, rewriteVerdict_clear_iff]
  constructor
  · intro h
    refine settles_of_agrees haccepted fun flag flagged hflagged => ?_
    obtain ⟨hclear, hlisted⟩ := h flag true (rewritesReport flagged) rfl hflagged rfl
    exact ⟨fun hfound => (hlisted ⟨hfound, fun _ => rfl⟩).1, fun hmem => (hclear hmem rfl).1⟩
  · intro h flag switch report _ hreport hswitch
    have hfound := found_iff_listed haccepted h hreport
    rw [hswitch, hfound]
    exact ⟨fun hmem hon => ⟨hmem, fun _ => by rw [hon]⟩, fun hclear => ⟨hclear.1, fun henabled => Option.some.inj (hclear.2 henabled)⟩⟩

end Clear

/-- A policy of one required rewrite. -/
def rewritePolicy (required : RequiredRewrite) : PolicyConfig := { rewrites := { required := [required] } }

theorem mem_rewritePolicy (required : RequiredRewrite) : required ∈ (rewritePolicy required).rewrites.required :=
  List.mem_singleton_self required

def serviceRequired : RequiredRewrite := ⟨"service-b.example.invalid", "2001:db8::1", true⟩

def serviceEntry : RewriteResponse := ⟨"Service-B.Example.Invalid.", "2001:0DB8::1", true⟩

/-- A target that is checked against one of these policies. -/
def rewriteTarget : TargetConfig := { id := "home", name := "Home", baseUrl := "https://home" }

theorem rewriteClear_iff_address :
    normalizeRewrites [serviceEntry] = .ok [serviceEntry.normal] ∧ Settles [serviceEntry] serviceRequired.key ∧
      (Reported [serviceEntry] true serviceRequired
        ((serviceRequired, .clear) ∈ rewriteOutcomes default rewriteTarget (rewritePolicy serviceRequired) {}
          (rewritesReport [serviceEntry.normal])) ↔
        SettlesAt [serviceEntry] true serviceRequired) ∧
      ((∀ (flag : RewriteResponse → Bool) (switch : Bool) (report : TargetReport), report.complete →
        normalizeRewrites ([serviceEntry].map (·.flagged flag)) = .ok report.rewrites →
        report.rewritesEnabled = some switch →
        Reported ([serviceEntry].map (·.flagged flag)) switch serviceRequired
          ((serviceRequired, .clear) ∈
            rewriteOutcomes default rewriteTarget (rewritePolicy serviceRequired) {} report)) ↔
        Settles [serviceEntry] serviceRequired.key) := by
  have haccepted : normalizeRewrites [serviceEntry] = .ok [serviceEntry.normal] :=
    normalizeRewrites_eq_ok_iff.mpr ⟨by decide +kernel, List.nodup_singleton _, rfl⟩
  have hagain : serviceEntry.normal.again = serviceRequired.key := by decide +kernel
  have hkey : serviceEntry.normal.key = serviceRequired.key := by decide +kernel
  obtain ⟨hone, hall⟩ := rewriteClear_iff default rewriteTarget {} (mem_rewritePolicy serviceRequired) haccepted
  refine ⟨haccepted, ⟨fun rewrite hmem _ => ?_, fun rewrite hmem _ hne => absurd ?_ hne⟩,
    hone true (rewritesReport [serviceEntry.normal]) rfl rfl rfl, hall⟩
  · rw [List.mem_singleton.mp hmem, hagain]
  · rw [List.mem_singleton.mp hmem, hkey]

/-- White space before a trailing dot, in a policy and in a resolver's list. -/
def spacedRequired : RequiredRewrite := ⟨"host .", "10.0.0.1", true⟩

def spacedEntry : RewriteResponse := ⟨"host .", "10.0.0.1", true⟩

/-- **A rewrite that is missing though it is there**: its entry has the very
domain, answer and flag that are required, and the switch is on. -/
theorem spaced_rewrite_missing :
    validatePolicies default ⟨[("home", rewritePolicy spacedRequired)], List.pairwise_singleton ..⟩ = [] ∧
      normalizeRewrites [spacedEntry] = .ok [spacedEntry.normal] ∧
      (rewritesReport [spacedEntry.normal]).rewritesEnabled = some true ∧
      spacedEntry.domain = spacedRequired.domain ∧ spacedEntry.answer = spacedRequired.answer ∧
      ¬Reported [spacedEntry] true spacedRequired
        ((spacedRequired, .clear) ∈ rewriteOutcomes default rewriteTarget (rewritePolicy spacedRequired) {}
          (rewritesReport [spacedEntry.normal])) := by
  have haccepted : normalizeRewrites [spacedEntry] = .ok [spacedEntry.normal] :=
    normalizeRewrites_eq_ok_iff.mpr ⟨by decide +kernel, List.nodup_singleton _, rfl⟩
  have hlisted : Listed [spacedEntry] spacedRequired := ⟨spacedEntry, List.mem_singleton_self _, by decide +kernel, rfl⟩
  refine ⟨by decide +kernel, haccepted, rfl, rfl, rfl, fun h => ?_⟩
  have hclear := (mem_rewriteOutcomes_iff (mem_rewritePolicy spacedRequired)).mp (h.1 hlisted rfl)
  exact absurd hclear (by decide +kernel)

end Sentinel

/-
# Runs of consecutive events in a history

A history is a list, newest event last. `run p h` is the length of the run of
`p`-events it ends with, `Since p n q k h` says that `n` consecutive
`p`-events occurred with no `k` consecutive `q`-events completed after them,
and `FirstSince p q k h x` names the first `p`-event after the last completed
run of `k` `q`-events. `HeldSince P Q h` and `FirstHeld p Q h x` say the like
of any conditions on the history as it grew, such as `Completes`, where each
event asks for a length of its own. Each is characterized by what one more
event does.

Key theorems: `run_concat`, `since_concat`, `firstSince_concat`, `heldSince_concat`,
`firstHeld_concat`, `heldSince_completes_iff`.
-/
import Mathlib.Data.List.DropRight
import Mathlib.Data.List.Infix

namespace Trailing

variable {α : Type}

/-- The length of the run of `p`-events at the end of a history. -/
def run (p : α → Bool) (h : List α) : ℕ := (h.rtakeWhile p).length

/-- Some `n` consecutive events satisfy `p`. -/
def Consecutive (p : α → Bool) (n : ℕ) (h : List α) : Prop :=
  ∃ m, m <:+: h ∧ m.length = n ∧ ∀ x ∈ m, p x

/-- Some `n` consecutive `p`-events occur with no `k` consecutive `q`-events
after them. -/
def Since (p : α → Bool) (n : ℕ) (q : α → Bool) (k : ℕ) (h : List α) : Prop :=
  ∃ a m b, h = a ++ m ++ b ∧ m.length = n ∧ (∀ x ∈ m, p x) ∧ ¬Consecutive q k b

/-- `x` is the first `p`-event after the last `k` consecutive `q`-events: none
are completed after it, and it is preceded by no `p`-event of which this
holds. -/
def FirstSince (p : α → Bool) (q : α → Bool) (k : ℕ) (h : List α) (x : α) : Prop :=
  ∃ a b, h = a ++ x :: b ∧ p x ∧ ¬Consecutive q k b ∧ ¬Since p 1 q k a

/-! ### The run at the end -/

section Run

variable (p : α → Bool)

@[simp] theorem run_nil : run p [] = 0 := rfl

theorem run_concat (h : List α) (x : α) : run p (h ++ [x]) = if p x then run p h + 1 else 0 := by
  unfold run
  by_cases hx : p x
  · rw [List.rtakeWhile_concat_pos p h x hx, if_pos hx, List.length_append, List.length_singleton]
  · rw [List.rtakeWhile_concat_neg p h x hx, if_neg hx, List.length_nil]

theorem le_run_iff (n : ℕ) (h : List α) :
    n ≤ run p h ↔ ∃ a m, h = a ++ m ∧ m.length = n ∧ ∀ x ∈ m, p x := by
  constructor
  · intro hn
    have hall : ∀ x ∈ h.rtakeWhile p, p x := fun x hx => List.mem_rtakeWhile_imp hx
    obtain ⟨a, ha⟩ := List.rtakeWhile_suffix p h
    set t := h.rtakeWhile p with ht
    have hlen : n ≤ t.length := hn
    refine ⟨a ++ t.take (t.length - n), t.drop (t.length - n), ?_, ?_, ?_⟩
    · rw [List.append_assoc, List.take_append_drop, ha]
    · rw [List.length_drop]
      omega
    · exact fun x hx => hall x (List.mem_of_mem_drop hx)
  · rintro ⟨a, m, rfl, rfl, hm⟩
    induction m using List.reverseRecOn with
    | nil => simp
    | append_singleton m x ih =>
      have hx : p x := hm x (by simp)
      have hle := ih fun y hy => hm y (by simp [hy])
      rw [← List.append_assoc, run_concat, if_pos hx, List.length_append, List.length_singleton]
      omega

/-- A run only a different event could have ended. -/
theorem run_eq_zero_of_run_pos {p q : α → Bool} (hpq : ∀ x, p x → q x = false) {h : List α}
    (hp : 0 < run p h) : run q h = 0 := by
  induction h using List.reverseRecOn with
  | nil => rfl
  | append_singleton h x _ =>
    rw [run_concat] at hp ⊢
    by_cases hx : p x
    · rw [hpq x hx, if_neg (by simp)]
    · rw [if_neg hx] at hp
      omega

theorem run_replicate (n : ℕ) {x : α} (hx : p x) : run p (List.replicate n x) = n := by
  induction n with
  | zero => rfl
  | succ n ih => rw [List.replicate_succ', run_concat, if_pos hx, ih]

end Run

/-! ### Consecutive events -/

theorem not_consecutive_nil (p : α → Bool) {n : ℕ} (hn : 0 < n) : ¬Consecutive p n [] := by
  rintro ⟨m, hm, rfl, _⟩
  rw [List.infix_nil] at hm
  subst hm
  simp at hn

/-- A run of `n` is old, or the new event completes it. -/
theorem consecutive_concat (p : α → Bool) (n : ℕ) (h : List α) (x : α) :
    Consecutive p n (h ++ [x]) ↔ Consecutive p n h ∨ n ≤ run p (h ++ [x]) := by
  constructor
  · rintro ⟨m, ⟨a, b, hab⟩, hlen, hm⟩
    rcases List.eq_nil_or_concat b with rfl | ⟨b, y, rfl⟩
    · refine .inr ((le_run_iff p n _).mpr ⟨a, m, ?_, hlen, hm⟩)
      rw [← hab, List.append_nil]
    · refine .inl ⟨m, ⟨a, b, ?_⟩, hlen, hm⟩
      rw [List.concat_eq_append, ← List.append_assoc] at hab
      exact (List.append_inj' hab rfl).1
  · rintro (⟨m, hm, hlen, hp⟩ | hrun)
    · exact ⟨m, hm.trans ⟨[], [x], by simp⟩, hlen, hp⟩
    · obtain ⟨a, m, ham, hlen, hp⟩ := (le_run_iff p n _).mp hrun
      exact ⟨m, ⟨a, [], by simp [ham]⟩, hlen, hp⟩

/-- Whether the last event completes a run of `q` is decided after any
`p`-event. -/
theorem le_run_append_iff {p q : α → Bool} (hpq : ∀ x, p x → q x = false) {k : ℕ}
    {a m b : List α} (hm : ∃ x, m.getLast? = some x ∧ p x) :
    k ≤ run q (a ++ m ++ b) ↔ k ≤ run q b := by
  suffices h : run q (a ++ m ++ b) = run q b by rw [h]
  induction b using List.reverseRecOn with
  | nil =>
    obtain ⟨x, hx, hp⟩ := hm
    obtain ⟨m', rfl⟩ := List.getLast?_eq_some_iff.mp hx
    rw [List.append_nil, ← List.append_assoc, run_concat, hpq x hp, run_nil]
    rfl
  | append_singleton b y ih => rw [← List.append_assoc, run_concat, run_concat, ih]

/-! ### Since -/

section Since

variable {p q : α → Bool} {k : ℕ}

theorem not_since_nil {n : ℕ} (hn : 0 < n) : ¬Since p n q k [] := by
  rintro ⟨a, m, b, h, rfl, _⟩
  have := List.append_eq_nil_iff.mp (List.append_eq_nil_iff.mp h.symm).1
  rw [this.2] at hn
  exact absurd hn (lt_irrefl 0)

theorem since_of_le_run {n : ℕ} {h b : List α} (hrun : n ≤ run p h) (hb : ¬Consecutive q k b) :
    Since p n q k (h ++ b) := by
  obtain ⟨a, m, rfl, hlen, hm⟩ := (le_run_iff p n h).mp hrun
  exact ⟨a, m, b, rfl, hlen, hm, hb⟩

/-- **One more event.** It completes the `p`-run, or the run was there and
the event completes no `q`-run. -/
theorem since_concat (hpq : ∀ x, p x → q x = false) (hk : 0 < k) {n : ℕ} (hn : 0 < n) (h : List α) (x : α) :
    Since p n q k (h ++ [x]) ↔
      n ≤ run p (h ++ [x]) ∨ (Since p n q k h ∧ run q (h ++ [x]) < k) := by
  have hlast : ∀ m : List α, m.length = n → (∀ y ∈ m, p y) → ∃ y, m.getLast? = some y ∧ p y := by
    rintro m rfl hm
    obtain ⟨y, hy⟩ := Option.isSome_iff_exists.mp (List.getLast?_isSome.mpr (List.ne_nil_of_length_pos hn))
    exact ⟨y, hy, hm y (List.mem_of_getLast? hy)⟩
  constructor
  · rintro ⟨a, m, b, hab, hlen, hm, hb⟩
    rcases List.eq_nil_or_concat b with rfl | ⟨b, y, rfl⟩
    · exact .inl ((le_run_iff p n _).mpr ⟨a, m, by rw [hab, List.append_nil], hlen, hm⟩)
    · rw [List.concat_eq_append] at hab hb
      have hb' := mt (consecutive_concat q k b y).mpr hb
      push Not at hb'
      have hrun := mt (le_run_append_iff hpq (a := a) (b := b ++ [y]) (hlast m hlen hm)).mp
        (not_le.mpr hb'.2)
      rw [← hab] at hrun
      rw [← List.append_assoc] at hab
      exact .inr ⟨⟨a, m, b, (List.append_inj' hab rfl).1, hlen, hm, hb'.1⟩, not_le.mp hrun⟩
  · rintro (hrun | ⟨⟨a, m, b, rfl, hlen, hm, hb⟩, hlt⟩)
    · simpa using since_of_le_run hrun (not_consecutive_nil q hk)
    · refine ⟨a, m, b ++ [x], by simp, hlen, hm, fun hc => ?_⟩
      rcases (consecutive_concat q k b x).mp hc with hc | hc
      · exact hb hc
      · rw [← le_run_append_iff hpq (a := a) (hlast m hlen hm), ← List.append_assoc] at hc
        exact absurd hc (not_le.mpr hlt)

theorem FirstSince.since {h : List α} {x : α} (hx : FirstSince p q k h x) : Since p 1 q k h := by
  obtain ⟨a, b, rfl, hp, hb, _⟩ := hx
  exact ⟨a, [x], b, by simp, rfl, by simpa using hp, hb⟩

/-- The first event since is the new one, or stays while no `q`-run is
completed. -/
theorem firstSince_concat (hpq : ∀ x, p x → q x = false) (hk : 0 < k) (h : List α) (x y : α) :
    FirstSince p q k (h ++ [x]) y ↔
      (y = x ∧ p x ∧ ¬Since p 1 q k h) ∨ (FirstSince p q k h y ∧ run q (h ++ [x]) < k) := by
  constructor
  · rintro ⟨a, b, hab, hp, hb, ha⟩
    rcases List.eq_nil_or_concat b with rfl | ⟨b, z, rfl⟩
    · obtain ⟨rfl, hxy⟩ := List.append_inj' hab rfl
      obtain rfl : x = y := by simpa using hxy
      exact .inl ⟨rfl, hp, ha⟩
    · rw [List.concat_eq_append] at hab hb
      have hb' := mt (consecutive_concat q k b z).mpr hb
      push Not at hb'
      have hrun := mt (le_run_append_iff hpq (a := a) (m := [y]) (b := b ++ [z]) ⟨y, rfl, hp⟩).mp
        (not_le.mpr hb'.2)
      rw [List.append_assoc, List.singleton_append, ← hab] at hrun
      rw [← List.cons_append, ← List.append_assoc] at hab
      exact .inr ⟨⟨a, b, (List.append_inj' hab rfl).1, hp, hb'.1, ha⟩, not_le.mp hrun⟩
  · rintro (⟨rfl, hp, hs⟩ | ⟨⟨a, b, rfl, hp, hb, ha⟩, hlt⟩)
    · exact ⟨h, [], rfl, hp, not_consecutive_nil q hk, hs⟩
    · refine ⟨a, b ++ [x], by simp, hp, fun hc => ?_, ha⟩
      rcases (consecutive_concat q k b x).mp hc with hc | hc
      · exact hb hc
      · rw [← le_run_append_iff hpq (a := a) (m := [y]) ⟨y, rfl, hp⟩] at hc
        simp only [List.append_assoc, List.cons_append, List.nil_append] at hc hlt
        exact absurd hc (not_le.mpr hlt)

end Since

/-! ### What came true of a history as it grew -/

/-- `P` came true at some point of the history, and `Q` at none after it. -/
def HeldSince (P Q : List α → Prop) (h : List α) : Prop :=
  ∃ a b, h = a ++ b ∧ P a ∧ ∀ c d, b = c ++ d → c ≠ [] → ¬Q (a ++ c)

/-- The history ends with a `p`-event. -/
def Ends (p : α → Bool) (h : List α) : Prop := ∃ a x, h = a ++ [x] ∧ p x

/-- The history ends with a `p`-event that completes a run of the length that
the event asks for. -/
def Completes (p : α → Bool) (length : α → ℕ) (h : List α) : Prop := ∃ a x, h = a ++ [x] ∧ p x ∧ length x ≤ run p h

/-- `x` is the first `p`-event since `Q` last came true. -/
def FirstHeld (p : α → Bool) (Q : List α → Prop) (h : List α) (x : α) : Prop :=
  ∃ a b, h = a ++ x :: b ∧ p x ∧ ¬HeldSince (Ends p) Q a ∧ ∀ c d, b = c ++ d → c ≠ [] → ¬Q (a ++ x :: c)

section Held

variable {p : α → Bool} {P Q : List α → Prop}

theorem heldSince_nil : HeldSince P Q [] ↔ P [] := by
  constructor
  · rintro ⟨a, b, hab, ha, -⟩
    obtain ⟨rfl, -⟩ := List.append_eq_nil_iff.mp hab.symm
    exact ha
  · intro h
    refine ⟨[], [], rfl, h, fun c d hcd hne => ?_⟩
    exact absurd (List.append_eq_nil_iff.mp hcd.symm).1 hne

theorem ends_concat (h : List α) (x : α) : Ends p (h ++ [x]) ↔ p x := by
  constructor
  · rintro ⟨a, y, hay, hy⟩
    obtain rfl := List.singleton_inj.mp (List.append_inj' hay rfl).2
    exact hy
  · exact fun hx => ⟨h, x, rfl, hx⟩

theorem completes_concat {length : α → ℕ} (h : List α) (x : α) :
    Completes p length (h ++ [x]) ↔ p x ∧ length x ≤ run p h + 1 := by
  have hrun := run_concat p h x
  constructor
  · rintro ⟨a, y, hay, hy, hlength⟩
    obtain rfl := List.singleton_inj.mp (List.append_inj' hay rfl).2
    rw [hrun, if_pos hy] at hlength
    exact ⟨hy, hlength⟩
  · rintro ⟨hx, hlength⟩
    refine ⟨h, x, rfl, hx, ?_⟩
    rwa [hrun, if_pos hx]

theorem not_ends_nil : ¬Ends p [] := by
  rintro ⟨a, x, hax, -⟩
  exact List.append_ne_nil_of_right_ne_nil a (List.cons_ne_nil x []) hax.symm

theorem not_completes_nil {length : α → ℕ} : ¬Completes p length [] := by
  rintro ⟨a, x, hax, hx, -⟩
  exact not_ends_nil ⟨a, x, hax, hx⟩

/-- The proper prefixes of what follows, and the whole. -/
theorem forall_prefix_concat {R : List α → Prop} (b : List α) (x : α) :
    (∀ c d, b ++ [x] = c ++ d → c ≠ [] → R c) ↔ (∀ c d, b = c ++ d → c ≠ [] → R c) ∧ R (b ++ [x]) := by
  constructor
  · intro h
    refine ⟨fun c d hcd hne => h c (d ++ [x]) ?_ hne, h (b ++ [x]) [] (List.append_nil _).symm ?_⟩
    · rw [hcd, List.append_assoc]
    · exact List.append_ne_nil_of_right_ne_nil b (List.cons_ne_nil x [])
  · rintro ⟨hold, hnew⟩ c d hcd hne
    rcases List.eq_nil_or_concat d with rfl | ⟨d, y, rfl⟩
    · rw [List.append_nil] at hcd
      rwa [← hcd]
    · rw [List.concat_eq_append, ← List.append_assoc] at hcd
      exact hold c d (List.append_inj' hcd rfl).1 hne

/-- **One more event.** `P` comes true, or it held and `Q` does not come true. -/
theorem heldSince_concat (h : List α) (x : α) :
    HeldSince P Q (h ++ [x]) ↔ P (h ++ [x]) ∨ HeldSince P Q h ∧ ¬Q (h ++ [x]) := by
  constructor
  · rintro ⟨a, b, hab, ha, hb⟩
    rcases List.eq_nil_or_concat b with rfl | ⟨b, y, rfl⟩
    · rw [List.append_nil] at hab
      exact .inl (hab ▸ ha)
    · rw [List.concat_eq_append] at hab hb
      obtain ⟨hold, hnew⟩ := (forall_prefix_concat b y).mp hb
      rw [← List.append_assoc] at hab
      refine .inr ⟨⟨a, b, (List.append_inj' hab rfl).1, ha, hold⟩, ?_⟩
      rwa [hab, List.append_assoc]
  · rintro (hnow | ⟨⟨a, b, rfl, ha, hb⟩, hnow⟩)
    · refine ⟨h ++ [x], [], (List.append_nil _).symm, hnow, fun c d hcd hne => ?_⟩
      exact absurd (List.append_eq_nil_iff.mp hcd.symm).1 hne
    · refine ⟨a, b ++ [x], List.append_assoc a b [x], ha, (forall_prefix_concat b x).mpr ⟨hb, ?_⟩⟩
      rwa [← List.append_assoc]

theorem FirstHeld.held {h : List α} {x : α} (hx : FirstHeld p Q h x) : HeldSince (Ends p) Q h := by
  obtain ⟨a, b, rfl, hp, -, hb⟩ := hx
  refine ⟨a ++ [x], b, List.append_cons a x b, ⟨a, x, rfl, hp⟩, fun c d hcd hne => ?_⟩
  rw [← List.append_cons]
  exact hb c d hcd hne

/-- The first event since is the new one, or stays while `Q` does not come true. -/
theorem firstHeld_concat (h : List α) (x y : α) :
    FirstHeld p Q (h ++ [x]) y ↔
      (y = x ∧ p x ∧ ¬HeldSince (Ends p) Q h) ∨ (FirstHeld p Q h y ∧ ¬Q (h ++ [x])) := by
  constructor
  · rintro ⟨a, b, hab, hp, ha, hb⟩
    rcases List.eq_nil_or_concat b with rfl | ⟨b, z, rfl⟩
    · obtain ⟨rfl, hxy⟩ := List.append_inj' hab rfl
      obtain rfl := List.singleton_inj.mp hxy
      exact .inl ⟨rfl, hp, ha⟩
    · rw [List.concat_eq_append] at hab hb
      obtain ⟨hold, hnew⟩ := (@forall_prefix_concat α (fun c => ¬Q (a ++ y :: c)) b z).mp hb
      have hxz : h ++ [x] = a ++ y :: b ++ [z] := by rw [hab, List.append_assoc, List.cons_append]
      refine .inr ⟨⟨a, b, (List.append_inj' hxz rfl).1, hp, ha, hold⟩, ?_⟩
      rwa [hab]
  · rintro (⟨rfl, hp, hs⟩ | ⟨⟨a, b, rfl, hp, ha, hb⟩, hnow⟩)
    · refine ⟨h, [], rfl, hp, hs, fun c d hcd hne => ?_⟩
      exact absurd (List.append_eq_nil_iff.mp hcd.symm).1 hne
    · refine ⟨a, b ++ [x], by simp, hp, ha,
        (@forall_prefix_concat α (fun c => ¬Q (a ++ y :: c)) b x).mpr ⟨hb, ?_⟩⟩
      rwa [List.append_assoc, List.cons_append] at hnow

end Held

/-! ### Events that ask for one length -/

section Alike

variable {p q : α → Bool} {n k : ℕ} {length length' : α → ℕ}

/-- An event that asks for `n` completes the run when it is `n` long. -/
theorem completes_concat_iff (hn : 0 < n) (h : List α) {x : α} (hx : length x = n) :
    Completes p length (h ++ [x]) ↔ n ≤ run p (h ++ [x]) := by
  rw [completes_concat, run_concat, hx]
  by_cases hp : p x
  · simp [hp]
  · simp only [hp, Bool.false_eq_true, false_and, if_false, false_iff]
    omega

/-- One event is a run of one. -/
theorem ends_eq : Ends p = Completes p fun _ => 1 := by
  funext h
  rcases List.eq_nil_or_concat h with rfl | ⟨h, x, rfl⟩
  · exact propext (iff_of_false not_ends_nil not_completes_nil)
  · rw [List.concat_eq_append, ends_concat, completes_concat]
    simp

/-- Where every event asks for the same lengths, a run that was completed is
one of that length. -/
theorem heldSince_completes_iff (hpq : ∀ x, p x → q x = false) (hn : 0 < n) (hk : 0 < k) {h : List α}
    (hall : ∀ x ∈ h, length x = n ∧ length' x = k) :
    HeldSince (Completes p length) (Completes q length') h ↔ Since p n q k h := by
  induction h using List.reverseRecOn with
  | nil => exact iff_of_false (mt heldSince_nil.mp not_completes_nil) (not_since_nil hn)
  | append_singleton h x ih =>
    obtain ⟨hx, hx'⟩ := hall x (by simp)
    rw [heldSince_concat, since_concat hpq hk hn, completes_concat_iff hn h hx, completes_concat_iff hk h hx', not_le,
      ih fun y hy => hall y (by simp [hy])]

theorem firstHeld_completes_iff (hpq : ∀ x, p x → q x = false) (hk : 0 < k) {h : List α}
    (hall : ∀ x ∈ h, length' x = k) (y : α) :
    FirstHeld p (Completes q length') h y ↔ FirstSince p q k h y := by
  induction h using List.reverseRecOn with
  | nil =>
    refine iff_of_false (fun hy => ?_) fun hy => not_since_nil Nat.one_pos hy.since
    exact not_ends_nil (heldSince_nil.mp hy.held)
  | append_singleton h x ih =>
    have hold : ∀ z ∈ h, 1 = 1 ∧ length' z = k := fun z hz => ⟨rfl, hall z (by simp [hz])⟩
    rw [firstHeld_concat, firstSince_concat hpq hk, completes_concat_iff hk h (hall x (by simp)), not_le, ends_eq,
      heldSince_completes_iff hpq Nat.one_pos hk hold, ih fun z hz => hall z (by simp [hz])]

end Alike

end Trailing

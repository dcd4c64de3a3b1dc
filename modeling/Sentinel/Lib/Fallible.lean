/-
# Computations that may fail

Taking apart computations in `Option` and `Except ε` that returned: a
sequence returned when each part did, `mapM` when every item did, and a fold
carries an invariant of what it has consumed.

Key theorems: `mapM_eq_some_iff`, `mapM_eq_ok_iff`, `foldlM_some`, `foldlM_ok`,
`foldlM_preserves`.
-/
import Mathlib.Data.List.Forall2

namespace Fallible

theorem exists_of_forall₂_right {α β : Type} {R : α → β → Prop} {l : List α} {r : List β}
    (h : List.Forall₂ R l r) : ∀ b ∈ r, ∃ a ∈ l, R a b := by
  induction h with
  | nil => simp
  | cons hab _ ih =>
    rintro b (_ | ⟨_, hb⟩)
    · exact ⟨_, List.mem_cons_self, hab⟩
    · obtain ⟨a, ha, hR⟩ := ih b hb
      exact ⟨a, List.mem_cons_of_mem _ ha, hR⟩

theorem map_eq_map_of_forall₂ {α β γ : Type} {f : α → γ} {g : β → γ} {l : List α} {r : List β}
    (h : List.Forall₂ (fun a b => f a = g b) l r) : l.map f = r.map g := by
  induction h with
  | nil => rfl
  | cons hab _ ih => rw [List.map_cons, List.map_cons, hab, ih]

/-- Items, each related to its image. -/
theorem forall₂_map_self {α β : Type} {R : α → β → Prop} {f : α → β} (h : ∀ a, R a (f a)) {l : List α} :
    List.Forall₂ R l (l.map f) := by
  rw [List.forall₂_map_right_iff, List.forall₂_same]
  exact fun a _ => h a

/-- Related elements are elements. -/
theorem forall₂_mem {α β : Type} {R : α → β → Prop} {l : List α} {r : List β} (h : List.Forall₂ R l r) :
    List.Forall₂ (fun a b => a ∈ l ∧ b ∈ r ∧ R a b) l r := by
  rw [List.forall₂_iff_zip] at h ⊢
  refine ⟨h.1, fun hab => ?_⟩
  obtain ⟨ha, hb⟩ := List.of_mem_zip hab
  exact ⟨ha, hb, h.2 hab⟩

theorem exists_of_forall₂_left {α β : Type} {R : α → β → Prop} {l : List α} {r : List β}
    (h : List.Forall₂ R l r) : ∀ a ∈ l, ∃ b ∈ r, R a b :=
  exists_of_forall₂_right h.flip

/-- An order of one list is an order of the other. -/
theorem pairwise_of_forall₂ {α β : Type} {R : α → β → Prop} {S : α → α → Prop} {T : β → β → Prop}
    (order : ∀ {a a' b b'}, R a b → R a' b' → S a a' → T b b') {l : List α} {r : List β} (h : List.Forall₂ R l r)
    (hl : l.Pairwise S) : r.Pairwise T := by
  induction h with
  | nil => exact .nil
  | cons hab hrest ih =>
    obtain ⟨hfirst, hl⟩ := List.pairwise_cons.mp hl
    refine List.pairwise_cons.mpr ⟨fun b' hb' => ?_, ih hl⟩
    obtain ⟨a', ha', hR⟩ := exists_of_forall₂_right hrest b' hb'
    exact order hab hR (hfirst a' ha')

/-- What each item has, the items have in order. -/
theorem exists_forall₂_of_forall {α β : Type} {R : α → β → Prop} : ∀ {l : List α}, (∀ a ∈ l, ∃ b, R a b) →
    ∃ r, List.Forall₂ R l r
  | [], _ => ⟨[], .nil⟩
  | a :: l, h => by
    obtain ⟨b, hb⟩ := h a List.mem_cons_self
    obtain ⟨r, hr⟩ := exists_forall₂_of_forall fun a ha => h a (List.mem_cons_of_mem _ ha)
    exact ⟨b :: r, .cons hb hr⟩

theorem forall₂_trans {α β γ : Type} {R : α → β → Prop} {S : β → γ → Prop} {T : α → γ → Prop}
    (trans : ∀ {a b c}, R a b → S b c → T a c) {l : List α} {m : List β} {r : List γ} (h : List.Forall₂ R l m)
    (h' : List.Forall₂ S m r) : List.Forall₂ T l r := by
  induction h generalizing r with
  | nil =>
    cases h'
    exact .nil
  | cons hab _ ih =>
    obtain ⟨c, r', hbc, htail, rfl⟩ := List.forall₂_cons_left_iff.mp h'
    exact .cons (trans hab hbc) (ih htail)

theorem forall₂_append_left {α β : Type} {R : α → β → Prop} {l l' : List α} :
    ∀ {r : List β}, List.Forall₂ R (l ++ l') r →
      ∃ s s', r = s ++ s' ∧ List.Forall₂ R l s ∧ List.Forall₂ R l' s' := by
  induction l with
  | nil => exact fun {r} h => ⟨[], r, rfl, .nil, h⟩
  | cons a l ih =>
    intro r h
    rw [List.cons_append] at h
    obtain ⟨b, r', hab, htail, rfl⟩ := List.forall₂_cons_left_iff.mp h
    obtain ⟨s, s', rfl, hs, hs'⟩ := ih htail
    exact ⟨b :: s, s', rfl, .cons hab hs, hs'⟩

/-! ### Option -/

section Options

variable {α β σ : Type}

theorem mapM_eq_some_iff {f : α → Option β} : ∀ {l : List α} {r : List β},
    l.mapM f = some r ↔ List.Forall₂ (fun a b => f a = some b) l r
  | [], r => by simp [eq_comm]
  | a :: l, r => by
    have ih := fun {r : List β} => mapM_eq_some_iff (f := f) (l := l) (r := r)
    simp only [List.mapM_cons, Option.bind_eq_bind, Option.bind_eq_some_iff, Option.pure_def,
      Option.some.injEq, List.forall₂_cons_left_iff, ih]
    constructor
    · rintro ⟨b, hb, r', hr', rfl⟩
      exact ⟨b, r', hb, hr', rfl⟩
    · rintro ⟨b, r', hb, hr', rfl⟩
      exact ⟨b, hb, r', hr', rfl⟩

/-- An invariant of what a fold has consumed. -/
theorem foldlM_some {f : σ → α → Option σ} {I : List α → σ → Prop}
    (step : ∀ done a s s', I done s → f s a = some s' → I (done ++ [a]) s') :
    ∀ {l done : List α} {s s' : σ}, I done s → l.foldlM f s = some s' → I (done ++ l) s'
  | [], done, s, s', h, hf => by
    obtain rfl : s = s' := by simpa using hf
    rwa [List.append_nil]
  | a :: l, done, s, s', h, hf => by
    rw [List.foldlM_cons, Option.bind_eq_bind, Option.bind_eq_some_iff] at hf
    obtain ⟨t, ht, hf⟩ := hf
    have := foldlM_some step (step done a s t h ht) hf
    rwa [List.append_assoc, List.singleton_append] at this

/-- A fold fails at the first item that has no result. -/
theorem exists_of_foldlM_eq_none {f : σ → α → Option σ} : ∀ {l : List α} {s : σ}, l.foldlM f s = none →
    ∃ done a rest s', l = done ++ a :: rest ∧ done.foldlM f s = some s' ∧ f s' a = none
  | [], s, h => nomatch h
  | a :: l, s, h => by
    rw [List.foldlM_cons] at h
    cases hs : f s a with
    | none => exact ⟨[], a, l, s, rfl, rfl, hs⟩
    | some next =>
      rw [hs] at h
      obtain ⟨done, b, rest, s', rfl, hdone, hb⟩ := exists_of_foldlM_eq_none h
      refine ⟨a :: done, b, rest, s', rfl, ?_, hb⟩
      rw [List.foldlM_cons, hs]
      exact hdone

theorem exists_of_mapM_eq_none {f : α → Option β} : ∀ {l : List α}, l.mapM f = none → ∃ a ∈ l, f a = none
  | [], h => nomatch h
  | a :: l, h => by
    cases ha : f a with
    | none => exact ⟨a, List.mem_cons_self, ha⟩
    | some b =>
      rw [List.mapM_cons, ha] at h
      have hrest : l.mapM f = none := by
        cases hl : l.mapM f with
        | none => rfl
        | some r =>
          rw [hl] at h
          cases h
      obtain ⟨c, hc, hnone⟩ := exists_of_mapM_eq_none hrest
      exact ⟨c, List.mem_cons_of_mem _ hc, hnone⟩

/-- Options mapped at once are all present. -/
theorem mapM_map_eq_some {f : α → β} : ∀ {l : List (Option α)} {r : List β},
    l.mapM (fun o => o.map f) = some r → ∃ present : List α, l = present.map some ∧ r = present.map f
  | [], r, h => ⟨[], rfl, (Option.some.inj h).symm⟩
  | o :: l, r, h => by
    simp only [List.mapM_cons, Option.bind_eq_bind, Option.bind_eq_some_iff, Option.map_eq_some_iff] at h
    obtain ⟨_, ⟨a, rfl, rfl⟩, rest, hrest, h⟩ := h
    obtain ⟨present, rfl, rfl⟩ := mapM_map_eq_some hrest
    exact ⟨a :: present, rfl, (Option.some.inj h).symm⟩

end Options

/-! ### Except -/

section Excepts

variable {ε α β σ : Type}

/-- Fails with `error` unless the condition holds. -/
def ensure (condition : Bool) (error : ε) : Except ε Unit :=
  if condition then .ok () else .error error

@[simp] theorem ensure_eq_ok_iff {condition : Bool} {error : ε} {u : Unit} :
    ensure condition error = .ok u ↔ condition = true := by
  cases condition <;> simp [ensure]

/-- A value, or the error for its absence. -/
def demand (error : ε) : Option α → Except ε α
  | some a => .ok a
  | none => .error error

@[simp] theorem demand_eq_ok_iff {error : ε} {o : Option α} {a : α} :
    demand error o = .ok a ↔ o = some a := by
  cases o <;> simp [demand]

theorem ok_bind (a : α) (f : α → Except ε β) : Except.ok a >>= f = f a := rfl

theorem bind_eq_error_iff {x : Except ε α} {f : α → Except ε β} {error : ε} :
    x >>= f = .error error ↔ x = .error error ∨ ∃ a, x = .ok a ∧ f a = .error error := by
  cases x with
  | error e => simp [bind, Except.bind]
  | ok a => simp [bind, Except.bind]

theorem mapError_eq_ok_iff {ε' : Type} {x : Except ε α} {f : ε → ε'} {a : α} : x.mapError f = .ok a ↔ x = .ok a := by
  cases x <;> simp [Except.mapError]

theorem map_eq_ok_iff {f : α → β} {x : Except ε α} {b : β} : x.map f = .ok b ↔ ∃ a, x = .ok a ∧ f a = b := by
  cases x <;> simp [Except.map]

theorem bind_eq_ok_iff {x : Except ε α} {f : α → Except ε β} {b : β} :
    x >>= f = .ok b ↔ ∃ a, x = .ok a ∧ f a = .ok b := by
  cases x with
  | ok a =>
    refine ⟨fun h => ⟨a, rfl, h⟩, ?_⟩
    rintro ⟨a', ha, h⟩
    obtain rfl := Except.ok.inj ha
    exact h
  | error e =>
    refine ⟨fun h => (nomatch h), ?_⟩
    rintro ⟨a, ha, -⟩
    cases ha

theorem ok_of_toBool {x : Except ε α} (h : x.toBool) : ∃ a, x = .ok a := by
  cases x with
  | error e => cases h
  | ok a => exact ⟨a, rfl⟩

theorem ok_of_any {x : Except ε α} {p : α → Bool} (h : x.toOption.any p) : ∃ a, x = .ok a ∧ p a := by
  cases x with
  | error e => cases h
  | ok a => exact ⟨a, rfl, h⟩

theorem mapM_eq_ok_iff {f : α → Except ε β} : ∀ {l : List α} {r : List β},
    l.mapM f = .ok r ↔ List.Forall₂ (fun a b => f a = .ok b) l r
  | [], r => by simp [pure, Except.pure, eq_comm]
  | a :: l, r => by
    have ih := fun {r : List β} => mapM_eq_ok_iff (f := f) (l := l) (r := r)
    simp only [List.mapM_cons, bind_eq_ok_iff, List.forall₂_cons_left_iff, ih]
    constructor
    · rintro ⟨b, hb, r', hr', h⟩
      exact ⟨b, r', hb, hr', (Except.ok.inj h).symm⟩
    · rintro ⟨b, r', hb, hr', rfl⟩
      exact ⟨b, hb, r', hr', rfl⟩

/-- A fold succeeds just if every item does, when the state does not matter to that. -/
theorem exists_foldlM_eq_ok_iff {f : σ → α → Except ε σ} {p : α → Prop}
    (step : ∀ s a, (∃ t, f s a = .ok t) ↔ p a) : ∀ {l : List α} {s : σ}, (∃ t, l.foldlM f s = .ok t) ↔ ∀ a ∈ l, p a
  | [], s => by simp [pure, Except.pure]
  | a :: l, s => by
    simp only [List.foldlM_cons, bind_eq_ok_iff, List.forall_mem_cons]
    constructor
    · rintro ⟨t, u, hu, ht⟩
      exact ⟨(step s a).mp ⟨u, hu⟩, (exists_foldlM_eq_ok_iff step).mp ⟨t, ht⟩⟩
    · rintro ⟨ha, hl⟩
      obtain ⟨u, hu⟩ := (step s a).mpr ha
      obtain ⟨t, ht⟩ := (exists_foldlM_eq_ok_iff step (s := u)).mpr hl
      exact ⟨t, u, hu, ht⟩

/-- A check of every item. -/
theorem forM_eq_ok_iff {f : α → Except ε Unit} : ∀ {l : List α}, forM l f = .ok () ↔ ∀ a ∈ l, f a = .ok ()
  | [] => iff_of_true rfl fun _ h => absurd h List.not_mem_nil
  | a :: l => by
    rw [List.forM_cons, bind_eq_ok_iff, List.forall_mem_cons, ← forM_eq_ok_iff (l := l)]
    exact ⟨fun ⟨_, hhead, htail⟩ => ⟨hhead, htail⟩, fun ⟨hhead, htail⟩ => ⟨_, hhead, htail⟩⟩

theorem exists_mapM_eq_ok {f : α → Except ε β} {l : List α} (h : ∀ a ∈ l, ∃ b, f a = .ok b) :
    ∃ r, l.mapM f = .ok r := by
  obtain ⟨r, hr⟩ := exists_forall₂_of_forall h
  exact ⟨r, mapM_eq_ok_iff.mpr hr⟩

/-- Related items that are computed alike, as far as `g` sees. -/
theorem map_mapM_congr {α' γ : Type} {R : α → α' → Prop} {f : α → Except ε β} {f' : α' → Except ε β} {g : β → γ}
    (h : ∀ a a', R a a' → (f a).map g = (f' a').map g) {l : List α} {l' : List α'} (hall : List.Forall₂ R l l') :
    (l.mapM f).map (List.map g) = (l'.mapM f').map (List.map g) := by
  induction hall with
  | nil => rfl
  | @cons a a' l l' haa' _ ih =>
    have hhead := h a a' haa'
    rw [List.mapM_cons, List.mapM_cons]
    cases ha : f a <;> cases ha' : f' a'
    all_goals rw [ha, ha'] at hhead
    · exact congrArg Except.error (Except.error.inj hhead)
    · cases hhead
    · cases hhead
    · cases hl : l.mapM f <;> cases hl' : l'.mapM f'
      all_goals rw [hl, hl'] at ih
      · exact congrArg Except.error (Except.error.inj ih)
      · cases ih
      · cases ih
      · exact congrArg Except.ok (congrArg₂ List.cons (Except.ok.inj hhead) (Except.ok.inj ih))

/-- What is computed of the items of a list that pass is what the related items
have. -/
theorem mapM_filter_eq_ok {γ : Type} {R : γ → α → Prop} {p : α → Bool} {f : α → Except ε β} {g : γ → Option β}
    (h : ∀ c a, R c a → p a = (g c).isSome ∧ ∀ b, g c = some b → f a = .ok b) {l : List γ} {r : List α}
    (hall : List.Forall₂ R l r) : (r.filter p).mapM f = .ok (l.filterMap g) := by
  induction hall with
  | nil => rfl
  | @cons c a l r hca _ ih =>
    obtain ⟨hpass, hvalue⟩ := h c a hca
    cases hc : g c with
    | none =>
      rw [hc] at hpass
      rw [List.filter_cons_of_neg (by rw [hpass]; exact Bool.false_ne_true), List.filterMap_cons_none hc, ih]
    | some b =>
      rw [hc] at hpass
      rw [List.filter_cons_of_pos hpass, List.filterMap_cons_some hc, List.mapM_cons, hvalue b hc, ih]
      rfl

/-- An invariant of what a fold has consumed. -/
theorem foldlM_ok {f : σ → α → Except ε σ} {I : List α → σ → Prop}
    (step : ∀ done a s s', I done s → f s a = .ok s' → I (done ++ [a]) s') :
    ∀ {l done : List α} {s s' : σ}, I done s → l.foldlM f s = .ok s' → I (done ++ l) s'
  | [], done, s, s', h, hf => by
    obtain rfl : s = s' := Except.ok.inj hf
    rwa [List.append_nil]
  | a :: l, done, s, s', h, hf => by
    rw [List.foldlM_cons, bind_eq_ok_iff] at hf
    obtain ⟨t, ht, hf⟩ := hf
    have := foldlM_ok step (step done a s t h ht) hf
    rwa [List.append_assoc, List.singleton_append] at this

/-- A fold succeeds if no step can fail. -/
theorem exists_foldlM_eq_ok {f : σ → α → Except ε σ} : ∀ {l : List α}, (∀ s, ∀ a ∈ l, ∃ s', f s a = .ok s') →
    ∀ s, ∃ s', l.foldlM f s = .ok s'
  | [], _, s => ⟨s, rfl⟩
  | a :: l, h, s => by
    obtain ⟨next, hnext⟩ := h s a List.mem_cons_self
    obtain ⟨s', hs'⟩ := exists_foldlM_eq_ok (fun s b hb => h s b (List.mem_cons_of_mem _ hb)) next
    exact ⟨s', by rw [List.foldlM_cons, hnext, ok_bind, hs']⟩

/-- An invariant of a fold's state. -/
theorem foldlM_preserves {f : σ → α → Except ε σ} {I : σ → Prop} {l : List α} {s s' : σ}
    (step : ∀ a ∈ l, ∀ s s', I s → f s a = .ok s' → I s') (h : I s) (hf : l.foldlM f s = .ok s') : I s' := by
  induction l generalizing s with
  | nil =>
    obtain rfl : s = s' := Except.ok.inj hf
    exact h
  | cons a l ih =>
    rw [List.foldlM_cons, bind_eq_ok_iff] at hf
    obtain ⟨t, ht, hf⟩ := hf
    exact ih (fun b hb => step b (List.mem_cons_of_mem _ hb)) (step a List.mem_cons_self s t h ht) hf

/-! Which errors a computation may end with. -/

/-- Every error of the computation is one of these. -/
def Raises (P : ε → Prop) (x : Except ε α) : Prop := ∀ error, x = .error error → P error

namespace Raises

variable {P : ε → Prop}

theorem ok (a : α) : Raises P (.ok a : Except ε α) := fun _ h => by cases h

theorem error {e : ε} (h : P e) : Raises P (.error e : Except ε α) := fun _ he => Except.error.inj he ▸ h

theorem ensure {condition : Bool} {e : ε} (h : P e) : Raises P (Fallible.ensure condition e) := by
  cases condition with
  | true => exact .ok ()
  | false => exact .error h

theorem demand {e : ε} (h : P e) (o : Option α) : Raises P (Fallible.demand e o) := by
  cases o with
  | none => exact .error h
  | some a => exact .ok a

theorem bind {x : Except ε α} {f : α → Except ε β} (hx : Raises P x) (hf : ∀ a, Raises P (f a)) :
    Raises P (x >>= f) := by
  intro e he
  rcases bind_eq_error_iff.mp he with he | ⟨a, -, he⟩
  · exact hx e he
  · exact hf a e he

theorem foldlM {f : σ → α → Except ε σ} (h : ∀ s a, Raises P (f s a)) : ∀ (l : List α) (s : σ), Raises P (l.foldlM f s)
  | [], s => .ok s
  | a :: l, s => by
    rw [List.foldlM_cons]
    exact (h s a).bind fun s' => foldlM h l s'

end Raises

end Excepts

end Fallible

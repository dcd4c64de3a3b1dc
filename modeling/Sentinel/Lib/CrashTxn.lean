/-
# Programs over a database that may die between transactions

A program reads the database and commits transactions. Its run is the states
it committed, in order, and how it ended. Killed at any moment it leaves the
last state it committed; so the states it may leave are the one it started
from and those it committed.

`Spec I P x Q`: from a state that satisfies `P`, every state the program
commits satisfies `I`, and if it returns `a` in state `t` then `Q a t`.
`Returns x s a t`: from `s` the program returns `a` in state `t`.

Key theorems: `Spec.bind`, `Spec.each`, `Spec.crash`, `Returns.each`, `Returns.bind_iff`,
`mem_log_bind_iff`.
-/
import Mathlib.Data.List.Forall2

/-- What a program commits from a state, and its result with the state it
ends in. -/
def CrashTxn (σ ε α : Type) : Type := σ → List σ × Except ε (α × σ)

namespace CrashTxn

variable {σ ε ε' α β : Type}

instance : Monad (CrashTxn σ ε) where
  pure a := fun s => ([], .ok (a, s))
  bind x f := fun s =>
    match x s with
    | (log, .error e) => (log, .error e)
    | (log, .ok (a, t)) => (log ++ (f a t).1, (f a t).2)

/-- A computation that only reads. -/
def read (f : σ → Except ε α) : CrashTxn σ ε α := fun s => ([], (f s).map fun a => (a, s))

/-- One transaction: it commits, or fails and changes nothing. -/
def commit (f : σ → Except ε (σ × α)) : CrashTxn σ ε α := fun s =>
  match f s with
  | .error e => ([], .error e)
  | .ok (t, a) => ([t], .ok (a, t))

/-- The same program with other errors. -/
def mapError (g : ε → ε') (x : CrashTxn σ ε α) : CrashTxn σ ε' α := fun s => ((x s).1, (x s).2.mapError g)

/-- A program on a part of the state. -/
def within {τ : Type} (part : σ → Except ε τ) (put : σ → τ → σ) (x : CrashTxn τ ε α) : CrashTxn σ ε α := fun s =>
  match part s with
  | .error e => ([], .error e)
  | .ok t => ((x t).1.map (put s), (x t).2.map fun r => (r.1, put s r.2))

/-- One program after the other, for each item. -/
def each (f : α → CrashTxn σ ε β) : List α → CrashTxn σ ε (List β)
  | [] => pure []
  | a :: items => do
    let b ← f a
    return b :: (← each f items)

/-- The states a program may leave when it is killed. -/
def crashStates (x : CrashTxn σ ε α) (s : σ) : List σ := s :: (x s).1

/-- **A checked transaction** fails and commits nothing, or commits one state. -/
theorem read_commit_cases (f : σ → Except ε α) (g : σ → Except ε (σ × β)) (s : σ) :
    (∃ error, (read f >>= fun _ => commit g) s = ([], .error error)) ∨
      ∃ a t b, (read f >>= fun _ => commit g) s = ([t], .ok (b, t)) ∧ f s = .ok a ∧ g s = .ok (t, b) := by
  simp only [Bind.bind, read, commit]
  cases hf : f s with
  | error error => exact .inl ⟨error, rfl⟩
  | ok a =>
    cases hg : g s with
    | error error =>
      refine .inl ⟨error, ?_⟩
      simp only [Except.map, hg, List.append_nil]
    | ok r =>
      obtain ⟨t, b⟩ := r
      refine .inr ⟨a, t, b, ?_, rfl, rfl⟩
      simp only [Except.map, hg, List.nil_append]

/-! ### Specifications -/

/-- From `P`, every committed state satisfies `I` and every result `Q`. -/
def Spec (I P : σ → Prop) (x : CrashTxn σ ε α) (Q : α → σ → Prop) : Prop :=
  ∀ s, P s → (∀ t ∈ (x s).1, I t) ∧ ∀ a t, (x s).2 = .ok (a, t) → Q a t

namespace Spec

variable {I P P' : σ → Prop} {Q Q' : α → σ → Prop} {R : β → σ → Prop}

theorem pure {a : α} (h : ∀ s, P s → Q a s) : Spec I P (Pure.pure a : CrashTxn σ ε α) Q := by
  intro s hs
  refine ⟨fun t ht => (List.not_mem_nil ht).elim, fun b t hb => ?_⟩
  obtain ⟨rfl, rfl⟩ := Prod.mk.inj (Except.ok.inj hb)
  exact h s hs

theorem bind {x : CrashTxn σ ε α} {f : α → CrashTxn σ ε β} (hx : Spec I P x Q)
    (hf : ∀ a, Spec I (Q a) (f a) R) : Spec I P (x >>= f) R := by
  intro s hs
  obtain ⟨hlog, hres⟩ := hx s hs
  show (∀ t ∈ ((match x s with
      | (log, .error e) => (log, .error e)
      | (log, .ok (a, t)) => (log ++ (f a t).1, (f a t).2)) : List σ × Except ε (β × σ)).1, I t) ∧ _
  cases hxs : x s with
  | mk log result =>
    rw [hxs] at hlog hres
    cases result with
    | error e =>
      refine ⟨hlog, fun b t hb => ?_⟩
      simp only [Bind.bind, hxs] at hb
      cases hb
    | ok r =>
      obtain ⟨a, t⟩ := r
      obtain ⟨hlog', hres'⟩ := hf a t (hres a t rfl)
      refine ⟨fun u hu => ?_, fun b u hb => ?_⟩
      · rcases List.mem_append.mp hu with hu | hu
        · exact hlog u hu
        · exact hlog' u hu
      · simp only [Bind.bind, hxs] at hb
        exact hres' b u hb

theorem read {f : σ → Except ε α} (h : ∀ s a, P s → f s = .ok a → Q a s) :
    Spec I P (CrashTxn.read f) Q := by
  intro s hs
  refine ⟨fun t ht => (List.not_mem_nil ht).elim, fun a t ha => ?_⟩
  simp only [CrashTxn.read] at ha
  cases hf : f s with
  | error e =>
    rw [hf] at ha
    cases ha
  | ok b =>
    rw [hf] at ha
    obtain ⟨rfl, rfl⟩ := Prod.mk.inj (Except.ok.inj ha)
    exact h s b hs hf

theorem commit {f : σ → Except ε (σ × α)} (h : ∀ s t a, P s → f s = .ok (t, a) → I t ∧ Q a t) :
    Spec I P (CrashTxn.commit f) Q := by
  intro s hs
  unfold CrashTxn.commit
  cases hf : f s with
  | error e => exact ⟨fun t ht => (List.not_mem_nil ht).elim, fun a t ha => nomatch ha⟩
  | ok r =>
    obtain ⟨t, a⟩ := r
    obtain ⟨hI, hQ⟩ := h s t a hs hf
    refine ⟨fun u hu => List.mem_singleton.mp hu ▸ hI, fun b u hb => ?_⟩
    obtain ⟨rfl, rfl⟩ := Prod.mk.inj (Except.ok.inj hb)
    exact hQ

/-- A computation that only reads keeps what holds. -/
theorem reads {f : σ → Except ε α} : Spec I P (CrashTxn.read f) fun _ => P :=
  read fun _ _ hs _ => hs

/-- A transaction that keeps the invariant. -/
theorem keeps {f : σ → Except ε (σ × α)} (h : ∀ s t a, P s → f s = .ok (t, a) → I t) :
    Spec I P (CrashTxn.commit f) fun _ => I :=
  commit fun s t a hs hf => ⟨h s t a hs hf, h s t a hs hf⟩

theorem mapError {g : ε → ε'} {x : CrashTxn σ ε α} (h : Spec I P x Q) :
    Spec I P (CrashTxn.mapError g x) Q := by
  intro s hs
  obtain ⟨hlog, hres⟩ := h s hs
  refine ⟨hlog, fun a t ha => hres a t ?_⟩
  simp only [CrashTxn.mapError] at ha
  cases hx : (x s).2 with
  | error e =>
    rw [hx] at ha
    cases ha
  | ok r =>
    rw [hx] at ha
    exact congrArg Except.ok (Except.ok.inj ha)

/-- A program on a part of the state does to the whole what it does to the part. -/
theorem within {τ : Type} {part : σ → Except ε τ} {put : σ → τ → σ} {x : CrashTxn τ ε α}
    (h : ∀ s t, P s → part s = .ok t →
      (∀ t' ∈ (x t).1, I (put s t')) ∧ ∀ a t', (x t).2 = .ok (a, t') → Q a (put s t')) :
    Spec I P (CrashTxn.within part put x) Q := by
  intro s hs
  unfold CrashTxn.within
  cases hpart : part s with
  | error e => exact ⟨fun t ht => (List.not_mem_nil ht).elim, fun a t ha => nomatch ha⟩
  | ok t =>
    obtain ⟨hlog, hres⟩ := h s t hs hpart
    refine ⟨fun s' hs' => ?_, fun a s' ha => ?_⟩
    · obtain ⟨t', ht', rfl⟩ := List.mem_map.mp hs'
      exact hlog t' ht'
    · dsimp only at ha
      cases hx : (x t).2 with
      | error e =>
        rw [hx] at ha
        cases ha
      | ok r =>
        rw [hx] at ha
        obtain ⟨rfl, rfl⟩ := Prod.mk.inj (Except.ok.inj ha)
        exact hres r.1 r.2 hx

theorem weaken {x : CrashTxn σ ε α} (h : Spec I P x Q) (hP : ∀ s, P' s → P s) (hQ : ∀ a s, Q a s → Q' a s) :
    Spec I P' x Q' :=
  fun s hs => ⟨(h s (hP s hs)).1, fun a t ha => hQ a t ((h s (hP s hs)).2 a t ha)⟩

/-- What is committed may be known to satisfy more. -/
theorem mono {I' : σ → Prop} {x : CrashTxn σ ε α} (h : Spec I P x Q) (hI : ∀ s, I s → I' s) : Spec I' P x Q :=
  fun s hs => ⟨fun t ht => hI t ((h s hs).1 t ht), (h s hs).2⟩

/-- A condition that does not depend on the state. -/
theorem assuming {p : Prop} {x : CrashTxn σ ε α} (h : p → Spec I P x Q) : Spec I (fun s => P s ∧ p) x Q :=
  fun s hs => h hs.2 s hs.1

/-- A program that is never reached. -/
theorem impossible {x : CrashTxn σ ε α} : Spec I (fun _ => False) x Q := fun _ hs => hs.elim

/-- **A program that cannot return fails**, and leaves what satisfies the invariant. -/
theorem fails {x : CrashTxn σ ε α} (h : Spec I P x fun _ _ => False) {s : σ} (hs : P s) (hI : I s) :
    (∀ t ∈ crashStates x s, I t) ∧ ∃ error, (x s).2 = .error error := by
  obtain ⟨hlog, hres⟩ := h s hs
  refine ⟨List.forall_mem_cons.mpr ⟨hI, hlog⟩, ?_⟩
  cases hx : (x s).2 with
  | error error => exact ⟨error, rfl⟩
  | ok r => exact (hres r.1 r.2 hx).elim

/-- A condition on what is left to do, and on the state. -/
theorem each {f : α → CrashTxn σ ε β} {L : List α → σ → Prop}
    (h : ∀ a items, Spec I (L (a :: items)) (f a) fun _ => L items) :
    ∀ items, Spec I (L items) (CrashTxn.each f items) fun _ => L []
  | [] => pure fun _ hs => hs
  | a :: items => bind (h a items) fun _ => bind (each h items) fun _ => pure fun _ hs => hs

/-- **Whenever the program is killed, what it leaves satisfies the invariant.** -/
theorem crash {x : CrashTxn σ ε α} (h : Spec I I x Q) {s t : σ} (hs : I s) (ht : t ∈ crashStates x s) :
    I t := by
  rcases List.mem_cons.mp ht with rfl | ht
  · exact hs
  · exact (h s hs).1 t ht

end Spec

/-! ### Programs that return -/

/-- Left to run from `s`, the program returns `a` in state `t`. -/
def Returns (x : CrashTxn σ ε α) (s : σ) (a : α) (t : σ) : Prop := (x s).2 = .ok (a, t)

namespace Returns

theorem pure (a : α) (s : σ) : Returns (Pure.pure a : CrashTxn σ ε α) s a s := rfl

theorem bind {x : CrashTxn σ ε α} {f : α → CrashTxn σ ε β} {s t u : σ} {a : α} {b : β} (hx : Returns x s a t)
    (hf : Returns (f a) t b u) : Returns (x >>= f) s b u := by
  unfold Returns at hx hf ⊢
  cases hxs : x s with
  | mk log result =>
    rw [hxs] at hx
    obtain rfl : result = .ok (a, t) := hx
    simp only [Bind.bind, hxs]
    exact hf

theorem read {f : σ → Except ε α} {s : σ} {a : α} (h : f s = .ok a) : Returns (CrashTxn.read f) s a s := by
  unfold Returns CrashTxn.read
  rw [h]
  rfl

theorem commit {f : σ → Except ε (σ × α)} {s t : σ} {a : α} (h : f s = .ok (t, a)) :
    Returns (CrashTxn.commit f) s a t := by
  unfold Returns CrashTxn.commit
  rw [h]

/-- A condition on what is left to do, and on the state, under which each
program returns. -/
theorem each {f : α → CrashTxn σ ε β} {L : List α → σ → Prop}
    (h : ∀ a items s, L (a :: items) s → ∃ b t, Returns (f a) s b t ∧ L items t) :
    ∀ items s, L items s → ∃ bs t, Returns (CrashTxn.each f items) s bs t ∧ L [] t
  | [], s, hs => ⟨[], s, pure [] s, hs⟩
  | a :: items, s, hs => by
    obtain ⟨b, t, hb, ht⟩ := h a items s hs
    obtain ⟨bs, u, hbs, hu⟩ := each h items t ht
    exact ⟨b :: bs, u, hb.bind (hbs.bind (pure (b :: bs) u)), hu⟩

/-! What a program that returned did. -/

theorem bind_iff {x : CrashTxn σ ε α} {f : α → CrashTxn σ ε β} {s u : σ} {b : β} :
    Returns (x >>= f) s b u ↔ ∃ a t, Returns x s a t ∧ Returns (f a) t b u := by
  constructor
  · intro h
    unfold Returns at h
    cases hx : x s with
    | mk log result =>
      cases result with
      | error e =>
        simp only [Bind.bind, hx] at h
        cases h
      | ok r =>
        simp only [Bind.bind, hx] at h
        exact ⟨r.1, r.2, congrArg Prod.snd hx, h⟩
  · rintro ⟨a, t, hx, hf⟩
    exact hx.bind hf

theorem pure_iff {a b : α} {s t : σ} : Returns (Pure.pure a : CrashTxn σ ε α) s b t ↔ a = b ∧ s = t := by
  constructor
  · intro h
    exact Prod.mk.inj (Except.ok.inj h)
  · rintro ⟨rfl, rfl⟩
    exact pure a s

theorem read_iff {f : σ → Except ε α} {s t : σ} {a : α} : Returns (CrashTxn.read f) s a t ↔ f s = .ok a ∧ s = t := by
  constructor
  · intro h
    unfold Returns CrashTxn.read at h
    cases hf : f s with
    | error e =>
      rw [hf] at h
      cases h
    | ok b =>
      rw [hf] at h
      obtain ⟨rfl, rfl⟩ := Prod.mk.inj (Except.ok.inj h)
      exact ⟨rfl, rfl⟩
  · rintro ⟨h, rfl⟩
    exact read h

theorem commit_iff {f : σ → Except ε (σ × α)} {s t : σ} {a : α} :
    Returns (CrashTxn.commit f) s a t ↔ f s = .ok (t, a) := by
  constructor
  · intro h
    unfold Returns CrashTxn.commit at h
    cases hf : f s with
    | error e =>
      rw [hf] at h
      cases h
    | ok r =>
      rw [hf] at h
      obtain ⟨rfl, rfl⟩ := Prod.mk.inj (Except.ok.inj h)
      rfl
  · exact commit

theorem mapError_iff {g : ε → ε'} {x : CrashTxn σ ε α} {s t : σ} {a : α} :
    Returns (CrashTxn.mapError g x) s a t ↔ Returns x s a t := by
  unfold Returns CrashTxn.mapError
  cases (x s).2 with
  | error e =>
    constructor <;> intro h <;> cases h
  | ok r => exact ⟨fun h => congrArg Except.ok (Except.ok.inj h), fun h => congrArg Except.ok (Except.ok.inj h)⟩

/-- What each program returns, and an invariant of what has been returned. -/
theorem of_each {f : α → CrashTxn σ ε β} {R : α → β → Prop} {I : List β → σ → Prop}
    (step : ∀ a done b s t, I done s → Returns (f a) s b t → R a b ∧ I (done ++ [b]) t) :
    ∀ {items : List α} (done : List β) {bs : List β} {s t : σ}, I done s → Returns (CrashTxn.each f items) s bs t →
      List.Forall₂ R items bs ∧ I (done ++ bs) t
  | [], done, bs, s, t, hs, h => by
    obtain ⟨rfl, rfl⟩ := pure_iff.mp h
    rw [List.append_nil]
    exact ⟨.nil, hs⟩
  | a :: items, done, bs, s, t, hs, h => by
    obtain ⟨b, u, hb, h⟩ := bind_iff.mp h
    obtain ⟨rest, v, hrest, h⟩ := bind_iff.mp h
    obtain ⟨rfl, rfl⟩ := pure_iff.mp h
    obtain ⟨hR, hu⟩ := step a done b s u hs hb
    obtain ⟨hall, hv⟩ := of_each step (done ++ [b]) hu hrest
    rw [List.append_assoc] at hv
    exact ⟨.cons hR hall, hv⟩

/-- What a program returns satisfies its specification. -/
theorem of_spec {I P : σ → Prop} {x : CrashTxn σ ε α} {Q : α → σ → Prop} (hx : Spec I P x Q) {s t : σ} {a : α}
    (hs : P s) (h : Returns x s a t) : Q a t :=
  (hx s hs).2 a t h

end Returns

/-! ### What a program may leave -/

/-- The states a program commits are those of its first part, and those of the
rest if the first part returns. -/
theorem mem_log_bind_iff {x : CrashTxn σ ε α} {f : α → CrashTxn σ ε β} {s t : σ} :
    t ∈ ((x >>= f) s).1 ↔ t ∈ (x s).1 ∨ ∃ a u, Returns x s a u ∧ t ∈ (f a u).1 := by
  unfold Returns
  cases hx : x s with
  | mk log result =>
    cases result with
    | error e =>
      simp only [Bind.bind, hx]
      constructor
      · exact .inl
      · rintro (h | ⟨_, _, h, -⟩)
        · exact h
        · cases h
    | ok r =>
      simp only [Bind.bind, hx, List.mem_append]
      refine or_congr_right ⟨fun h => ⟨r.1, r.2, rfl, h⟩, ?_⟩
      rintro ⟨a, u, h, hmem⟩
      obtain ⟨rfl, rfl⟩ := Prod.mk.inj (Except.ok.inj h)
      exact hmem

theorem not_mem_log_read {f : σ → Except ε α} {s t : σ} : t ∉ (CrashTxn.read f s).1 := List.not_mem_nil

theorem log_mapError (g : ε → ε') (x : CrashTxn σ ε α) (s : σ) : (CrashTxn.mapError g x s).1 = (x s).1 := rfl

theorem mem_log_commit_iff {f : σ → Except ε (σ × α)} {s t : σ} :
    t ∈ (CrashTxn.commit f s).1 ↔ ∃ a, f s = .ok (t, a) := by
  unfold commit
  cases f s with
  | error e => simp
  | ok r =>
    obtain ⟨u, a⟩ := r
    simp [eq_comm]

end CrashTxn

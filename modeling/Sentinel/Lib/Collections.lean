/-
# Ordered maps, seen sets, orderings

A map that iterates in key order, the "reject what was already inserted"
loop over a list, and sorting a list by a key.

Key theorems: `nodup_of_screen`, `orderBy_eq_self`, `pairwise_orderBy_place`.
-/
import Mathlib.Data.List.Induction
import Mathlib.Data.List.Perm.Basic
import Mathlib.Data.List.Sort
import Mathlib.Data.Prod.Lex
import Mathlib.Data.String.Basic

/-- A map from strings, its entries strictly sorted by key. -/
structure SortedMap (α : Type) where
  entries : List (String × α)
  sorted : (entries.map Prod.fst).Pairwise (· < ·)

namespace SortedMap

variable {α : Type}

def get? (m : SortedMap α) (key : String) : Option α :=
  (m.entries.find? (·.1 = key)).map Prod.snd

theorem mem_of_get? {m : SortedMap α} {key : String} {a : α} (h : m.get? key = some a) :
    (key, a) ∈ m.entries := by
  obtain ⟨e, he, rfl⟩ := Option.map_eq_some_iff.mp h
  have h1 := List.find?_some he
  have h2 := List.mem_of_find?_eq_some he
  simp only [decide_eq_true_eq] at h1
  rw [← h1]
  exact h2

end SortedMap

namespace Collections

section Screen

variable {α κ : Type} [DecidableEq κ]

/-- Each item with whether a loop rejects it by `bad item || !seen.insert(key item)`:
a bad item is not inserted. -/
def screen (bad : α → Bool) (key : α → κ) : (seen : List κ) → List α → List (α × Bool)
  | _, [] => []
  | seen, a :: items =>
    (a, bad a || seen.contains (key a)) :: screen bad key (if bad a then seen else key a :: seen) items

theorem screen_map_fst (bad : α → Bool) (key : α → κ) : ∀ (items : List α) (seen : List κ),
    (screen bad key seen items).map Prod.fst = items
  | [], _ => rfl
  | a :: items, seen => by simp [screen, screen_map_fst bad key items]

/-- If nothing is rejected then nothing is bad, and the keys are new and
pairwise distinct. -/
theorem screen_ok (bad : α → Bool) (key : α → κ) : ∀ (items : List α) (seen : List κ),
    (∀ e ∈ screen bad key seen items, e.2 = false) →
    (∀ a ∈ items, bad a = false ∧ key a ∉ seen) ∧ (items.map key).Nodup
  | [], _, _ => by simp
  | a :: items, seen, h => by
    simp only [screen, List.mem_cons, forall_eq_or_imp, Bool.or_eq_false_iff] at h
    obtain ⟨⟨hbad, hseen⟩, hrest⟩ := h
    rw [hbad] at hrest
    simp only [Bool.false_eq_true, ↓reduceIte] at hrest
    obtain ⟨h1, h2⟩ := screen_ok bad key items _ hrest
    have hseen' : key a ∉ seen := by simpa using hseen
    refine ⟨fun b hb => ?_, ?_⟩
    · rcases List.mem_cons.mp hb with rfl | hb
      · exact ⟨hbad, hseen'⟩
      · exact ⟨(h1 b hb).1, fun hm => (h1 b hb).2 (List.mem_cons_of_mem _ hm)⟩
    · rw [List.map_cons, List.nodup_cons]
      refine ⟨fun hm => ?_, h2⟩
      obtain ⟨b, hb, hk⟩ := List.mem_map.mp hm
      exact (h1 b hb).2 (hk ▸ List.mem_cons_self)

theorem nodup_of_screen {bad : α → Bool} {key : α → κ} {items : List α}
    (h : ∀ e ∈ screen bad key [] items, e.2 = false) :
    (∀ a ∈ items, bad a = false) ∧ (items.map key).Nodup :=
  ⟨fun a ha => ((screen_ok bad key items [] h).1 a ha).1, (screen_ok bad key items [] h).2⟩

/-- Nothing bad, with new distinct keys, is rejected. -/
theorem screen_of_ok (bad : α → Bool) (key : α → κ) : ∀ (items : List α) (seen : List κ),
    (∀ a ∈ items, bad a = false ∧ key a ∉ seen) → (items.map key).Nodup →
    ∀ e ∈ screen bad key seen items, e.2 = false
  | [], _, _, _ => by simp [screen]
  | a :: items, seen, h, hnodup => by
    obtain ⟨hbad, hnew⟩ := h a List.mem_cons_self
    rw [List.map_cons, List.nodup_cons] at hnodup
    intro e he
    rw [screen, hbad, List.mem_cons] at he
    rcases he with rfl | he
    · simpa using hnew
    · refine screen_of_ok bad key items (key a :: seen) (fun b hb => ?_) hnodup.2 e he
      obtain ⟨hbad', hnew'⟩ := h b (List.mem_cons_of_mem _ hb)
      refine ⟨hbad', fun hm => ?_⟩
      rcases List.mem_cons.mp hm with hsame | hm
      · exact hnodup.1 (hsame ▸ List.mem_map_of_mem hb)
      · exact hnew' hm

/-- **A loop rejects nothing** just when nothing is bad and the keys are distinct. -/
theorem forall_screen_iff {bad : α → Bool} {key : α → κ} {items : List α} :
    (∀ e ∈ screen bad key [] items, e.2 = false) ↔ (∀ a ∈ items, bad a = false) ∧ (items.map key).Nodup :=
  ⟨nodup_of_screen, fun h => screen_of_ok bad key items [] (fun a ha => ⟨h.1 a ha, List.not_mem_nil⟩) h.2⟩

theorem forall_screen_fst_iff {bad : α → Bool} {key : α → κ} {items : List α} {P : α → Prop} :
    (∀ e ∈ screen bad key [] items, P e.1) ↔ ∀ a ∈ items, P a := by
  constructor
  · intro h a ha
    rw [← screen_map_fst bad key items []] at ha
    obtain ⟨e, he, rfl⟩ := List.mem_map.mp ha
    exact h e he
  · intro h e he
    refine h e.1 ?_
    rw [← screen_map_fst bad key items []]
    exact List.mem_map_of_mem he

end Screen

/-- One more item keeps keys distinct if its key is new. -/
theorem nodup_map_concat_iff {α κ : Type} {key : α → κ} {items : List α} {last : α} :
    ((items ++ [last]).map key).Nodup ↔ (items.map key).Nodup ∧ ∀ a ∈ items, key a ≠ key last := by
  rw [List.map_append, List.map_singleton, ← List.concat_eq_append, List.nodup_concat, and_comm, List.mem_map]
  simp

/-- Of distinct keys, looking up an item's finds the item. -/
theorem find?_key_of_mem {α κ : Type} [DecidableEq κ] {key : α → κ} {items : List α} (h : (items.map key).Nodup) {a : α}
    (ha : a ∈ items) : items.find? (fun b => key b = key a) = some a := by
  cases hfind : items.find? fun b => key b = key a with
  | none => exact absurd (decide_eq_true rfl) (List.find?_eq_none.mp hfind a ha)
  | some b =>
    have hkey : key b = key a := by simpa using List.find?_some hfind
    rw [List.inj_on_of_nodup_map h (List.mem_of_find?_eq_some hfind) ha hkey]

section Order

variable {α κ : Type} [LinearOrder κ]

/-- A list sorted by a key; items of equal keys keep their order. -/
def orderBy (key : α → κ) (items : List α) : List α :=
  items.insertionSort fun a b => key a ≤ key b

theorem perm_orderBy (key : α → κ) (items : List α) : (orderBy key items).Perm items :=
  List.perm_insertionSort _ _

@[simp] theorem mem_orderBy {key : α → κ} {items : List α} {a : α} : a ∈ orderBy key items ↔ a ∈ items :=
  (perm_orderBy key items).mem_iff

theorem pairwise_orderBy (key : α → κ) (items : List α) :
    (orderBy key items).Pairwise fun a b => key a ≤ key b := by
  have : Std.Total fun a b : α => key a ≤ key b := ⟨fun a b => le_total (key a) (key b)⟩
  have : IsTrans α fun a b => key a ≤ key b := ⟨fun _ _ _ => le_trans⟩
  exact List.pairwise_insertionSort _ items

/-- Items of distinct keys are sorted strictly. -/
theorem pairwise_lt_orderBy {key : α → κ} {items : List α} (h : (items.map key).Nodup) :
    (orderBy key items).Pairwise fun a b => key a < key b := by
  have hdistinct : ((orderBy key items).map key).Nodup := (((perm_orderBy key items).map key).nodup_iff).mpr h
  exact ((pairwise_orderBy key items).and (List.pairwise_map.mp hdistinct)).imp fun hab => lt_of_le_of_ne hab.1 hab.2

/-- A list already in order is left as it is. -/
theorem orderBy_eq_self {key : α → κ} {items : List α}
    (h : items.Pairwise fun a b => key a ≤ key b) : orderBy key items = items :=
  List.Pairwise.insertionSort_eq h

/-- Of keys that differ there is one order. -/
theorem orderBy_eq_of_perm {key : α → κ} (hkey : Function.Injective key) {items items' : List α}
    (h : items.Perm items') : orderBy key items = orderBy key items' := by
  have hperm := calc (orderBy key items).Perm items := perm_orderBy key items
    List.Perm _ items' := h
    List.Perm _ (orderBy key items') := (perm_orderBy key items').symm
  exact List.Perm.eq_of_pairwise (fun _ _ _ _ hab hba => hkey (le_antisymm hab hba)) (pairwise_orderBy key items)
    (pairwise_orderBy key items') hperm

/-- Of items with distinct keys there is one order. -/
theorem orderBy_eq_of_nodup {key : α → κ} {items items' : List α} (h : items.Perm items')
    (distinct : (items'.map key).Nodup) : orderBy key items = orderBy key items' := by
  refine List.Perm.eq_of_pairwise (fun _ _ _ _ hab hba => absurd (hab.trans hba) (lt_irrefl _))
    (pairwise_lt_orderBy ((h.map key).nodup_iff.mpr distinct)) (pairwise_lt_orderBy distinct) ?_
  exact ((perm_orderBy key items).trans h).trans (perm_orderBy key items').symm

/-- Images with the same keys are sorted the same way. -/
theorem orderBy_map {β : Type} {key : α → κ} {key' : β → κ} {f : α → β} (h : ∀ a, key' (f a) = key a)
    (items : List α) : orderBy key' (items.map f) = (orderBy key items).map f := by
  refine (List.map_insertionSort _ _ f items fun a _ b _ => ?_).symm
  rw [h, h]

/-- Related items with the same keys are inserted at the same place. -/
theorem forall₂_orderedInsert {β : Type} {R : α → β → Prop} {key : α → κ} {key' : β → κ}
    (h : ∀ a b, R a b → key' b = key a) {a : α} {b : β} (hab : R a b) {l : List α} {r : List β}
    (hl : List.Forall₂ R l r) :
    List.Forall₂ R (l.orderedInsert (fun a b => key a ≤ key b) a) (r.orderedInsert (fun a b => key' a ≤ key' b) b) := by
  induction hl with
  | nil => exact .cons hab .nil
  | @cons c d l r hcd htail ih =>
    rw [List.orderedInsert_cons, List.orderedInsert_cons, h a b hab, h c d hcd]
    by_cases hle : key a ≤ key c
    · rw [if_pos hle, if_pos hle]
      exact .cons hab (.cons hcd htail)
    · rw [if_neg hle, if_neg hle]
      exact .cons hcd ih

/-- **Related items with the same keys are sorted the same way.** -/
theorem forall₂_orderBy {β : Type} {R : α → β → Prop} {key : α → κ} {key' : β → κ} (h : ∀ a b, R a b → key' b = key a)
    {l : List α} {r : List β} (hl : List.Forall₂ R l r) : List.Forall₂ R (orderBy key l) (orderBy key' r) := by
  induction hl with
  | nil => exact .nil
  | cons hab _ ih => exact forall₂_orderedInsert h hab ih

section Images

variable {β : Type} {key : α → κ} {key' : β → κ} {g : α → Option β}

/-- An image comes before the images of all that follows. -/
theorem orderedInsert_filterMap (h : ∀ a b, g a = some b → key' b = key a) {a : α} {image : β} (ha : g a = some image)
    {sorted : List α} (hle : ∀ c ∈ sorted, key a ≤ key c) :
    List.orderedInsert (fun a b => key' a ≤ key' b) image (sorted.filterMap g) = image :: sorted.filterMap g := by
  cases hmapped : sorted.filterMap g with
  | nil => rfl
  | cons next images =>
    have hnext : next ∈ sorted.filterMap g := hmapped ▸ List.mem_cons_self
    obtain ⟨c, hc, hnext⟩ := List.mem_filterMap.mp hnext
    rw [List.orderedInsert, if_pos]
    rw [h a image ha, h c next hnext]
    exact hle c hc

/-- Inserting, then taking images, is inserting the image, if there is one. -/
theorem filterMap_orderedInsert (h : ∀ a b, g a = some b → key' b = key a) (a : α) {sorted : List α}
    (hsorted : sorted.Pairwise fun a b => key a ≤ key b) :
    (List.orderedInsert (fun a b => key a ≤ key b) a sorted).filterMap g =
      (g a).elim (sorted.filterMap g) fun b =>
        List.orderedInsert (fun a b => key' a ≤ key' b) b (sorted.filterMap g) := by
  induction sorted with
  | nil => cases hg : g a <;> simp [hg]
  | cons c sorted ih =>
    by_cases hle : key a ≤ key c
    · have hall : ∀ d ∈ c :: sorted, key a ≤ key d := by
        intro d hd
        rcases List.mem_cons.mp hd with rfl | hd
        · exact hle
        · exact hle.trans (List.rel_of_pairwise_cons hsorted hd)
      rw [List.orderedInsert, if_pos hle, List.filterMap_cons]
      cases hg : g a with
      | none => rfl
      | some image => exact (orderedInsert_filterMap h hg hall).symm
    · rw [List.orderedInsert, if_neg hle, List.filterMap_cons, ih hsorted.of_cons]
      cases hc : g c with
      | none => rw [List.filterMap_cons_none hc]
      | some next =>
        rw [List.filterMap_cons_some hc]
        cases hg : g a with
        | none => rfl
        | some image =>
          rw [Option.elim_some, Option.elim_some, List.orderedInsert, if_neg]
          rwa [h a image hg, h c next hc]

/-- **Images of the same keys**, where there are any, are sorted the same way. -/
theorem orderBy_filterMap (h : ∀ a b, g a = some b → key' b = key a) (items : List α) :
    orderBy key' (items.filterMap g) = (orderBy key items).filterMap g := by
  induction items with
  | nil => rfl
  | cons a items ih =>
    refine Eq.trans ?_ (filterMap_orderedInsert h a (pairwise_orderBy key items)).symm
    rw [← ih]
    cases hg : g a with
    | none => rw [List.filterMap_cons_none hg, Option.elim_none]
    | some image =>
      rw [List.filterMap_cons_some hg, Option.elim_some]
      rfl

end Images

/-- Sorting a part of a list takes the part from the sorted list. -/
theorem orderBy_filter (key : α → κ) (p : α → Bool) (items : List α) :
    orderBy key (items.filter p) = (orderBy key items).filter p := by
  rw [← List.filterMap_eq_filter]
  refine orderBy_filterMap (fun a b hb => ?_) items
  rw [(Option.guard_eq_some_iff.mp hb).1]

/-- **A sorted list is known by its items of each key.** -/
theorem eq_of_filter_key {key : α → κ} : ∀ {items items' : List α}, (items.Pairwise fun a b => key a ≤ key b) →
    (items'.Pairwise fun a b => key a ≤ key b) →
    (∀ k, items.filter (key · = k) = items'.filter (key · = k)) → items = items'
  | [], items', _, _, h => by
    refine (List.eq_nil_iff_forall_not_mem.mpr fun a ha => ?_).symm
    have hnone := h (key a)
    rw [List.filter_nil, eq_comm, List.filter_eq_nil_iff] at hnone
    exact hnone a ha (by simp)
  | a :: items, [], _, _, h => by
    have hnone := h (key a)
    rw [List.filter_nil, List.filter_eq_nil_iff] at hnone
    exact absurd (decide_eq_true rfl) (hnone a List.mem_cons_self)
  | a :: items, b :: items', hs, hs', h => by
    -- each head is below the other, as both lists have it
    have hmem : ∀ k, (∃ c ∈ a :: items, key c = k) ↔ ∃ c ∈ b :: items', key c = k := fun k => by
      have hiff : ∀ l : List α, (∃ c ∈ l, key c = k) ↔ ∃ c, c ∈ l.filter (key · = k) := fun l => by
        simp only [List.mem_filter, decide_eq_true_eq]
      rw [hiff, hiff, h k]
    have hle : ∀ {c : α} {rest : List α}, ((c :: rest).Pairwise fun a b => key a ≤ key b) → ∀ d ∈ c :: rest, key c ≤ key d := by
      intro c rest hsorted d hd
      rcases List.mem_cons.mp hd with rfl | hd
      · exact le_rfl
      · exact List.rel_of_pairwise_cons hsorted hd
    obtain ⟨c, hc, hkey⟩ := (hmem (key a)).mp ⟨a, List.mem_cons_self, rfl⟩
    obtain ⟨d, hd, hkey'⟩ := (hmem (key b)).mpr ⟨b, List.mem_cons_self, rfl⟩
    have heq : key a = key b := le_antisymm (hkey' ▸ hle hs d hd) (hkey ▸ hle hs' c hc)
    have hhead := h (key a)
    rw [List.filter_cons_of_pos (by simp), List.filter_cons_of_pos (by simp [heq])] at hhead
    obtain ⟨rfl, -⟩ := List.cons.inj hhead
    have htail : ∀ k, items.filter (key · = k) = items'.filter (key · = k) := by
      intro k
      have hk := h k
      by_cases hka : key a = k
      · rw [List.filter_cons_of_pos (by simpa using hka), List.filter_cons_of_pos (by simpa using hka)] at hk
        exact (List.cons.inj hk).2
      · rwa [List.filter_cons_of_neg (by simpa using hka), List.filter_cons_of_neg (by simpa using hka)] at hk
    rw [eq_of_filter_key hs.of_cons hs'.of_cons htail]

/-- **Lists with the same items of each key are sorted alike.** -/
theorem orderBy_eq_of_filter {key : α → κ} {items items' : List α}
    (h : ∀ k, items.filter (key · = k) = items'.filter (key · = k)) : orderBy key items = orderBy key items' := by
  refine eq_of_filter_key (pairwise_orderBy key items) (pairwise_orderBy key items') fun k => ?_
  rw [← orderBy_filter, ← orderBy_filter, h]

/-- Images that are empty but for one are joined in any order. -/
theorem flatMap_eq_of_perm {β : Type} {f : α → List β} {items items' : List α} (h : items.Perm items')
    (alone : items.Pairwise fun a b => f a = [] ∨ f b = []) : items.flatMap f = items'.flatMap f := by
  induction h with
  | nil => rfl
  | cons a _ ih => rw [List.flatMap_cons, List.flatMap_cons, ih alone.of_cons]
  | swap a b rest =>
    have hone := List.rel_of_pairwise_cons alone List.mem_cons_self
    simp only [List.flatMap_cons]
    rcases hone with hb | ha
    · rw [hb, List.nil_append, List.nil_append]
    · rw [ha, List.nil_append, List.nil_append]
  | trans h _ ih ih' =>
    have hsymm : ∀ {a b : α}, f a = [] ∨ f b = [] → f b = [] ∨ f a = [] := Or.symm
    exact (ih alone).trans (ih' ((h.pairwise_iff hsymm).mp alone))
/-- The last of the greatest items is sorted last. -/
theorem orderBy_concat (key : α → κ) {items : List α} {last : α} (h : ∀ a ∈ items, key a ≤ key last) :
    orderBy key (items ++ [last]) = orderBy key items ++ [last] := by
  have hinsert : ∀ (a : α) (sorted : List α), key a ≤ key last →
      List.orderedInsert (fun a b => key a ≤ key b) a (sorted ++ [last]) =
        List.orderedInsert (fun a b => key a ≤ key b) a sorted ++ [last] := by
    intro a sorted ha
    induction sorted with
    | nil => simp [ha]
    | cons b sorted ih =>
      rw [List.cons_append, List.orderedInsert, List.orderedInsert, ih]
      split <;> rfl
  induction items with
  | nil => rfl
  | cons a items ih =>
    have ih := ih fun b hb => h b (List.mem_cons_of_mem _ hb)
    unfold orderBy at ih ⊢
    rw [List.cons_append, List.insertionSort_cons, List.insertionSort_cons, ih, hinsert a _ (h a List.mem_cons_self)]

/-- **Sorting keeps the places of equal items**: the sorted list is in the order
of the keys, then of the places. -/
theorem pairwise_orderBy_place {ι : Type} [LinearOrder ι] (key : α → κ) {place : α → ι} : ∀ {items : List α},
    (items.Pairwise fun a b => place a < place b) →
    (orderBy key items).Pairwise fun a b => toLex (key a, place a) < toLex (key b, place b)
  | [], _ => .nil
  | a :: items, h => by
    have hfirst : ∀ b ∈ orderBy key items, place a < place b := fun b hb => List.rel_of_pairwise_cons h (mem_orderBy.mp hb)
    have ih := pairwise_orderBy_place key h.of_cons
    show (List.orderedInsert (fun a b => key a ≤ key b) a (orderBy key items)).Pairwise _
    generalize orderBy key items = sorted at hfirst ih
    induction sorted with
    | nil => exact List.pairwise_singleton ..
    | cons b sorted insert =>
      rw [List.orderedInsert]
      by_cases hle : key a ≤ key b
      · rw [if_pos hle]
        have hab : toLex (key a, place a) < toLex (key b, place b) := by
          rw [Prod.Lex.toLex_lt_toLex]
          exact (lt_or_eq_of_le hle).imp id fun heq => ⟨heq, hfirst b List.mem_cons_self⟩
        refine List.pairwise_cons.mpr ⟨fun c hc => ?_, ih⟩
        rcases List.mem_cons.mp hc with rfl | hc
        · exact hab
        · exact hab.trans (List.rel_of_pairwise_cons ih hc)
      · rw [if_neg hle]
        refine List.pairwise_cons.mpr ⟨fun c hc => ?_, insert (fun c hc => hfirst c (List.mem_cons_of_mem _ hc)) ih.of_cons⟩
        rcases List.mem_cons.mp ((List.perm_orderedInsert ..).mem_iff.mp hc) with rfl | hc
        · exact Prod.Lex.toLex_lt_toLex.mpr (.inl (not_le.mp hle))
        · exact List.rel_of_pairwise_cons ih hc

/-- Two places that follow a list order its items alike. -/
theorem place_lt_place {ι ι' : Type} [LinearOrder ι] [LinearOrder ι'] {place : α → ι} {place' : α → ι'} {items : List α}
    (h : items.Pairwise fun a b => place a < place b) (h' : items.Pairwise fun a b => place' a < place' b) {a b : α}
    (ha : a ∈ items) (hb : b ∈ items) : place a < place b ↔ place' a < place' b := by
  have hself : ∀ a ∈ items, (place a < place a ↔ place' a < place' a) := fun a _ =>
    iff_of_false (lt_irrefl _) (lt_irrefl _)
  have hforward : items.Pairwise fun a b => (place a < place b ↔ place' a < place' b) :=
    (h.and h').imp fun hlt => iff_of_true hlt.1 hlt.2
  have hback : items.Pairwise (flip fun a b => (place a < place b ↔ place' a < place' b)) :=
    (h.and h').imp fun hlt => iff_of_false hlt.1.not_gt hlt.2.not_gt
  exact List.Pairwise.forall_of_forall_of_flip hself hforward hback ha hb

/-- A key's index follows a list of distinct keys. -/
theorem pairwise_findIdx {ι : Type} [DecidableEq ι] {key : α → ι} {items : List α} (h : (items.map key).Nodup) :
    items.Pairwise fun a b => items.findIdx (key · = key a) < items.findIdx (key · = key b) := by
  have hindex : ∀ i (hi : i < items.length), items.findIdx (key · = key items[i]) = i := by
    intro i hi
    refine (List.findIdx_eq hi).mpr ⟨decide_eq_true rfl, fun j hj => decide_eq_false fun heq => ?_⟩
    have hi : i < (items.map key).length := by rwa [List.length_map]
    have hlt : j < (items.map key).length := hj.trans hi
    have hsame : (items.map key)[j] = (items.map key)[i] := by
      rw [List.getElem_map, List.getElem_map]
      exact heq
    exact absurd ((h.getElem_inj_iff).mp hsame) (by omega)
  refine List.pairwise_iff_getElem.mpr fun i j hi hj hij => ?_
  rw [hindex i hi, hindex j hj]
  exact hij

end Order

/-! ### Maps built by insertion -/

section Insertion

variable {α : Type}

/-- Sets the value at a key of a list sorted by key, from the value there. -/
def upsert (key : String) (f : Option α → α) : List (String × α) → List (String × α)
  | [] => [(key, f none)]
  | (k, a) :: rest =>
    if key < k then (key, f none) :: (k, a) :: rest
    else if key = k then (k, f (some a)) :: rest
    else (k, a) :: upsert key f rest

theorem perm_upsert {key : String} {f : Option α → α} : ∀ {map : List (String × α)}, (∀ entry ∈ map, entry.1 ≠ key) →
    (upsert key f map).Perm ((key, f none) :: map)
  | [], _ => .refl _
  | (k, a) :: rest, h => by
    rw [upsert]
    split
    · exact .refl _
    · rw [if_neg (h (k, a) List.mem_cons_self).symm]
      have ih := perm_upsert (f := f) fun entry hentry => h entry (List.mem_cons_of_mem _ hentry)
      exact (ih.cons _).trans (.swap _ _ _)

/-- The keys of a map are in order. -/
def Sorted (map : List (String × α)) : Prop := map.Pairwise fun a b => a.1 < b.1

theorem mem_upsert {key : String} {f : Option α → α} : ∀ {map : List (String × α)} {entry : String × α},
    entry ∈ upsert key f map → entry.1 = key ∨ entry ∈ map
  | [], entry, h => by
    rw [upsert, List.mem_singleton] at h
    exact .inl (congrArg Prod.fst h)
  | (k, a) :: rest, entry, h => by
    rw [upsert] at h
    by_cases hlt : key < k
    · rw [if_pos hlt] at h
      rcases List.mem_cons.mp h with rfl | h
      · exact .inl rfl
      · exact .inr h
    · rw [if_neg hlt] at h
      by_cases heq : key = k
      · rw [if_pos heq] at h
        rcases List.mem_cons.mp h with rfl | h
        · exact .inl heq.symm
        · exact .inr (List.mem_cons_of_mem _ h)
      · rw [if_neg heq] at h
        rcases List.mem_cons.mp h with rfl | h
        · exact .inr List.mem_cons_self
        · exact (mem_upsert h).imp id (List.mem_cons_of_mem _)

theorem Sorted.upsert {key : String} {f : Option α → α} : ∀ {map : List (String × α)}, Sorted map →
    Sorted (upsert key f map)
  | [], _ => List.pairwise_singleton ..
  | (k, a) :: rest, h => by
    obtain ⟨hfirst, hrest⟩ := List.pairwise_cons.mp h
    rw [Collections.upsert]
    by_cases hlt : key < k
    · rw [if_pos hlt]
      refine List.pairwise_cons.mpr ⟨fun entry hentry => ?_, h⟩
      rcases List.mem_cons.mp hentry with rfl | hentry
      · exact hlt
      · exact lt_trans hlt (hfirst entry hentry)
    · rw [if_neg hlt]
      by_cases heq : key = k
      · rw [if_pos heq]
        exact List.pairwise_cons.mpr ⟨hfirst, hrest⟩
      · rw [if_neg heq]
        refine List.pairwise_cons.mpr ⟨fun entry hentry => ?_, Sorted.upsert hrest⟩
        rcases mem_upsert hentry with rfl | hentry
        · exact lt_of_le_of_ne (not_lt.mp hlt) (Ne.symm heq)
        · exact hfirst entry hentry

theorem lookup_eq_none_of_lt {key : String} {map : List (String × α)} (h : ∀ entry ∈ map, key < entry.1) :
    map.lookup key = none := by
  rw [List.lookup_eq_none_iff]
  intro entry hentry
  simpa using (h entry hentry).ne

theorem lookup_cons_eq (key k : String) (a : α) (rest : List (String × α)) :
    ((k, a) :: rest).lookup key = if key = k then some a else rest.lookup key := by
  by_cases hk : key = k
  · rw [if_pos hk, hk, List.lookup_cons_self]
  · have hbeq : (key == k) = false := by simpa using hk
    rw [if_neg hk, List.lookup_cons, hbeq]

/-- **What is found in a map after its entry at a key is set.** -/
theorem lookup_upsert {key : String} {f : Option α → α} (k : String) : ∀ {map : List (String × α)}, Sorted map →
    (upsert key f map).lookup k = if k = key then some (f (map.lookup key)) else map.lookup k
  | [], _ => by rw [upsert, lookup_cons_eq, List.lookup_nil, List.lookup_nil]
  | (first, a) :: rest, h => by
    obtain ⟨hfirst, hrest⟩ := List.pairwise_cons.mp h
    rw [upsert]
    by_cases hlt : key < first
    · have hnone : ((first, a) :: rest).lookup key = none := lookup_eq_none_of_lt fun entry hentry => by
        rcases List.mem_cons.mp hentry with rfl | hentry
        · exact hlt
        · exact lt_trans hlt (hfirst entry hentry)
      rw [if_pos hlt, hnone, lookup_cons_eq]
    · rw [if_neg hlt]
      by_cases heq : key = first
      · rw [if_pos heq, ← heq, lookup_cons_eq, lookup_cons_eq, lookup_cons_eq, if_pos rfl]
        by_cases hk : k = key
        · rw [if_pos hk, if_pos hk]
        · rw [if_neg hk, if_neg hk, if_neg hk]
      · rw [if_neg heq, lookup_cons_eq, lookup_cons_eq, lookup_cons_eq, if_neg heq, lookup_upsert k hrest]
        by_cases hk : k = first
        · rw [if_pos hk, if_pos hk, if_neg fun hkey => heq (hkey.symm.trans hk)]
        · rw [if_neg hk, if_neg hk]

theorem mem_iff_lookup {key : String} {a : α} : ∀ {map : List (String × α)}, Sorted map →
    ((key, a) ∈ map ↔ map.lookup key = some a)
  | [], _ => by simp
  | (first, b) :: rest, h => by
    obtain ⟨hfirst, hrest⟩ := List.pairwise_cons.mp h
    rw [List.mem_cons, lookup_cons_eq, mem_iff_lookup hrest]
    by_cases hk : key = first
    · have hnone : rest.lookup key = none := lookup_eq_none_of_lt fun entry hentry => hk ▸ hfirst entry hentry
      rw [if_pos hk, hnone, hk]
      simp [eq_comm]
    · rw [if_neg hk]
      simp [hk]

/-- The map a list of entries collects into: the last entry of a key stays. -/
def collect (entries : List (String × α)) : List (String × α) :=
  entries.foldl (fun map (key, a) => upsert key (fun _ => a) map) []

/-- What holds of the value and of the other entries holds of every entry. -/
theorem forall_upsert {p : α → Prop} {key : String} {a : α} (ha : p a) : ∀ {map : List (String × α)},
    (∀ entry ∈ map, p entry.2) → ∀ entry ∈ upsert key (fun _ => a) map, p entry.2
  | [], _ => by
    intro entry h
    rw [upsert, List.mem_singleton] at h
    exact h ▸ ha
  | (k, b) :: rest, hall => by
    obtain ⟨hb, hrest⟩ := List.forall_mem_cons.mp hall
    rw [upsert]
    split
    · exact List.forall_mem_cons.mpr ⟨ha, hall⟩
    · split
      · exact List.forall_mem_cons.mpr ⟨ha, hrest⟩
      · exact List.forall_mem_cons.mpr ⟨hb, forall_upsert ha hrest⟩

theorem forall_collect {p : α → Prop} {entries : List (String × α)} (h : ∀ entry ∈ entries, p entry.2) :
    ∀ entry ∈ collect entries, p entry.2 := by
  unfold collect
  generalize hstart : ([] : List (String × α)) = map
  have hmap : ∀ entry ∈ map, p entry.2 := by simp [← hstart]
  clear hstart
  induction entries generalizing map with
  | nil => exact hmap
  | cons entry entries ih =>
    obtain ⟨hentry, hentries⟩ := List.forall_mem_cons.mp h
    exact ih hentries _ (forall_upsert hentry hmap)

/-- The last item that satisfies `p`, as looked up in a map the items were
collected into. -/
def findLast (p : α → Bool) (items : List α) : Option α := items.reverse.find? p

/-- **What is found last**: in a list in some order, nothing that satisfies `p`
comes after it. -/
theorem findLast_eq_some {p : α → Bool} {R : α → α → Prop} {items : List α} {last : α} (hsorted : items.Pairwise R)
    (h : findLast p items = some last) : last ∈ items ∧ p last ∧ ∀ a ∈ items, p a → a = last ∨ R a last := by
  obtain ⟨hlast, before, after, hsplit, hbefore⟩ := List.find?_eq_some_iff_append.mp h
  have hitems : items = after.reverse ++ last :: before.reverse := by
    rw [← List.reverse_reverse items, hsplit]
    simp
  rw [hitems] at hsorted ⊢
  refine ⟨by simp, hlast, fun a ha hp => ?_⟩
  rcases List.mem_append.mp ha with ha | ha
  · exact .inr ((List.pairwise_append.mp hsorted).2.2 a ha last List.mem_cons_self)
  · rcases List.mem_cons.mp ha with rfl | ha
    · exact .inl rfl
    · have hnot := hbefore a (List.mem_reverse.mp ha)
      rw [hp] at hnot
      cases hnot

/-- By distinct keys, the item of a key is found. -/
theorem findLast_key_eq_some_iff {κ : Type} [DecidableEq κ] {key : α → κ} {items : List α}
    (h : (items.map key).Nodup) {k : κ} {a : α} : findLast (fun b => key b = k) items = some a ↔ a ∈ items ∧ key a = k := by
  have hreverse : (items.reverse.map key).Nodup := by rwa [List.map_reverse, List.nodup_reverse]
  constructor
  · intro hfind
    exact ⟨List.mem_reverse.mp (List.mem_of_find?_eq_some hfind), by simpa using List.find?_some hfind⟩
  · rintro ⟨ha, rfl⟩
    exact find?_key_of_mem hreverse (List.mem_reverse.mpr ha)

theorem findLast_isSome_iff {p : α → Bool} {items : List α} : (findLast p items).isSome ↔ ∃ a ∈ items, p a := by
  rw [findLast, List.find?_isSome]
  simp

/-- Where there are images, they are those of a total function. -/
theorem filterMap_eq_map_filter {β : Type} {g : α → Option β} {f : α → β} (h : ∀ a, (g a).isSome → g a = some (f a))
    (items : List α) : items.filterMap g = (items.filter fun a => (g a).isSome).map f := by
  induction items with
  | nil => rfl
  | cons a items ih =>
    by_cases ha : (g a).isSome
    · rw [List.filter_cons, if_pos ha, List.filterMap_cons_some (h a ha), List.map_cons, ih]
    · rw [List.filter_cons, if_neg ha, List.filterMap_cons_none (by simpa using ha), ih]

/-- The last of the greatest items. -/
def maxBy (le : α → α → Bool) : List α → Option α
  | [] => none
  | a :: items => some (items.foldl (fun best b => if le best b then b else best) a)

/-- **What is greatest**: nothing exceeds it. -/
theorem maxBy_eq_some (le : α → α → Bool) (refl : ∀ a, le a a) (total : ∀ a b, le a b = false → le b a)
    (trans : ∀ a b c, le a b → le b c → le a c) {items : List α} {best : α} (h : maxBy le items = some best) :
    best ∈ items ∧ ∀ a ∈ items, le a best := by
  cases items with
  | nil => cases h
  | cons first rest =>
    obtain rfl := Option.some.inj h
    induction rest using List.reverseRecOn with
    | nil => exact ⟨List.mem_cons_self, fun a ha => List.mem_singleton.mp ha ▸ refl first⟩
    | append_singleton rest last ih =>
      obtain ⟨hmem, hbest⟩ := ih rfl
      rw [List.foldl_append, List.foldl_cons, List.foldl_nil]
      generalize rest.foldl (fun best b => if le best b then b else best) first = best at hmem hbest ⊢
      have hcons : ∀ a, a ∈ first :: (rest ++ [last]) ↔ a ∈ first :: rest ∨ a = last := by
        intro a
        simp only [List.mem_cons, List.mem_append, List.not_mem_nil, or_false, or_assoc]
      by_cases hlast : le best last = true
      · rw [if_pos hlast]
        refine ⟨(hcons last).mpr (.inr rfl), fun a ha => ?_⟩
        rcases (hcons a).mp ha with ha | rfl
        · exact trans a best last (hbest a ha) hlast
        · exact refl a
      · rw [if_neg hlast]
        refine ⟨(hcons best).mpr (.inl hmem), fun a ha => ?_⟩
        rcases (hcons a).mp ha with ha | rfl
        · exact hbest a ha
        · exact total best a (by simpa using hlast)

theorem maxBy_eq_none_iff {le : α → α → Bool} {items : List α} : maxBy le items = none ↔ items = [] := by
  cases items <;> simp [maxBy]

/-- **The first item that reaches a bound**, in a list whose items grow by at
most `gap`: it is the list's first item, or it exceeds the bound by less. -/
theorem head?_filter_reaching {gap bound : ℤ} : ∀ {first : ℤ} {items : List ℤ},
    (first :: items).IsChain (fun a b => b ≤ a + gap) → (∃ item ∈ first :: items, bound ≤ item) →
    ∃ reached, ((first :: items).filter (bound ≤ ·)).head? = some reached ∧ (reached = first ∨ reached < bound + gap)
  | first, [], _, ⟨item, hitem, hbound⟩ => by
    obtain rfl := List.mem_singleton.mp hitem
    exact ⟨item, by simp [hbound], .inl rfl⟩
  | first, next :: items, hgaps, ⟨item, hitem, hbound⟩ => by
    by_cases hfirst : bound ≤ first
    · exact ⟨first, by rw [List.filter_cons_of_pos (by simpa using hfirst)]; rfl, .inl rfl⟩
    · have hrest : ∃ item ∈ next :: items, bound ≤ item := by
        refine ⟨item, (List.mem_cons.mp hitem).resolve_left ?_, hbound⟩
        rintro rfl
        exact hfirst hbound
      obtain ⟨hnext, hgaps⟩ := List.isChain_cons_cons.mp hgaps
      obtain ⟨reached, hreached, hnear⟩ := head?_filter_reaching hgaps hrest
      refine ⟨reached, by rw [List.filter_cons_of_neg (by simpa using hfirst), hreached], .inr ?_⟩
      rcases hnear with rfl | hnear
      · omega
      · exact hnear

section Buckets

variable {β κ : Type} [DecidableEq κ] {key : α → Option κ} {g : κ → α → Option β} {buckets : List κ}

/-- One of the buckets is an item's own. -/
theorem flatMap_bucket (hnodup : buckets.Nodup) {a : α} (h : ∀ bucket, key a = some bucket → bucket ∈ buckets) :
    (buckets.flatMap fun bucket => (if key a = some bucket then g bucket a else none).toList) =
      ((key a).bind fun bucket => g bucket a).toList := by
  cases hkey : key a with
  | none => simp
  | some own =>
    have hown := h own hkey
    clear h
    induction buckets with
    | nil => cases hown
    | cons bucket buckets ih =>
      obtain ⟨hnew, hnodup⟩ := List.nodup_cons.mp hnodup
      rw [List.flatMap_cons]
      by_cases hsame : own = bucket
      · subst hsame
        have hrest : (buckets.flatMap fun bucket => (if some own = some bucket then g bucket a else none).toList) = [] := by
          refine List.flatMap_eq_nil_iff.mpr fun other hother => ?_
          have hne : some own ≠ some other := fun he => hnew (Option.some.inj he ▸ hother)
          rw [if_neg hne]
          rfl
        rw [if_pos rfl, hrest, List.append_nil]
        rfl
      · rw [if_neg (by simpa using hsame), ih hnodup ((List.mem_cons.mp hown).resolve_left hsame)]
        rfl

/-- **Sorting into buckets loses nothing and doubles nothing.** -/
theorem perm_flatMap_buckets (hnodup : buckets.Nodup) (h : ∀ a bucket, key a = some bucket → bucket ∈ buckets)
    (items : List α) :
    (buckets.flatMap fun bucket => items.filterMap fun a => if key a = some bucket then g bucket a else none).Perm
      (items.filterMap fun a => (key a).bind fun bucket => g bucket a) := by
  induction items with
  | nil => simp
  | cons a items ih =>
    have hsplit : ∀ p : α → Option β, (a :: items).filterMap p = (p a).toList ++ items.filterMap p := by
      intro p
      cases hp : p a <;> simp [hp]
    simp only [hsplit]
    refine (List.flatMap_append_perm buckets _ _).symm.trans (.append (.of_eq ?_) ih)
    exact flatMap_bucket hnodup (h a)

end Buckets

/-- Each item with its successor. -/
def pairs (items : List α) : List (α × α) := items.zip items.tail

theorem pairs_cons_cons (a b : α) (items : List α) : pairs (a :: b :: items) = (a, b) :: pairs (b :: items) := rfl

/-- One more item is paired with the last. -/
theorem pairs_concat (last : α) : ∀ items : List α,
    pairs (items ++ [last]) = pairs items ++ (items.getLast?.map fun previous => (previous, last)).toList
  | [] => rfl
  | [a] => rfl
  | a :: b :: items => by
    show (a, b) :: pairs ((b :: items) ++ [last]) = (a, b) :: (pairs (b :: items) ++ _)
    rw [pairs_concat last (b :: items), List.getLast?_cons_cons]

/-- **A cut loses no pair that counts**: in a list that satisfies `p` once it
has begun to, the pairs that begin outside `p` map to nothing. -/
theorem filterMap_pairs_filter {β : Type} {g : α × α → Option β} {p : α → Bool} (hg : ∀ a b, p a = false → g (a, b) = none) :
    ∀ {items : List α}, items.Pairwise (fun a b => p a → p b) →
      (pairs (items.filter p)).filterMap g = (pairs items).filterMap g
  | [], _ => rfl
  | [a], _ => by
    by_cases ha : p a <;> simp [ha, pairs]
  | a :: b :: items, h => by
    obtain ⟨hfirst, hrest⟩ := List.pairwise_cons.mp h
    by_cases ha : p a = true
    · rw [List.filter_eq_self.mpr fun c hc => ?_]
      rcases List.mem_cons.mp hc with rfl | hc
      · exact ha
      · exact hfirst c hc ha
    · rw [List.filter_cons_of_neg ha, filterMap_pairs_filter hg hrest, pairs_cons_cons, List.filterMap_cons_none]
      exact hg a b (by simpa using ha)

/-- **As many pairs rise as there is room**: in a list in order, whose items are
at least `low` and at most `high`. -/
theorem countP_pairs_lt_le {time : α → ℤ} {low high : ℤ} : ∀ {items : List α},
    items.Pairwise (fun a b => time a ≤ time b) → (∀ a ∈ items, low ≤ time a ∧ time a ≤ high) → low ≤ high →
    ((pairs items).countP (fun pair => time pair.1 < time pair.2) : ℤ) ≤ high - low
  | [], _, _, hroom => by simpa [pairs] using hroom
  | [a], _, _, hroom => by simpa [pairs] using hroom
  | a :: b :: items, hsorted, hrange, hroom => by
    have hab := List.rel_of_pairwise_cons hsorted List.mem_cons_self
    have ha := hrange a List.mem_cons_self
    have hb := hrange b (List.mem_cons_of_mem _ List.mem_cons_self)
    have hrest : ((pairs (b :: items)).countP (fun pair => time pair.1 < time pair.2) : ℤ) ≤ high - time b := by
      refine countP_pairs_lt_le hsorted.of_cons (fun c hc => ⟨?_, (hrange c (List.mem_cons_of_mem _ hc)).2⟩) hb.2
      rcases List.mem_cons.mp hc with rfl | hc
      · exact le_rfl
      · exact List.rel_of_pairwise_cons hsorted.of_cons hc
    rw [pairs_cons_cons, List.countP_cons]
    push_cast
    by_cases hrises : time a < time b
    · simp only [hrises, decide_true, if_true]
      omega
    · simp only [hrises, decide_false, Bool.false_eq_true, if_false]
      omega

end Insertion

end Collections

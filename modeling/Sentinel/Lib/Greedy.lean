/-
# Greedy packing

Items go one after the other into the batch being filled until one does not
fit, which opens the next batch. A batch's items are joined by separators of
length one, and its joined length may reach the limit.

Key theorems: `flatten_pack`, `joined_le_of_mem_pack`, `isChain_pack`.
-/
import Mathlib.Data.List.Chain
import Mathlib.Algebra.BigOperators.Group.List.Basic
import Mathlib.Tactic.Linarith

namespace Greedy

variable {α : Type} (size : α → ℕ) (limit : ℕ)

/-- The length of items joined by separators of length one. -/
def joined (batch : List α) : ℕ := (batch.map size).sum + (batch.length - 1)

/-- The batches of what is in the batch being filled and of the items to come. -/
def fill (batch : List α) : List α → List (List α)
  | [] => [batch]
  | a :: items =>
    if limit < joined size batch + 1 + size a then batch :: fill [a] items else fill (batch ++ [a]) items

/-- The batches of a list of items. -/
def pack : List α → List (List α)
  | [] => []
  | a :: items => fill size limit [a] items

@[simp] theorem joined_nil : joined size [] = 0 := rfl

@[simp] theorem joined_singleton (a : α) : joined size [a] = size a := by simp [joined]

theorem joined_concat {batch : List α} (h : batch ≠ []) (a : α) :
    joined size (batch ++ [a]) = joined size batch + 1 + size a := by
  have hpos := List.length_pos_iff.mpr h
  simp only [joined, List.map_append, List.map_singleton, List.sum_append, List.sum_singleton, List.length_append,
    List.length_singleton]
  omega

/-! ### Filling -/

theorem flatten_fill : ∀ items batch : List α, (fill size limit batch items).flatten = batch ++ items
  | [], batch => by simp [fill]
  | a :: items, batch => by
    unfold fill
    by_cases hfull : limit < joined size batch + 1 + size a
    · rw [if_pos hfull, List.flatten_cons, flatten_fill items [a]]
      rfl
    · rw [if_neg hfull, flatten_fill items (batch ++ [a]), List.append_assoc]
      rfl

/-- The first batch begins with what was in it. -/
theorem fill_eq_cons : ∀ items batch : List α, ∃ more rest, fill size limit batch items = (batch ++ more) :: rest
  | [], batch => ⟨[], [], by simp [fill]⟩
  | a :: items, batch => by
    unfold fill
    by_cases hfull : limit < joined size batch + 1 + size a
    · exact ⟨[], fill size limit [a] items, by rw [if_pos hfull, List.append_nil]⟩
    · obtain ⟨more, rest, hmore⟩ := fill_eq_cons items (batch ++ [a])
      exact ⟨a :: more, rest, by rw [if_neg hfull, hmore, List.append_assoc]; rfl⟩

theorem ne_nil_of_mem_fill : ∀ {items batch : List α}, batch ≠ [] → ∀ b ∈ fill size limit batch items, b ≠ []
  | [], batch, h, b, hb => by
    rw [fill, List.mem_singleton] at hb
    rwa [hb]
  | a :: items, batch, h, b, hb => by
    unfold fill at hb
    by_cases hfull : limit < joined size batch + 1 + size a
    · rw [if_pos hfull] at hb
      rcases List.mem_cons.mp hb with rfl | hb
      · exact h
      · exact ne_nil_of_mem_fill (List.cons_ne_nil a []) b hb
    · rw [if_neg hfull] at hb
      exact ne_nil_of_mem_fill (by simp) b hb

theorem joined_le_of_mem_fill : ∀ {items batch : List α}, batch ≠ [] → joined size batch ≤ limit →
    (∀ a ∈ items, size a ≤ limit) → ∀ b ∈ fill size limit batch items, joined size b ≤ limit
  | [], batch, _, h, _, b, hb => by
    rw [fill, List.mem_singleton] at hb
    rwa [hb]
  | a :: items, batch, hne, h, hitems, b, hb => by
    have hrest : ∀ a ∈ items, size a ≤ limit := fun a ha => hitems a (List.mem_cons_of_mem _ ha)
    unfold fill at hb
    by_cases hfull : limit < joined size batch + 1 + size a
    · rw [if_pos hfull] at hb
      rcases List.mem_cons.mp hb with rfl | hb
      · exact h
      · refine joined_le_of_mem_fill (List.cons_ne_nil a []) ?_ hrest b hb
        rw [joined_singleton]
        exact hitems a List.mem_cons_self
    · rw [if_neg hfull] at hb
      refine joined_le_of_mem_fill (by simp) ?_ hrest b hb
      rw [joined_concat size hne]
      omega

/-- The first item of a batch did not fit into the one before. -/
def DoesNotFit (batch next : List α) : Prop := ∀ a ∈ next.head?, limit < joined size batch + 1 + size a

theorem isChain_fill : ∀ items batch : List α, (fill size limit batch items).IsChain (DoesNotFit size limit)
  | [], batch => by simp [fill]
  | a :: items, batch => by
    unfold fill
    by_cases hfull : limit < joined size batch + 1 + size a
    · rw [if_pos hfull]
      have hchain := isChain_fill items [a]
      obtain ⟨more, rest, hmore⟩ := fill_eq_cons size limit items [a]
      rw [hmore] at hchain ⊢
      refine List.isChain_cons_cons.mpr ⟨fun first hfirst => ?_, hchain⟩
      obtain rfl : a = first := Option.some.inj hfirst
      exact hfull
    · rw [if_neg hfull]
      exact isChain_fill items (batch ++ [a])

/-! ### Packing -/

/-- **Nothing is lost**: the batches are the items, cut in order. -/
theorem flatten_pack : ∀ items : List α, (pack size limit items).flatten = items
  | [] => rfl
  | a :: items => flatten_fill size limit items [a]

theorem ne_nil_of_mem_pack : ∀ {items : List α}, ∀ b ∈ pack size limit items, b ≠ []
  | [], _, hb => absurd hb List.not_mem_nil
  | a :: _, b, hb => ne_nil_of_mem_fill size limit (List.cons_ne_nil a []) b hb

/-- **Every batch fits**, if every item does. -/
theorem joined_le_of_mem_pack : ∀ {items : List α}, (∀ a ∈ items, size a ≤ limit) →
    ∀ b ∈ pack size limit items, joined size b ≤ limit
  | [], _, _, hb => absurd hb List.not_mem_nil
  | a :: items, h, b, hb => by
    refine joined_le_of_mem_fill size limit (List.cons_ne_nil a []) ?_
      (fun a ha => h a (List.mem_cons_of_mem _ ha)) b hb
    rw [joined_singleton]
    exact h a List.mem_cons_self

/-- **The packing is greedy**: each batch is as long as it can be. -/
theorem isChain_pack : ∀ items : List α, (pack size limit items).IsChain (DoesNotFit size limit)
  | [] => .nil
  | a :: items => isChain_fill size limit items [a]

end Greedy

/-
# Loops that reject what they have seen

A loop over items that places what it makes of each in a list, and fails at an
item it has no result for or whose key is already there. It succeeds just if
every item has a result and the keys are distinct, and leaves the results.

Key theorems: `foldlM_eq_ok_iff`, `perm_of_foldlM`.
-/
import Sentinel.Lib.Collections
import Sentinel.Lib.Fallible

namespace Distinct

open Fallible

variable {α β κ ε : Type} {f : List β → α → Except ε (List β)} {R : α → β → Prop} {key : β → κ}
  {place : List β → β → List β}

/-- What one step of the loop does. -/
structure Step (f : List β → α → Except ε (List β)) (R : α → β → Prop) (key : β → κ) (place : List β → β → List β) :
    Prop where
  ok_iff : ∀ kept a kept', f kept a = .ok kept' ↔
    ∃ b, R a b ∧ (∀ c ∈ kept, key c ≠ key b) ∧ kept' = place kept b
  perm : ∀ kept b, (∀ c ∈ kept, key c ≠ key b) → (place kept b).Perm (kept ++ [b])

/-- One more result keeps the keys distinct if its key is new. -/
theorem Step.nodup_place (h : Step f R key place) {kept : List β} {b : β} (hnodup : (kept.map key).Nodup)
    (hnew : ∀ c ∈ kept, key c ≠ key b) : ((place kept b).map key).Nodup := by
  rw [((h.perm kept b hnew).map key).nodup_iff]
  exact Collections.nodup_map_concat_iff.mpr ⟨hnodup, hnew⟩

/-- **The loop leaves the results**, in some order. -/
theorem perm_foldl_place (h : Step f R key place) : ∀ {results kept : List β}, ((kept ++ results).map key).Nodup →
    (results.foldl place kept).Perm (kept ++ results)
  | [], kept, _ => by rw [List.foldl_nil, List.append_nil]
  | b :: results, kept, hnodup => by
    have hsplit : kept ++ b :: results = (kept ++ [b]) ++ results := by rw [List.append_assoc, List.singleton_append]
    rw [hsplit] at hnodup ⊢
    have hfirst : ((kept ++ [b]).map key).Nodup := by
      rw [List.map_append] at hnodup
      exact hnodup.of_append_left
    have hnew := (Collections.nodup_map_concat_iff.mp hfirst).2
    have hperm := (h.perm kept b hnew).append_right results
    rw [List.foldl_cons]
    exact (perm_foldl_place h ((hperm.map key).nodup_iff.mpr hnodup)).trans hperm

/-- **The loop succeeds** if every item has a result and the keys are distinct. -/
theorem foldlM_eq_ok_iff (h : Step f R key place) : ∀ {items : List α} {kept kept' : List β}, (kept.map key).Nodup →
    (items.foldlM f kept = .ok kept' ↔ ∃ results, List.Forall₂ R items results ∧
      ((kept ++ results).map key).Nodup ∧ kept' = results.foldl place kept)
  | [], kept, kept', hnodup => by
    constructor
    · intro hfold
      refine ⟨[], .nil, ?_, (Except.ok.inj hfold).symm⟩
      rwa [List.append_nil]
    · rintro ⟨results, hresults, -, rfl⟩
      obtain rfl := List.forall₂_nil_left_iff.mp hresults
      rfl
  | a :: items, kept, kept', hnodup => by
    rw [List.foldlM_cons, bind_eq_ok_iff]
    constructor
    · rintro ⟨next, hstep, hfold⟩
      obtain ⟨b, hb, hnew, rfl⟩ := (h.ok_iff kept a next).mp hstep
      obtain ⟨results, hresults, hkeys, rfl⟩ := (foldlM_eq_ok_iff h (h.nodup_place hnodup hnew)).mp hfold
      have hperm := (h.perm kept b hnew).append_right results
      rw [List.append_assoc, List.singleton_append] at hperm
      exact ⟨b :: results, .cons hb hresults, (hperm.map key).nodup_iff.mp hkeys, rfl⟩
    · rintro ⟨results, hresults, hkeys, rfl⟩
      obtain ⟨b, results, hb, hrest, rfl⟩ := List.forall₂_cons_left_iff.mp hresults
      have hsplit : kept ++ b :: results = (kept ++ [b]) ++ results := by rw [List.append_assoc, List.singleton_append]
      rw [hsplit] at hkeys
      have hfirst : ((kept ++ [b]).map key).Nodup := by
        rw [List.map_append] at hkeys
        exact hkeys.of_append_left
      have hnew := (Collections.nodup_map_concat_iff.mp hfirst).2
      have hperm := (h.perm kept b hnew).append_right results
      exact ⟨_, (h.ok_iff kept a _).mpr ⟨b, hb, hnew, rfl⟩, (foldlM_eq_ok_iff h (h.nodup_place hnodup hnew)).mpr
        ⟨results, hrest, (hperm.map key).nodup_iff.mpr hkeys, rfl⟩⟩

/-- **The loop from nothing.** -/
theorem foldlM_nil_eq_ok_iff (h : Step f R key place) {items : List α} {kept : List β} :
    items.foldlM f [] = .ok kept ↔ ∃ results, List.Forall₂ R items results ∧ (results.map key).Nodup ∧
      kept = results.foldl place [] := by
  have hnil : (([] : List β).map key).Nodup := List.nodup_nil
  rw [foldlM_eq_ok_iff h hnil]
  simp only [List.nil_append]

theorem perm_of_foldlM (h : Step f R key place) {items : List α} {kept : List β} (hfold : items.foldlM f [] = .ok kept) :
    ∃ results, List.Forall₂ R items results ∧ (results.map key).Nodup ∧ kept.Perm results := by
  obtain ⟨results, hresults, hdistinct, rfl⟩ := (foldlM_nil_eq_ok_iff h).mp hfold
  exact ⟨results, hresults, hdistinct, perm_foldl_place h hdistinct⟩

end Distinct

/-
# Medians

The median of a list, the mean of the two middle values if there is no
middle one, and the median deviation from it. The arithmetic is a parameter,
so that one definition covers rounded and exact numbers. Over an ordered field
the median is robust: as long as fewer than half of the values are replaced,
it stays between two of the others.

Key theorems: `exists_le_of_rank`, `exists_ge_of_rank`, `medianBy_between`,
`boundsBy_perm`, `boundsBy_shift`.
-/
import Sentinel.Lib.Collections
import Mathlib.Algebra.Order.Field.Basic
import Mathlib.Data.Finset.Card
import Mathlib.Data.List.GetD
import Mathlib.Data.List.Nodup
import Mathlib.Tactic.Linarith
import Mathlib.Tactic.Push
import Mathlib.Tactic.Ring

namespace Median

open Collections

/-! ### Definitions -/

section Definitions

variable {α κ : Type} [LinearOrder κ] [Inhabited α]

/-- The middle value in the order of the key, or the midpoint of the two. -/
def medianBy (key : α → κ) (midpoint : α → α → α) (values : List α) : α :=
  let sorted := orderBy key values
  let middle := sorted.length / 2
  if sorted.length % 2 = 0 then midpoint (sorted.getD (middle - 1) default) (sorted.getD middle default)
  else sorted.getD middle default

/-- What the bounds of a population are computed with. -/
structure Arithmetic (α : Type) where
  isFinite : α → Bool
  midpoint : α → α → α
  sub : α → α → α
  abs : α → α
  mul : α → α → α
  max : α → α → α
  /-- What a median deviation is multiplied by. -/
  scale : α
  /-- The least deviation. -/
  floor : α

/-- The median and the scaled median deviation of finite values. -/
def boundsBy (key : α → κ) (arithmetic : Arithmetic α) (values : List α) : Option (α × α) :=
  if values.isEmpty || values.any (!arithmetic.isFinite ·) then none
  else
    let center := medianBy key arithmetic.midpoint values
    let deviations := values.map fun value => arithmetic.abs (arithmetic.sub value center)
    let scaledDeviation := arithmetic.mul arithmetic.scale (medianBy key arithmetic.midpoint deviations)
    some (center, arithmetic.max scaledDeviation arithmetic.floor)

end Definitions

/-! ### Order of the values -/

section Order

variable {α κ : Type} [LinearOrder κ] [Inhabited α] {key : α → κ} {values values' : List α}

/-- The median does not depend on the order of the values. -/
theorem medianBy_perm (hkey : Function.Injective key) (midpoint : α → α → α) (h : values.Perm values') :
    medianBy key midpoint values = medianBy key midpoint values' := by
  rw [medianBy, medianBy, orderBy_eq_of_perm hkey h]

/-- **Nor do the bounds.** -/
theorem boundsBy_perm (hkey : Function.Injective key) (arithmetic : Arithmetic α) (h : values.Perm values') :
    boundsBy key arithmetic values = boundsBy key arithmetic values' := by
  unfold boundsBy
  simp only
  rw [h.isEmpty_eq, h.any_eq, medianBy_perm hkey arithmetic.midpoint h, medianBy_perm hkey arithmetic.midpoint (h.map _)]

end Order

/-! ### Ranks -/

section Rank

variable {α : Type} [LinearOrder α] {sorted : List α} {p : ℕ}

theorem getElem_le_getElem (h : sorted.Pairwise (· ≤ ·)) {i j : ℕ} (hij : i ≤ j) (hj : j < sorted.length) :
    sorted[i] ≤ sorted[j] := by
  rcases hij.lt_or_eq with hlt | rfl
  · exact List.pairwise_iff_getElem.mp h i j (hlt.trans hj) hj hlt
  · exact le_rfl

/-- The value of a rank has its predecessors below it. -/
theorem lt_countP_le (h : sorted.Pairwise (· ≤ ·)) (hp : p < sorted.length) :
    p < sorted.countP (· ≤ sorted[p]) := by
  have hfirst : (sorted.take (p + 1)).countP (· ≤ sorted[p]) = (sorted.take (p + 1)).length := by
    refine List.countP_eq_length.mpr fun x hx => decide_eq_true ?_
    obtain ⟨i, hi, rfl⟩ := List.getElem_of_mem hx
    rw [List.length_take] at hi
    rw [List.getElem_take]
    exact getElem_le_getElem h (by omega) hp
  have hsublist : (sorted.take (p + 1)).countP (· ≤ sorted[p]) ≤ sorted.countP (· ≤ sorted[p]) :=
    (List.take_sublist (p + 1) sorted).countP_le
  rw [hfirst, List.length_take] at hsublist
  omega

/-- The value of a rank has its successors above it. -/
theorem le_countP_ge (h : sorted.Pairwise (· ≤ ·)) (hp : p < sorted.length) :
    sorted.length - p ≤ sorted.countP (sorted[p] ≤ ·) := by
  have hlast : (sorted.drop p).countP (sorted[p] ≤ ·) = (sorted.drop p).length := by
    refine List.countP_eq_length.mpr fun x hx => decide_eq_true ?_
    obtain ⟨i, hi, rfl⟩ := List.getElem_of_mem hx
    rw [List.length_drop] at hi
    rw [List.getElem_drop]
    exact getElem_le_getElem h (by omega) (by omega)
  have hsublist : (sorted.drop p).countP (sorted[p] ≤ ·) ≤ sorted.countP (sorted[p] ≤ ·) :=
    (List.drop_sublist p sorted).countP_le
  rw [hlast, List.length_drop] at hsublist
  exact hsublist

end Rank

/-- Of more positions than those listed, one is not among them. -/
theorem exists_of_card_lt_countP {α : Type} {l : List α} {q : α → Bool} {replaced : Finset ℕ}
    (h : replaced.card < l.countP q) : ∃ i a, i ∉ replaced ∧ l[i]? = some a ∧ q a = true := by
  by_contra hnone
  push Not at hnone
  have hmem : ∀ i ∈ (l.zipIdx.filter fun entry => q entry.1).map Prod.snd, i ∈ replaced := by
    intro i hi
    obtain ⟨⟨a, j⟩, hentry, rfl⟩ := List.mem_map.mp hi
    obtain ⟨hentry, hq⟩ := List.mem_filter.mp hentry
    by_contra hfree
    exact hnone j a hfree (List.mk_mem_zipIdx_iff_getElem?.mp hentry) hq
  have hnodup : ((l.zipIdx.filter fun entry => q entry.1).map Prod.snd).Nodup := by
    refine List.Nodup.sublist (List.filter_sublist.map _) ?_
    rw [List.zipIdx_map_snd]
    exact List.nodup_range'
  have hlength : ((l.zipIdx.filter fun entry => q entry.1).map Prod.snd).length = l.countP q := by
    rw [List.length_map, ← List.countP_eq_length_filter]
    have hcount := List.countP_map (p := q) (f := Prod.fst) (l := l.zipIdx)
    rw [List.zipIdx_map_fst] at hcount
    exact hcount.symm
  have hcard := Finset.card_le_card (s := ((l.zipIdx.filter fun entry => q entry.1).map Prod.snd).toFinset) (t := replaced)
    fun i hi => hmem i (List.mem_toFinset.mp hi)
  rw [List.toFinset_card_of_nodup hnodup, hlength] at hcard
  omega

/-! ### Over an ordered field -/

section Field

variable {K : Type} [LinearOrder K] {values : List K} {replaced : Finset ℕ} {p : ℕ}

/-- With few values replaced, one of the others is not above a rank. -/
theorem exists_le_of_rank (hp : p < (orderBy id values).length) (h : replaced.card ≤ p) :
    ∃ i x, i ∉ replaced ∧ values[i]? = some x ∧ x ≤ (orderBy id values)[p] := by
  have hcount := lt_countP_le (pairwise_orderBy id values) hp
  rw [(perm_orderBy id values).countP_eq] at hcount
  obtain ⟨i, x, hi, hx, hle⟩ := exists_of_card_lt_countP (h.trans_lt hcount)
  exact ⟨i, x, hi, hx, of_decide_eq_true hle⟩

/-- With few values replaced, one of the others is not below a rank. -/
theorem exists_ge_of_rank (hp : p < (orderBy id values).length) (h : replaced.card < values.length - p) :
    ∃ i x, i ∉ replaced ∧ values[i]? = some x ∧ (orderBy id values)[p] ≤ x := by
  have hcount := le_countP_ge (pairwise_orderBy id values) hp
  rw [(perm_orderBy id values).countP_eq, (perm_orderBy id values).length_eq] at hcount
  obtain ⟨i, x, hi, hx, hle⟩ := exists_of_card_lt_countP (h.trans_le hcount)
  exact ⟨i, x, hi, hx, of_decide_eq_true hle⟩

variable [Field K] [IsStrictOrderedRing K] [Inhabited K]

/-- The mean of two numbers. -/
def mean (a b : K) : K := (a + b) / 2

omit [IsStrictOrderedRing K] in
/-- The median is the mean of two ranks that lie at the middle. -/
theorem medianBy_eq (h : values ≠ []) :
    ∃ (low high : ℕ) (hlow : low < (orderBy id values).length) (hhigh : high < (orderBy id values).length),
      values.length ≤ 2 * low + 2 ∧ 2 * high ≤ values.length ∧ low ≤ high ∧
        (medianBy id mean values = mean (orderBy id values)[low] (orderBy id values)[high] ∨
          low = high ∧ medianBy id mean values = (orderBy id values)[low]) := by
  have hlength := (perm_orderBy id values).length_eq
  have hpositive := List.length_pos_iff.mpr h
  unfold medianBy
  simp only
  split_ifs with heven
  · refine ⟨(orderBy id values).length / 2 - 1, (orderBy id values).length / 2, by omega, by omega, by omega, by omega,
      by omega, .inl ?_⟩
    rw [List.getD_eq_getElem _ _ (by omega), List.getD_eq_getElem _ _ (by omega)]
  · refine ⟨(orderBy id values).length / 2, (orderBy id values).length / 2, by omega, by omega, by omega, by omega,
      le_rfl, .inr ⟨rfl, ?_⟩⟩
    rw [List.getD_eq_getElem _ _ (by omega)]

/-- **The median resists a minority**: with fewer than half of the values
replaced, it lies between two of the others. -/
theorem medianBy_between (h : 2 * replaced.card < values.length) :
    (∃ i x, i ∉ replaced ∧ values[i]? = some x ∧ x ≤ medianBy id mean values) ∧
      ∃ j y, j ∉ replaced ∧ values[j]? = some y ∧ medianBy id mean values ≤ y := by
  have hne : values ≠ [] := by
    rintro rfl
    exact absurd h (Nat.not_lt_zero _)
  obtain ⟨low, high, hlow, hhigh, hlower, hupper, hle, hmedian⟩ := medianBy_eq hne
  have horder := getElem_le_getElem (pairwise_orderBy id values) hle hhigh
  have hbounds : (orderBy id values)[low] ≤ medianBy id mean values ∧
      medianBy id mean values ≤ (orderBy id values)[high] := by
    rcases hmedian with hmedian | ⟨rfl, hmedian⟩
    · rw [hmedian]
      unfold mean
      constructor <;> linarith
    · rw [hmedian]
      exact ⟨le_rfl, le_rfl⟩
  have hfew : replaced.card ≤ low := by omega
  have hfew' : replaced.card < values.length - high := by omega
  obtain ⟨i, x, hi, hx, hxle⟩ := exists_le_of_rank hlow hfew
  obtain ⟨j, y, hj, hy, hyge⟩ := exists_ge_of_rank hhigh hfew'
  exact ⟨⟨i, x, hi, hx, hxle.trans hbounds.1⟩, j, y, hj, hy, hbounds.2.trans hyge⟩

omit [Inhabited K] in
/-- The values of a shifted population have the same order. -/
theorem orderBy_shift (c : K) (values : List K) :
    orderBy id (values.map (· + c)) = (orderBy id values).map (· + c) := by
  refine List.Perm.eq_of_pairwise (fun a b _ _ hab hba => le_antisymm hab hba) (pairwise_orderBy id _) ?_ ?_
  · refine List.pairwise_map.mpr ((pairwise_orderBy id values).imp fun h => ?_)
    exact add_le_add_left h c
  · exact (perm_orderBy id _).trans ((perm_orderBy id values).symm.map _)

/-- The median is shifted with the values. -/
theorem medianBy_shift (c : K) (h : values ≠ []) :
    medianBy id mean (values.map (· + c)) = medianBy id mean values + c := by
  have hlength := (perm_orderBy id values).length_eq
  have hpositive := List.length_pos_iff.mpr h
  have hget {p : ℕ} (hp : p < (orderBy id values).length) :
      ((orderBy id values).map (· + c)).getD p default = (orderBy id values).getD p default + c := by
    rw [List.getD_eq_getElem _ _ (by rwa [List.length_map]), List.getD_eq_getElem _ _ hp, List.getElem_map]
  unfold medianBy
  simp only [orderBy_shift, List.length_map]
  rw [hget (by omega), hget (by omega)]
  split_ifs
  · unfold mean
    ring
  · rfl

/-- The exact arithmetic of a field. -/
def exactArithmetic (scale floor : K) : Arithmetic K where
  isFinite _ := true
  midpoint := mean
  sub a b := a - b
  abs a := |a|
  mul a b := a * b
  max a b := max a b
  scale := scale
  floor := floor

omit [IsStrictOrderedRing K] in
theorem boundsBy_eq {scale floor : K} (h : values ≠ []) :
    ∃ deviation, boundsBy id (exactArithmetic scale floor) values = some (medianBy id mean values, deviation) := by
  have hempty : values.isEmpty = false := by simpa using h
  refine ⟨max (scale * medianBy id mean (values.map fun value => |value - medianBy id mean values|)) floor, ?_⟩
  simp [boundsBy, exactArithmetic, hempty]

/-- **Shifting the values shifts the median** and leaves the deviation. -/
theorem boundsBy_shift (scale floor c : K) (values : List K) :
    boundsBy id (exactArithmetic scale floor) (values.map (· + c)) =
      (boundsBy id (exactArithmetic scale floor) values).map fun (center, deviation) => (center + c, deviation) := by
  by_cases hempty : values = []
  · rw [hempty]
    rfl
  · have hdeviations : (values.map (· + c)).map (fun value => |value - (medianBy id mean values + c)|) =
        values.map fun value => |value - medianBy id mean values| := by
      rw [List.map_map]
      refine List.map_congr_left fun value _ => ?_
      rw [Function.comp, add_sub_add_right_eq_sub]
    simp [boundsBy, exactArithmetic, hempty, medianBy_shift c hempty, hdeviations]

end Field

end Median

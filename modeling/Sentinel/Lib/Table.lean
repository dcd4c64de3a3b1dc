/-
# Tables with a primary key

A table is a list of rows in the order they were inserted, with pairwise
distinct keys: an insertion of a key that is there fails, an update or an
upsert keeps the row's place, a deletion keeps the order of what is left.

Key theorems: `find?_eq_some_iff`, `insert?_eq_some_iff`, `insertAll_eq_some_iff`,
`rows_update_of_split`, `find?_foldl_upsert`.
-/
import Mathlib.Data.List.Nodup

/-- Rows with pairwise distinct keys, oldest first. -/
@[ext] structure Table {ρ κ : Type} (key : ρ → κ) where
  rows : List ρ
  distinct : (rows.map key).Nodup

namespace Table

variable {ρ κ : Type} {key : ρ → κ}

/-- The table without rows. -/
def empty : Table key := ⟨[], by simp⟩

@[simp] theorem rows_empty : (empty : Table key).rows = [] := rfl

/-- The rows that satisfy `p`; the others are deleted. -/
def filter (p : ρ → Bool) (table : Table key) : Table key :=
  ⟨table.rows.filter p, table.distinct.sublist (List.filter_sublist.map key)⟩

@[simp] theorem rows_filter (p : ρ → Bool) (table : Table key) :
    (table.filter p).rows = table.rows.filter p := rfl

/-- Every row replaced by its image; an image has the row's key. -/
def modify (f : ρ → ρ) (hf : ∀ row, key (f row) = key row) (table : Table key) : Table key :=
  ⟨table.rows.map f, by
    have h : key ∘ f = key := funext hf
    rw [List.map_map, h]
    exact table.distinct⟩

@[simp] theorem rows_modify (f : ρ → ρ) (hf : ∀ row, key (f row) = key row) (table : Table key) :
    (table.modify f hf).rows = table.rows.map f := rfl

/-- Every row as `f` writes it, under the same key. -/
def image {ρ' : Type} {key' : ρ' → κ} (f : ρ → ρ') (hf : ∀ row, key' (f row) = key row) (table : Table key) :
    Table key' :=
  ⟨table.rows.map f, by
    have h : key' ∘ f = key := funext hf
    rw [List.map_map, h]
    exact table.distinct⟩

@[simp] theorem rows_image {ρ' : Type} {key' : ρ' → κ} (f : ρ → ρ') (hf : ∀ row, key' (f row) = key row)
    (table : Table key) : (table.image f hf).rows = table.rows.map f := rfl

/-- The rows under one parent, each as `f` writes it; keys differ under a parent. -/
def under {π ρ' κ' : Type} [DecidableEq π] {key' : ρ' → κ'} (parent : ρ → π) (p : π) (f : ρ → Option ρ')
    (hf : ∀ a b a' b', parent a = parent b → f a = some a' → f b = some b' → key' a' = key' b' → key a = key b)
    (table : Table key) : Table key' :=
  ⟨(table.rows.filter (parent · = p)).filterMap f, by
    rw [List.Nodup, List.pairwise_map, List.pairwise_filterMap]
    have hkeys : table.rows.Pairwise fun a b => key a ≠ key b := List.pairwise_map.mp table.distinct
    refine (hkeys.sublist List.filter_sublist).imp_of_mem ?_
    intro a b ha hb hne a' ha' b' hb' hkey
    have hpa : parent a = p := of_decide_eq_true (List.mem_filter.mp ha).2
    have hpb : parent b = p := of_decide_eq_true (List.mem_filter.mp hb).2
    exact hne (hf a b a' b' (hpa.trans hpb.symm) ha' hb' hkey)⟩

@[simp] theorem rows_under {π ρ' κ' : Type} [DecidableEq π] {key' : ρ' → κ'} (parent : ρ → π) (p : π)
    (f : ρ → Option ρ') (hf : ∀ a b a' b', parent a = parent b → f a = some a' → f b = some b' →
      key' a' = key' b' → key a = key b) (table : Table key) :
    (table.under parent p f hf : Table key').rows = (table.rows.filter (parent · = p)).filterMap f := rfl

/-- Two rows of one key are the same row. -/
theorem eq_of_key_eq (table : Table key) {row row' : ρ} (h : row ∈ table.rows) (h' : row' ∈ table.rows)
    (hk : key row = key row') : row = row' :=
  List.inj_on_of_nodup_map table.distinct h h' hk

/-- The rows around a row have other keys. -/
theorem key_ne_of_split {table : Table key} {before after : List ρ} {row : ρ}
    (h : table.rows = before ++ row :: after) : ∀ other ∈ before ++ after, key other ≠ key row := by
  have hn := table.distinct
  rw [h, List.map_append, List.map_cons, List.nodup_middle, List.nodup_cons, ← List.map_append] at hn
  exact fun other ho hk => hn.1 (List.mem_map.mpr ⟨other, ho, hk⟩)

section Keys

variable [DecidableEq κ]

/-- The row of a key. -/
def find? (k : κ) (table : Table key) : Option ρ := table.rows.find? fun row => key row = k

/-- Appends a row, unless its key is taken. -/
def insert? (row : ρ) (table : Table key) : Option (Table key) :=
  if h : key row ∈ table.rows.map key then none
  else some ⟨table.rows ++ [row], by
    rw [List.map_append, List.map_singleton, List.nodup_append]
    refine ⟨table.distinct, List.nodup_singleton _, fun a ha b hb => ?_⟩
    rw [List.mem_singleton.mp hb]
    exact fun he => h (he ▸ ha)⟩

/-- Appends rows one after the other. -/
def insertAll (rows : List ρ) (table : Table key) : Option (Table key) :=
  rows.foldlM (fun table row => table.insert? row) table

/-- Replaces the row of a key by its image. -/
def update (k : κ) (f : ρ → ρ) (hf : ∀ row, key (f row) = key row) (table : Table key) : Table key :=
  table.modify (fun row => if key row = k then f row else row) fun row => by
    split
    · exact hf row
    · rfl

/-- Inserts a row, or replaces the row of its key. -/
def upsert (row : ρ) (table : Table key) : Table key :=
  match table.insert? row with
  | some table => table
  | none => table.modify (fun old => if key old = key row then row else old) fun old => by
      split
      · rename_i h
        exact h.symm
      · rfl

/-! ### Lookup -/

theorem find?_eq_some_iff {table : Table key} {k : κ} {row : ρ} :
    table.find? k = some row ↔ row ∈ table.rows ∧ key row = k := by
  constructor
  · intro h
    exact ⟨List.mem_of_find?_eq_some h, by simpa using List.find?_some h⟩
  · rintro ⟨hm, hk⟩
    cases h : table.find? k with
    | none =>
      have := List.find?_eq_none.mp h row hm
      simp [hk] at this
    | some row' =>
      have hk' : key row' = k := by simpa using List.find?_some h
      rw [table.eq_of_key_eq (List.mem_of_find?_eq_some h) hm (hk'.trans hk.symm)]

theorem find?_eq_none_iff {table : Table key} {k : κ} :
    table.find? k = none ↔ ∀ row ∈ table.rows, key row ≠ k := by
  unfold find?
  rw [List.find?_eq_none]
  simp

theorem find?_key {table : Table key} {row : ρ} (h : row ∈ table.rows) :
    table.find? (key row) = some row :=
  find?_eq_some_iff.mpr ⟨h, rfl⟩

@[simp] theorem find?_empty (k : κ) : (empty : Table key).find? k = none := rfl

/-- The rows of one key are its row. -/
theorem filter_key (table : Table key) (k : κ) :
    table.rows.filter (fun row => key row = k) = (table.find? k).toList := by
  cases h : table.find? k with
  | none =>
    rw [Option.toList_none, List.filter_eq_nil_iff]
    exact fun row hm hk => find?_eq_none_iff.mp h row hm (by simpa using hk)
  | some row =>
    obtain ⟨hm, hk⟩ := find?_eq_some_iff.mp h
    obtain ⟨before, after, he⟩ := List.append_of_mem hm
    have hne := key_ne_of_split he
    rw [Option.toList_some, he, List.filter_append, List.filter_cons_of_pos (by simpa using hk),
      List.filter_eq_nil_iff.mpr, List.filter_eq_nil_iff.mpr, List.nil_append]
    · exact fun other ho ho' => hne other (List.mem_append_right _ ho) ((of_decide_eq_true ho').trans hk.symm)
    · exact fun other ho ho' => hne other (List.mem_append_left _ ho) ((of_decide_eq_true ho').trans hk.symm)
/-! ### Insertion -/

theorem insert?_eq_some_iff {table table' : Table key} {row : ρ} :
    table.insert? row = some table' ↔
      (∀ old ∈ table.rows, key old ≠ key row) ∧ table'.rows = table.rows ++ [row] := by
  unfold insert?
  split
  case isTrue h =>
    obtain ⟨old, hm, hk⟩ := List.mem_map.mp h
    refine ⟨fun hn => (nomatch hn), fun hn => absurd hk (hn.1 old hm)⟩
  case isFalse h =>
    rw [Option.some.injEq]
    constructor
    · rintro rfl
      exact ⟨fun old hm hk => h (List.mem_map.mpr ⟨old, hm, hk⟩), rfl⟩
    · rintro ⟨-, hr⟩
      exact Table.ext hr.symm

theorem insertAll_eq_some_iff : ∀ {rows : List ρ} {table table' : Table key},
    table.insertAll rows = some table' ↔
      ((table.rows ++ rows).map key).Nodup ∧ table'.rows = table.rows ++ rows
  | [], table, table' => by
    simp only [insertAll, List.foldlM_nil, Option.pure_def, Option.some.injEq, List.append_nil]
    exact ⟨fun h => ⟨table.distinct, h ▸ rfl⟩, fun h => Table.ext h.2.symm⟩
  | row :: rows, table, table' => by
    have ih : ∀ {table : Table key}, table.insertAll rows = some table' ↔
        ((table.rows ++ rows).map key).Nodup ∧ table'.rows = table.rows ++ rows := insertAll_eq_some_iff
    unfold insertAll at ih ⊢
    rw [List.foldlM_cons, Option.bind_eq_bind, Option.bind_eq_some_iff]
    simp only [insert?_eq_some_iff, ih]
    constructor
    · rintro ⟨t, ⟨-, ht⟩, hn, hr⟩
      rw [ht, List.append_assoc, List.singleton_append] at hn hr
      exact ⟨hn, hr⟩
    · rintro ⟨hn, hr⟩
      have hnew : ∀ old ∈ table.rows, key old ≠ key row := by
        intro old hm hk
        rw [List.map_append, List.nodup_append] at hn
        exact hn.2.2 _ (List.mem_map_of_mem hm) _ (List.mem_map_of_mem List.mem_cons_self) hk
      refine ⟨⟨table.rows ++ [row], ?_⟩, ⟨hnew, rfl⟩, ?_⟩
      · rw [List.append_cons, List.map_append] at hn
        exact (List.nodup_append.mp hn).1
      · rw [List.append_assoc, List.singleton_append]
        exact ⟨hn, hr⟩

/-- Rows of distinct keys can be inserted. -/
theorem insertAll_empty {rows : List ρ} (h : (rows.map key).Nodup) :
    (empty : Table key).insertAll rows = some ⟨rows, h⟩ :=
  insertAll_eq_some_iff.mpr ⟨h, rfl⟩

/-! ### Updates -/

section Update

variable {k : κ} {f : ρ → ρ} {hf : ∀ row, key (f row) = key row}

theorem map_of_key_ne {rows : List ρ} (h : ∀ row ∈ rows, key row ≠ k) :
    rows.map (fun row => if key row = k then f row else row) = rows := by
  refine (List.map_congr_left fun row hm => ?_).trans (List.map_id rows)
  rw [if_neg (h row hm)]
  rfl

theorem mem_rows_update {table : Table key} {row : ρ} :
    row ∈ (table.update k f hf).rows ↔ ∃ old ∈ table.rows, row = if key old = k then f old else old := by
  simp only [update, rows_modify, List.mem_map, eq_comm]

/-- What an update leaves around the row it changes. -/
theorem rows_update_of_split {table : Table key} {before after : List ρ} {row : ρ}
    (h : table.rows = before ++ row :: after) (hk : key row = k) :
    (table.update k f hf).rows = before ++ f row :: after := by
  have hne : ∀ other ∈ before ++ after, key other ≠ k := fun other ho => hk ▸ key_ne_of_split h other ho
  rw [update, rows_modify, h, List.map_append, List.map_cons, if_pos hk,
    map_of_key_ne fun other ho => hne other (List.mem_append_left _ ho),
    map_of_key_ne fun other ho => hne other (List.mem_append_right _ ho)]

/-- An update that `g` does not see. -/
theorem map_rows_update {β : Type} {table : Table key} {g : ρ → β}
    (h : ∀ row ∈ table.rows, key row = k → g (f row) = g row) :
    (table.update k f hf).rows.map g = table.rows.map g := by
  rw [update, rows_modify, List.map_map]
  refine List.map_congr_left fun row hrow => ?_
  rw [Function.comp]
  split
  case isTrue hk => exact h row hrow hk
  case isFalse => rfl

theorem update_update {table : Table key} {g : ρ → ρ} {hg : ∀ row, key (g row) = key row} :
    (table.update k f hf).update k g hg = table.update k (g ∘ f) (fun row => (hg _).trans (hf row)) := by
  apply Table.ext
  rw [update, update, update, rows_modify, rows_modify, rows_modify, List.map_map]
  refine List.map_congr_left fun row _ => ?_
  by_cases hk : key row = k
  · simp [hk, hf]
  · simp [hk]

theorem find?_update {table : Table key} {k' : κ} :
    (table.update k f hf).find? k' = (table.find? k').map fun row => if k' = k then f row else row := by
  cases h : table.find? k' with
  | none =>
    rw [Option.map_none, find?_eq_none_iff]
    intro row hm
    obtain ⟨old, ho, rfl⟩ := mem_rows_update.mp hm
    have := find?_eq_none_iff.mp h old ho
    split
    · rwa [hf]
    · exact this
  | some row =>
    obtain ⟨hm, hk⟩ := find?_eq_some_iff.mp h
    rw [Option.map_some, find?_eq_some_iff, mem_rows_update]
    refine ⟨⟨row, hm, by rw [hk]⟩, ?_⟩
    split
    · rwa [hf]
    · exact hk

end Update

/-- The rows after an upsert: the row itself, and those of other keys. -/
theorem mem_rows_upsert {table : Table key} {row new : ρ} :
    new ∈ (table.upsert row).rows ↔ new = row ∨ new ∈ table.rows ∧ key new ≠ key row := by
  unfold upsert
  split
  case h_1 table' h =>
    obtain ⟨hnew, hrows⟩ := insert?_eq_some_iff.mp h
    rw [hrows, List.mem_append, List.mem_singleton, or_comm]
    exact or_congr_right (and_iff_left_of_imp (hnew new)).symm
  case h_2 h =>
    obtain ⟨taken, hmem, htaken⟩ : ∃ taken ∈ table.rows, key taken = key row := by
      by_contra hfree
      push Not at hfree
      rw [insert?, dif_neg fun hmem => ?_] at h
      · cases h
      · obtain ⟨old, hold, hkey⟩ := List.mem_map.mp hmem
        exact hfree old hold hkey
    rw [rows_modify, List.mem_map]
    constructor
    · rintro ⟨old, hold, rfl⟩
      by_cases hkey : key old = key row
      · rw [if_pos hkey]
        exact .inl rfl
      · rw [if_neg hkey]
        exact .inr ⟨hold, hkey⟩
    · rintro (rfl | ⟨hnew, hkey⟩)
      · exact ⟨taken, hmem, if_pos htaken⟩
      · exact ⟨new, hnew, if_neg hkey⟩

theorem find?_upsert {table : Table key} {row : ρ} {k : κ} :
    (table.upsert row).find? k = if k = key row then some row else table.find? k := by
  refine Option.ext fun found => ?_
  rw [find?_eq_some_iff, mem_rows_upsert]
  by_cases hk : k = key row
  · rw [if_pos hk, Option.some.injEq]
    constructor
    · rintro ⟨rfl | ⟨-, hne⟩, hkey⟩
      · rfl
      · exact absurd (hkey.trans hk) hne
    · rintro rfl
      exact ⟨.inl rfl, hk.symm⟩
  · rw [if_neg hk, find?_eq_some_iff]
    constructor
    · rintro ⟨rfl | ⟨hmem, -⟩, hkey⟩
      · exact absurd hkey.symm hk
      · exact ⟨hmem, hkey⟩
    · rintro ⟨hmem, hkey⟩
      exact ⟨.inr ⟨hmem, fun hsame => hk (hkey.symm.trans hsame)⟩, hkey⟩

/-- Deleting the row of a key leaves the others. -/
theorem find?_filter_key_ne {table : Table key} {k k' : κ} :
    (table.filter fun row => key row ≠ k').find? k = if k = k' then none else table.find? k := by
  rw [find?, rows_filter, List.find?_filter]
  split
  case isTrue hk =>
    rw [List.find?_eq_none]
    intro row _ hrow
    simp [hk] at hrow
  case isFalse hk =>
    refine congrArg (fun p => table.rows.find? p) (funext fun row => ?_)
    refine decide_eq_decide.mpr ⟨fun hrow => of_decide_eq_true hrow.2, fun hrow => ?_⟩
    exact ⟨decide_eq_true fun hother => hk (hrow.symm.trans hother), decide_eq_true hrow⟩

/-- Upserts of rows of distinct keys leave each of them, and the other rows. -/
theorem find?_foldl_upsert {k : κ} : ∀ {rows : List ρ} {table : Table key}, (rows.map key).Nodup →
    (rows.foldl (fun table row => table.upsert row) table).find? k =
      (rows.find? fun row => key row = k).or (table.find? k)
  | [], _, _ => rfl
  | row :: rows, table, hn => by
    rw [List.map_cons, List.nodup_cons] at hn
    rw [List.foldl_cons, find?_foldl_upsert hn.2, find?_upsert, List.find?_cons]
    by_cases hk : key row = k
    · have hnone : rows.find? (fun row => key row = k) = none := by
        rw [List.find?_eq_none]
        exact fun r hr hrk => hn.1 (List.mem_map.mpr ⟨r, hr, (of_decide_eq_true hrk).trans hk.symm⟩)
      simp [hk, hnone]
    · simp [hk, Ne.symm hk]

end Keys

end Table

/-
# Counters as text

SQLite's integers are signed, so a count is stored as its decimal text. The
column's `CHECK`, the parser that reads it back and the writer agree on the
spellings of a count, for every text without a NUL, at which SQLite's text
functions stop.

Key theorems: `render_unsignedTextColumn`, `accepts_unsignedTextColumn`,
`unsignedText_iff`, `counter_spellings`.
-/
import Sentinel.Lib.Sqlite
import Sentinel.Store.Schema

namespace Sentinel

open Sqlite

/-! ### The `CHECK` of a column -/

/-- The definition of a column, as text. -/
def unsignedTextColumnSql (column : String) (nullable : Bool) : String :=
  let required := if nullable then "" else " NOT NULL"
  let valid := s!"({column} = '0' OR (substr({column}, 1, 1) BETWEEN '1' AND '9' " ++
    s!"AND {column} NOT GLOB '*[^0-9]*' AND (length({column}) < 20 " ++
    s!"OR (length({column}) = 20 AND {column} <= '18446744073709551615'))))"
  let valid := if nullable then s!"{column} IS NULL OR {valid}" else valid
  s!"{column} TEXT{required} CHECK ({valid})"

/-- The first character is a digit but zero, no character is anything but a
digit, and the number is within range. -/
def unsignedDigits : Condition :=
  .both (.both (.between (.substr .column 1 1) (.literal "1") (.literal "9"))
    (.notGlob .column [.many, .single (.among true [('0', '9')]), .many]))
    (.parens (.either (.lengthBelow .column 20)
      (.parens (.both (.lengthIs .column 20) (.atMost .column (.literal "18446744073709551615"))))))

def unsignedCondition : Condition :=
  .parens (.either (.equal .column (.literal "0")) (.parens unsignedDigits))

/-- The column that `unsignedTextColumnSql` defines. -/
def unsignedTextColumn (nullable : Bool) : TextColumn where
  notNull := !nullable
  check := if nullable then .either (.isNull .column) unsignedCondition else unsignedCondition

theorem render_notDigit :
    String.join ([GlobToken.many, .single (.among true [('0', '9')]), .many].map GlobToken.render) = "*[^0-9]*" := by
  decide

set_option maxRecDepth 4000 in
/-- **The column is written as the schema writes it.** -/
theorem render_unsignedTextColumn (column : String) (nullable : Bool) :
    (unsignedTextColumn nullable).render column = unsignedTextColumnSql column nullable := by
  have hone : Nat.repr 1 = "1" := by decide
  have htwenty : Nat.repr 20 = "20" := by decide
  refine String.toList_injective ?_
  cases nullable <;>
    simp only [TextColumn.render, unsignedTextColumn, unsignedTextColumnSql, Condition.render, unsignedCondition,
      unsignedDigits, TextTerm.render, render_notDigit, hone, htwenty, Bool.not_false, Bool.not_true,
      Bool.false_eq_true, if_true, if_false] <;>
    simp

/-! ### What the column takes -/

/-- The first character is between two digits. -/
theorem between_first : ∀ l : List Char,
    (collates "1" (String.ofList (l.take 1)) && collates (String.ofList (l.take 1)) "9") =
      (match l with
        | c :: _ => '1' ≤ c && c ≤ '9'
        | [] => false)
  | [] => by decide
  | c :: l => by
    have hone : "1" = String.ofList ['1'] := rfl
    have hnine : "9" = String.ofList ['9'] := rfl
    rw [hone, hnine, List.take_succ_cons, List.take_zero, collates_singleton, collates_singleton]

theorem notGlob_notDigit (l : List Char) :
    (!globMatches [.many, .single (.among true [('0', '9')]), .many] l) = l.all fun c => '0' ≤ c && c ≤ '9' := by
  rw [globMatches_contains, List.not_any_eq_all_not]
  refine List.all_congr rfl fun c => ?_
  simp [GlobClass.accepts]

section Text

variable {text : String} (nul : '\x00' ∉ text.toList)

include nul

theorem value_unsignedCondition : unsignedCondition.value (some text) = some (unsignedText text) := by
  simp only [unsignedCondition, unsignedDigits, Condition.value, TextTerm.value, Option.map₂_some_some,
    Option.map_some, kleeneAnd_some, kleeneOr_some, notGlob_notDigit, visible_eq nul, Nat.sub_self,
    List.drop_zero, between_first, String.length_toList]
  rw [collates_eq]
  rfl

/-- **What the column takes** is what the model's check takes. -/
theorem accepts_unsignedTextColumn (nullable : Bool) :
    (unsignedTextColumn nullable).accepts (some text) = unsignedText text := by
  have hpass (b : Bool) : (some b != some false) = b := by cases b <;> rfl
  cases nullable <;>
    simp [TextColumn.accepts, unsignedTextColumn, Condition.value, TextTerm.value, value_unsignedCondition nul, hpass]

end Text

/-! ### The spellings of a count -/

/-- A text the check takes is the decimal text of its number. -/
theorem exists_repr_of_unsignedText {text : String} (h : unsignedText text = true) :
    ∃ n < 2 ^ 64, text = Nat.repr n := by
  rw [unsignedText, Bool.or_eq_true, decide_eq_true_eq] at h
  rcases h with rfl | h
  · exact ⟨0, by decide, rfl⟩
  rw [Bool.and_eq_true, Bool.and_eq_true, List.all_eq_true] at h
  obtain ⟨⟨hfirst, hall⟩, hlength⟩ := h
  cases hlist : text.toList with
  | nil =>
    rw [hlist] at hfirst
    cases hfirst
  | cons c digits =>
    rw [hlist] at hfirst hall
    have hc : '1' ≤ c := of_decide_eq_true (Bool.and_eq_true_iff.mp hfirst).1
    have hdigits : ∀ d ∈ c :: digits, d.isDigit := fun d hd => hall d hd
    have hcanonical := Text.toDigits_ofDigitChars hc hdigits
    have hbounds := Text.ofDigitChars_bounds (c :: digits) 0 hdigits
    rw [Nat.zero_add, Nat.mul_one, ← hlist, String.length_toList] at hbounds
    rw [← hlist] at hcanonical hdigits
    refine ⟨Nat.ofDigitChars 10 text.toList 0, ?_, ?_⟩
    · rw [Bool.or_eq_true, Bool.and_eq_true, decide_eq_true_eq, decide_eq_true_eq, decide_eq_true_eq] at hlength
      rcases hlength with hshort | ⟨hfull, hmax⟩
      · calc Nat.ofDigitChars 10 text.toList 0 < 10 ^ text.length := hbounds.2
          _ ≤ 10 ^ 19 := Nat.pow_le_pow_right (by decide) (by omega)
          _ < 2 ^ 64 := by decide
      · -- twenty digits are below 2 ^ 64 just if they are not after its last number's
        rcases hmax.lt_or_eq with hlt | rfl
        · have hmaximum : "18446744073709551615".toList.all Char.isDigit = true := by decide
          have hvalue := Text.ofDigitChars_lt 0 (by rw [String.length_toList, hfull]; rfl) hdigits
            (List.all_eq_true.mp hmaximum) (String.lt_iff_toList_lt.mp hlt)
          exact hvalue.trans (by decide)
        · decide
    · rw [Nat.repr_eq_ofList_toDigits, hcanonical, String.ofList_toList]

/-- What the parser takes is the decimal text of the count it gives. -/
theorem parseCounter_eq_ok_iff {value label : String} {count : UInt64} :
    parseCounter value label = .ok count ↔ value = Text.toText count := by
  constructor
  · intro h
    unfold parseCounter at h
    split at h
    · cases h
    · split at h
      · rename_i htext
        rw [← Except.ok.inj h, htext]
      · cases h
  · rintro rfl
    exact parseCounter_toText count label

/-- A count's text is the decimal text of a number below 2 ^ 64. -/
theorem exists_toText_iff {text : String} : (∃ count, text = Text.toText count) ↔ ∃ n < 2 ^ 64, text = Nat.repr n := by
  constructor
  · rintro ⟨count, rfl⟩
    exact ⟨count.toNat, count.toNat_lt, rfl⟩
  · rintro ⟨n, hn, rfl⟩
    refine ⟨UInt64.ofNat n, ?_⟩
    rw [Text.toText, UInt64.toNat_ofNat_of_lt' hn]

theorem unsignedText_iff {text : String} : unsignedText text = true ↔ ∃ n < 2 ^ 64, text = Nat.repr n := by
  refine ⟨exists_repr_of_unsignedText, fun h => ?_⟩
  obtain ⟨count, rfl⟩ := exists_toText_iff.mpr h
  exact unsignedText_toText count

/-- **The spellings of a count agree**: the column takes a text just if the
parser reads it, just if it is the decimal text of a number below 2 ^ 64,
which is what the parser gives. -/
theorem counter_spellings (text : String) (nul : '\x00' ∉ text.toList) (nullable : Bool) (label : String) :
    ((unsignedTextColumn nullable).accepts (some text) = true ↔ ∃ count, parseCounter text label = .ok count) ∧
      ((∃ count, parseCounter text label = .ok count) ↔ ∃ n < 2 ^ 64, text = Nat.repr n) ∧
      ∀ count, parseCounter text label = .ok count ↔ text = Nat.repr count.toNat := by
  have hparse : (∃ count, parseCounter text label = .ok count) ↔ ∃ n < 2 ^ 64, text = Nat.repr n := by
    rw [← exists_toText_iff]
    exact exists_congr fun count => parseCounter_eq_ok_iff
  refine ⟨?_, hparse, fun count => parseCounter_eq_ok_iff⟩
  rw [accepts_unsignedTextColumn nul, hparse, unsignedText_iff]

theorem counter_spellings_max :
    '\x00' ∉ "18446744073709551615".toList ∧
      ((unsignedTextColumn false).accepts (some "18446744073709551615") = true ↔
        ∃ count, parseCounter "18446744073709551615" "query count" = .ok count) :=
  ⟨by decide, (counter_spellings "18446744073709551615" (by decide) false "query count").1⟩

end Sentinel

/-
# Column constraints of SQLite

A fragment of SQLite's expressions, as the `CHECK` of a text column uses it:
comparisons of texts under the binary collation, `length`, `substr`, `GLOB`
and three-valued logic. A constraint has its text and its meaning; a `CHECK`
refuses a value only where it is false, so a null passes it.

Key theorems: `globMatches_contains`.
-/
import Sentinel.Lib.Utf8
import Mathlib.Data.Option.NAry
import Mathlib.Data.List.TakeWhile

namespace Sqlite

/-! ### Patterns -/

/-- What a `GLOB` pattern asks of one character. -/
inductive GlobClass where
  /-- `?`: any character. -/
  | any
  /-- `[…]`: a character of one of the ranges, or of none if negated. -/
  | among (negated : Bool) (ranges : List (Char × Char))
  | literal (c : Char)
  deriving DecidableEq, Repr

/-- A piece of a `GLOB` pattern. -/
inductive GlobToken where
  /-- `*`: any characters. -/
  | many
  | single (kind : GlobClass)
  deriving DecidableEq, Repr

def GlobClass.render : GlobClass → String
  | any => "?"
  | among negated ranges =>
    "[" ++ (if negated then "^" else "") ++
      String.join (ranges.map fun (first, last) => first.toString ++ "-" ++ last.toString) ++ "]"
  | literal c => c.toString

def GlobToken.render : GlobToken → String
  | many => "*"
  | single kind => kind.render

def GlobClass.accepts : GlobClass → Char → Bool
  | any, _ => true
  | among negated ranges, c => negated ^^ ranges.any fun (first, last) => first ≤ c && c ≤ last
  | literal c', c => c' = c

def globMatches : List GlobToken → List Char → Bool
  | [], l => l.isEmpty
  | .many :: pattern, [] => globMatches pattern []
  | .many :: pattern, c :: l => globMatches pattern (c :: l) || globMatches (.many :: pattern) l
  | .single _ :: _, [] => false
  | .single kind :: pattern, c :: l => kind.accepts c && globMatches pattern l
termination_by pattern l => pattern.length + l.length

/-- A star matches everything. -/
theorem globMatches_many : ∀ l : List Char, globMatches [.many] l = true
  | [] => by rw [globMatches, globMatches, List.isEmpty_nil]
  | c :: l => by rw [globMatches, globMatches_many l, Bool.or_true]

/-- **A class between stars looks for one character.** -/
theorem globMatches_contains (kind : GlobClass) : ∀ l : List Char,
    globMatches [.many, .single kind, .many] l = l.any kind.accepts
  | [] => by rw [globMatches, globMatches, List.any_nil]
  | c :: l => by
    rw [globMatches, globMatches, globMatches_many, Bool.and_true, globMatches_contains kind l, List.any_cons]

/-! ### Terms and conditions on a column -/

/-- The characters the text functions read: they stop at a NUL. -/
def visible (s : String) : List Char := s.toList.takeWhile (· ≠ '\x00')

theorem visible_eq {s : String} (h : '\x00' ∉ s.toList) : visible s = s.toList := by
  refine List.takeWhile_eq_self_iff.mpr fun c hc => ?_
  exact decide_eq_true fun hnul => h (hnul ▸ hc)

inductive TextTerm where
  | column
  | literal (text : String)
  /-- `substr(X, Y, Z)`, with a positive `Y`. -/
  | substr (term : TextTerm) (first count : ℕ)
  deriving DecidableEq, Repr

/-- The text of a term, for a column of this name. -/
def TextTerm.render (name : String) : TextTerm → String
  | column => name
  | literal text => "'" ++ text ++ "'"
  | substr term first count => "substr(" ++ term.render name ++ ", " ++ first.repr ++ ", " ++ count.repr ++ ")"

def TextTerm.value (stored : Option String) : TextTerm → Option String
  | column => stored
  | literal text => text
  | substr term first count =>
    (term.value stored).map fun text => String.ofList (((visible text).drop (first - 1)).take count)

inductive Condition where
  | equal (left right : TextTerm)
  | atMost (left right : TextTerm)
  | between (term low high : TextTerm)
  | notGlob (term : TextTerm) (pattern : List GlobToken)
  | lengthBelow (term : TextTerm) (bound : ℕ)
  | lengthIs (term : TextTerm) (value : ℕ)
  | isNull (term : TextTerm)
  | both (left right : Condition)
  | either (left right : Condition)
  | parens (inner : Condition)
  deriving DecidableEq, Repr

def Condition.render (name : String) : Condition → String
  | equal left right => left.render name ++ " = " ++ right.render name
  | atMost left right => left.render name ++ " <= " ++ right.render name
  | between term low high => term.render name ++ " BETWEEN " ++ low.render name ++ " AND " ++ high.render name
  | notGlob term pattern => term.render name ++ " NOT GLOB '" ++ String.join (pattern.map GlobToken.render) ++ "'"
  | lengthBelow term bound => "length(" ++ term.render name ++ ") < " ++ bound.repr
  | lengthIs term value => "length(" ++ term.render name ++ ") = " ++ value.repr
  | isNull term => term.render name ++ " IS NULL"
  | both left right => left.render name ++ " AND " ++ right.render name
  | either left right => left.render name ++ " OR " ++ right.render name
  | parens inner => "(" ++ inner.render name ++ ")"

/-- The binary collation. -/
def collates (a b : String) : Bool := Text.bytes a ≤ Text.bytes b

/-- The binary collation orders texts by their characters. -/
theorem collates_eq (a b : String) : collates a b = decide (a ≤ b) :=
  decide_eq_decide.mpr Text.bytes_le_iff

theorem collates_singleton (a b : Char) :
    collates (String.ofList [a]) (String.ofList [b]) = decide (a ≤ b) := by
  rw [collates_eq, decide_eq_decide, ← not_lt, ← not_lt, String.lt_iff_toList_lt, String.toList_ofList,
    String.toList_ofList, List.cons_lt_cons_iff]
  simp

def kleeneAnd : Option Bool → Option Bool → Option Bool
  | some false, _ => some false
  | _, some false => some false
  | some true, some true => some true
  | _, _ => none

def kleeneOr : Option Bool → Option Bool → Option Bool
  | some true, _ => some true
  | _, some true => some true
  | some false, some false => some false
  | _, _ => none

@[simp] theorem kleeneAnd_some (a b : Bool) : kleeneAnd (some a) (some b) = some (a && b) := by
  cases a <;> cases b <;> rfl

@[simp] theorem kleeneOr_some (a b : Bool) : kleeneOr (some a) (some b) = some (a || b) := by
  cases a <;> cases b <;> rfl

def Condition.value (stored : Option String) : Condition → Option Bool
  | equal left right => Option.map₂ (fun a b => decide (a = b)) (left.value stored) (right.value stored)
  | atMost left right => Option.map₂ collates (left.value stored) (right.value stored)
  | between term low high =>
    kleeneAnd (Option.map₂ collates (low.value stored) (term.value stored))
      (Option.map₂ collates (term.value stored) (high.value stored))
  | notGlob term pattern => (term.value stored).map fun text => !globMatches pattern (visible text)
  | lengthBelow term bound => (term.value stored).map fun text => decide ((visible text).length < bound)
  | lengthIs term value => (term.value stored).map fun text => decide ((visible text).length = value)
  | isNull term => some (term.value stored).isNone
  | both left right => kleeneAnd (left.value stored) (right.value stored)
  | either left right => kleeneOr (left.value stored) (right.value stored)
  | parens inner => inner.value stored

/-! ### Columns -/

/-- A text column with a `CHECK`. -/
structure TextColumn where
  notNull : Bool
  check : Condition
  deriving DecidableEq, Repr

/-- The column's definition, under its name. -/
def TextColumn.render (column : TextColumn) (name : String) : String :=
  name ++ " TEXT" ++ (if column.notNull then " NOT NULL" else "") ++ " CHECK (" ++ column.check.render name ++ ")"

/-- The column takes the value. -/
def TextColumn.accepts (column : TextColumn) (stored : Option String) : Bool :=
  (stored.isSome || !column.notNull) && column.check.value stored != some false

end Sqlite

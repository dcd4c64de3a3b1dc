/-
# Debounced signals

A signal is raised by a number of high samples in a row, and lowered by a
number of low ones; each sample brings its numbers with it, and one that is
missing counts for neither. A change of the signal is an edge, so rises and
falls alternate.

Key theorems: `Signal.edges_concat`, `Signal.alternates_edges`.
-/
import Mathlib.Data.List.ReduceOption

namespace Debounce

/-- A sample, high or low if it was taken, and how many in a row raise or
lower the signal. -/
structure Sample where
  level : Option Bool
  raisesAt : ℕ
  lowersAt : ℕ
  deriving DecidableEq, Repr

/-- A signal, with the high and the low samples it has had in a row. -/
structure Signal where
  raised : Bool
  highs : ℕ
  lows : ℕ
  deriving DecidableEq, Repr

inductive Edge where
  | rises
  | falls
  deriving DecidableEq, Repr

/-- The change from one level to another. -/
def edge : Bool → Bool → Option Edge
  | false, true => some .rises
  | true, false => some .falls
  | _, _ => none

/-- Rises and falls alternate, from a level on. -/
def alternates : Bool → List Edge → Bool
  | _, [] => true
  | raised, .rises :: edges => !raised && alternates true edges
  | raised, .falls :: edges => raised && alternates false edges

namespace Signal

/-- A signal that has had no sample. -/
def initial : Signal := ⟨false, 0, 0⟩

def read (signal : Signal) (sample : Sample) : Signal :=
  match sample.level with
  | none => signal
  | some true => ⟨signal.raised || decide (sample.raisesAt ≤ signal.highs + 1), signal.highs + 1, 0⟩
  | some false => ⟨signal.raised && !decide (sample.lowersAt ≤ signal.lows + 1), 0, signal.lows + 1⟩

def after (signal : Signal) (samples : List Sample) : Signal := samples.foldl read signal

/-- The edge at each sample, if there is one. -/
def edges : Signal → List Sample → List (Option Edge)
  | _, [] => []
  | signal, sample :: samples =>
    edge signal.raised (signal.read sample).raised :: (signal.read sample).edges samples

theorem after_concat (signal : Signal) (samples : List Sample) (sample : Sample) :
    signal.after (samples ++ [sample]) = (signal.after samples).read sample := by
  rw [after, List.foldl_append]
  rfl

theorem edges_concat (sample : Sample) : ∀ (signal : Signal) (samples : List Sample),
    signal.edges (samples ++ [sample]) = signal.edges samples ++
      [edge (signal.after samples).raised ((signal.after samples).read sample).raised]
  | _, [] => rfl
  | signal, first :: samples => congrArg (_ :: ·) (edges_concat sample (signal.read first) samples)

/-- **The edges of a signal alternate.** -/
theorem alternates_edges : ∀ (signal : Signal) (samples : List Sample),
    alternates signal.raised (signal.edges samples).reduceOption
  | _, [] => rfl
  | signal, sample :: samples => by
    have ih := alternates_edges (signal.read sample) samples
    unfold edges
    cases hbefore : signal.raised <;> cases hafter : (signal.read sample).raised <;> rw [hafter] at ih <;>
      simpa [edge, List.reduceOption, alternates] using ih

end Signal

end Debounce

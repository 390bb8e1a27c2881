/-
  Retrieval/Results/Cutoff.lean
  =============================
  **Where a ranked list stops being worth reading.**

  The scores of a ranked list are walked from the top.  The first score that fails both
  tests ends the list: it has to exceed a share of the average of the scores before it,
  or a slightly greater share of the score right before it.  Nothing is demanded as
  long as all scores so far add up to zero, and the first `minResults` documents are
  always kept.

  The list is taken in the order given.  Scores that do not descend are cut all the
  same, as if they did.

  The walk is written once, over any `ScoreArithmetic`, so that it can be studied in
  exact arithmetic and run on machine numbers.
-/
import Retrieval.Document
import Retrieval.Search.Basic

namespace Retrieval

/-- The arithmetic that the cutoff needs. -/
class ScoreArithmetic (α : Type) where
  zero : α
  /-- How much better than the average share the share of the previous score is. -/
  slack : α
  add : α → α → α
  mul : α → α → α
  /-- The quotient by a count. -/
  divCount : α → Nat → α
  /-- The lesser of two numbers. -/
  lesser : α → α → α
  isZero : α → Bool
  /-- Whether the first number is greater than the second. -/
  exceeds : α → α → Bool

namespace Cutoff

open ScoreArithmetic

variable {α : Type} [ScoreArithmetic α]

/-- What is remembered of the scores so far. -/
structure Trail (α : Type) where
  count : Nat
  sum : α
  last : α

def Trail.start : Trail α := ⟨0, zero, zero⟩

def Trail.record (t : Trail α) (score : α) : Trail α := ⟨t.count + 1, add t.sum score, score⟩

/-- The score that has to be exceeded after some others. -/
def Trail.threshold (t : Trail α) (fallOff : α) : α :=
  lesser (mul fallOff (divCount t.sum t.count)) (mul (mul fallOff slack) t.last)

def Trail.admits (t : Trail α) (fallOff score : α) : Bool :=
  isZero t.sum || exceeds score (t.threshold fallOff)

/-- The number of scores that are kept after some others. -/
def cutoffFrom (fallOff : α) (minResults : Nat) (t : Trail α) : List α → Nat
  | [] => t.count
  | score :: rest =>
    if minResults ≤ t.count && !t.admits fallOff score then t.count
    else cutoffFrom fallOff minResults (t.record score) rest

end Cutoff

def cutoff {α : Type} [ScoreArithmetic α] (scores : List α) (fallOff : α) (minResults : Nat) : Nat :=
  Cutoff.cutoffFrom fallOff minResults Cutoff.Trail.start scores

/-! ### Machine numbers -/

namespace Scalar

/-- The lesser of two scalars.  A number is preferred to not-a-number. -/
def lesser (x y : Scalar) : Scalar :=
  if x.isNaN then y
  else if y.isNaN then x
  else if y.toFloat < x.toFloat then y
  else x

instance : ScoreArithmetic Scalar where
  zero := .zero
  slack := ⟨0x3FF199999999999A⟩
  add x y := ofFloat (x.toFloat + y.toFloat)
  mul x y := ofFloat (x.toFloat * y.toFloat)
  divCount x n := ofFloat (x.toFloat / Float.ofNat n)
  lesser := lesser
  isZero := isZero
  exceeds x y := x.toFloat > y.toFloat

end Scalar

/-- Whether no score is greater than the one before it, or incomparable to it. -/
def isDescending : List Scalar → Bool
  | x :: y :: rest => x.toFloat ≥ y.toFloat && isDescending (y :: rest)
  | _ => true

/-! ### Documents -/

/-- The scores of documents, where a missing score counts as zero. -/
def scoresOf (docs : List Document) : List Scalar := docs.map fun d => d.score.getD .zero

/-- The documents that a quality filter keeps. -/
def QualityFilter.kept (filter : QualityFilter) (docs : List Document) : List Document :=
  docs.take (cutoff (scoresOf docs) filter.fallOff filter.minResults.toNat)

end Retrieval

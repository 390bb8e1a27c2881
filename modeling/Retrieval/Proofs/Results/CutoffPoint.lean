/-
  Retrieval/Proofs/Results/CutoffPoint.lean
  =========================================
  **Where the cutoff falls.**

  The walk over the scores remembers how many there were, their sum and the last of them.
  All three can be read off the scores that were walked over (`count_trailOf`, `sum_trailOf`,
  `last_trailOf`).  Whether a list ends before a position is therefore a property of the
  scores up to this position (`EndsBefore`): neither the scores behind it nor the number of
  documents that are kept in any case have a part in what the walk has found.

  The cutoff is the first position before which the list ends, or the length of the list
  (`isCutoff_cutoff`), and no other number is (`IsCutoff.unique`).  What follows about longer
  lists, shorter lists and other numbers of kept documents compares such positions and does
  not walk again.

  A list ends before a score that falls below both bounds (`endsBefore_iff`).  That the walk
  compares with the lesser of them only is a matter of the arithmetic, and holds for machine
  numbers (`Scalar.exceeds_lesser`).
-/
import Retrieval.Proofs.Results.MachineScores
import Retrieval.Proofs.ZeroWeights
import Retrieval.Results.Processing
import Mathlib.Data.List.Induction
import Mathlib.Order.Bounds.Basic

namespace Retrieval

namespace Cutoff

open ScoreArithmetic

section Walk

variable {α : Type} [ScoreArithmetic α] {fallOff : α} {minResults : Nat}

/-! ### What the walk remembers -/

/-- The sum of scores, from left to right. -/
def total (scores : List α) : α := scores.foldl add zero

def trailOf (scores : List α) : Trail α := scores.foldl Trail.record Trail.start

theorem trailOf_concat (scores : List α) (score : α) :
    trailOf (scores ++ [score]) = (trailOf scores).record score :=
  List.foldl_concat ..

theorem count_trailOf (scores : List α) : (trailOf scores).count = scores.length := by
  induction scores using List.reverseRecOn with
  | nil => rfl
  | append_singleton scores score ih => simp [trailOf_concat, Trail.record, ih]

theorem sum_trailOf (scores : List α) : (trailOf scores).sum = total scores := by
  induction scores using List.reverseRecOn with
  | nil => rfl
  | append_singleton scores score ih =>
    rw [trailOf_concat, total, List.foldl_concat]
    simp only [Trail.record, ih, total]

theorem last_trailOf (scores : List α) (score : α) :
    (trailOf (scores ++ [score])).last = score := by
  rw [trailOf_concat]
  rfl

/-! ### Ends -/

/-- The list ends before the score at position `i`. -/
structure EndsBefore (scores : List α) (fallOff : α) (minResults i : Nat) : Prop where
  /-- As many scores as are kept in any case stand before it. -/
  enough : minResults ≤ i
  /-- They do not add up to zero. -/
  sum : isZero (total (scores.take i)) = false
  /-- The score exceeds neither its share of their average nor that of the last of them. -/
  score : ∃ score last, scores[i]? = some score ∧ scores[i - 1]? = some last ∧
    exceeds score (lesser (mul fallOff (divCount (total (scores.take i)) i))
      (mul (mul fallOff slack) last)) = false

theorem endsBefore_iff
    (hlesser : ∀ s x y : α, exceeds s (lesser x y) = (exceeds s x || exceeds s y))
    {scores : List α} {i : Nat} :
    EndsBefore scores fallOff minResults i ↔
      minResults ≤ i ∧ isZero (total (scores.take i)) = false ∧
        ∃ score last, scores[i]? = some score ∧ scores[i - 1]? = some last ∧
          exceeds score (mul fallOff (divCount (total (scores.take i)) i)) = false ∧
          exceeds score (mul (mul fallOff slack) last) = false := by
  constructor
  · rintro ⟨henough, hsum, score, last, hscore, hlast, hfails⟩
    rw [hlesser, Bool.or_eq_false_iff] at hfails
    exact ⟨henough, hsum, score, last, hscore, hlast, hfails⟩
  · rintro ⟨henough, hsum, score, last, hscore, hlast, hfails⟩
    rw [← Bool.or_eq_false_iff, ← hlesser] at hfails
    exact ⟨henough, hsum, score, last, hscore, hlast, hfails⟩

theorem EndsBefore.lt_length {scores : List α} {i : Nat}
    (h : EndsBefore scores fallOff minResults i) : i < scores.length := by
  obtain ⟨score, -, hscore, -⟩ := h.score
  exact (List.getElem?_eq_some_iff.mp hscore).1

theorem EndsBefore.of_le {scores : List α} {i m : Nat} (hm : m ≤ minResults)
    (h : EndsBefore scores fallOff minResults i) : EndsBefore scores fallOff m i :=
  ⟨Nat.le_trans hm h.enough, h.sum, h.score⟩

/-- What stands behind a position does not count. -/
theorem endsBefore_append_iff {xs : List α} {i : Nat} (hi : i < xs.length) (ys : List α) :
    EndsBefore (xs ++ ys) fallOff minResults i ↔ EndsBefore xs fallOff minResults i := by
  have htake : (xs ++ ys).take i = xs.take i := List.take_append_of_le_length (Nat.le_of_lt hi)
  have hscore : (xs ++ ys)[i]? = xs[i]? := List.getElem?_append_left hi
  have hlast : (xs ++ ys)[i - 1]? = xs[i - 1]? := List.getElem?_append_left (by omega)
  constructor
  · rintro ⟨henough, hsum, h⟩
    rw [htake] at hsum
    rw [htake, hscore, hlast] at h
    exact ⟨henough, hsum, h⟩
  · rintro ⟨henough, hsum, h⟩
    rw [← htake] at hsum
    rw [← htake, ← hscore, ← hlast] at h
    exact ⟨henough, hsum, h⟩

theorem endsBefore_take_iff {xs : List α} {n i : Nat} (hi : i < n) (hn : n ≤ xs.length) :
    EndsBefore (xs.take n) fallOff minResults i ↔ EndsBefore xs fallOff minResults i := by
  have hlength : i < (xs.take n).length := by rw [List.length_take]; omega
  rw [← endsBefore_append_iff hlength (xs.drop n), List.take_append_drop]

/-! ### The walk -/

/-- The list has its cutoff after `n` scores: it does not end earlier, and it ends there. -/
structure IsCutoff (scores : List α) (fallOff : α) (minResults n : Nat) : Prop where
  le_length : n ≤ scores.length
  before : ∀ i < n, ¬ EndsBefore scores fallOff minResults i
  here : n < scores.length → EndsBefore scores fallOff minResults n

theorem IsCutoff.unique {scores : List α} {n n' : Nat}
    (h : IsCutoff scores fallOff minResults n) (h' : IsCutoff scores fallOff minResults n') :
    n = n' := by
  rcases Nat.lt_trichotomy n n' with hlt | heq | hgt
  · exact absurd (h.here (Nat.lt_of_lt_of_le hlt h'.le_length)) (h'.before n hlt)
  · exact heq
  · exact absurd (h'.here (Nat.lt_of_lt_of_le hgt h.le_length)) (h.before n' hgt)

variable (hzero : isZero (zero : α) = true)
include hzero

/-- The walk looks at a score with what it remembers of the scores before. -/
theorem endsBefore_length_iff (before : List α) (score : α) (rest : List α) :
    EndsBefore (before ++ score :: rest) fallOff minResults before.length ↔
      minResults ≤ before.length ∧ (trailOf before).admits fallOff score = false := by
  have htake : (before ++ score :: rest).take before.length = before := List.take_left
  have hscore : (before ++ score :: rest)[before.length]? = some score := by simp
  rw [Trail.admits, Trail.threshold, count_trailOf, sum_trailOf, Bool.or_eq_false_iff]
  rcases List.eq_nil_or_concat' before with rfl | ⟨init, last, rfl⟩
  · -- No score at all adds up to zero.
    have hsum : isZero (total ([] : List α)) = true := hzero
    constructor
    · rintro ⟨-, h, -⟩
      exact absurd hsum (by rw [htake] at h; simp [h])
    · rintro ⟨-, h, -⟩
      exact absurd hsum (by simp [h])
  · have hlast : (init ++ [last] ++ score :: rest)[(init ++ [last]).length - 1]? = some last := by
      simp
    rw [last_trailOf]
    constructor
    · rintro ⟨henough, hsum, score', last', hscore', hlast', hfails⟩
      obtain rfl : score = score' := Option.some.inj (hscore.symm.trans hscore')
      obtain rfl : last = last' := Option.some.inj (hlast.symm.trans hlast')
      rw [htake] at hsum hfails
      exact ⟨henough, hsum, hfails⟩
    · rintro ⟨henough, hsum, hfails⟩
      refine ⟨henough, ?_, score, last, hscore, hlast, ?_⟩
      · rw [htake]
        exact hsum
      · rw [htake]
        exact hfails

theorem isCutoff_cutoffFrom (before rest : List α)
    (hbefore : ∀ i < before.length, ¬ EndsBefore (before ++ rest) fallOff minResults i) :
    IsCutoff (before ++ rest) fallOff minResults
      (cutoffFrom fallOff minResults (trailOf before) rest) := by
  induction rest generalizing before with
  | nil =>
    rw [cutoffFrom, count_trailOf]
    refine ⟨by simp, hbefore, ?_⟩
    intro h
    simp at h
  | cons score rest ih =>
    have hends : EndsBefore (before ++ score :: rest) fallOff minResults before.length ↔ _ :=
      endsBefore_length_iff hzero before score rest
    unfold cutoffFrom
    by_cases hcut : (minResults ≤ (trailOf before).count && !(trailOf before).admits fallOff score)
    · rw [if_pos hcut, count_trailOf]
      refine ⟨by simp, hbefore, ?_⟩
      intro _
      apply hends.mpr
      simpa [count_trailOf] using hcut
    · rw [if_neg hcut, ← trailOf_concat]
      have hnext := ih (before ++ [score])
      rw [List.append_assoc, List.singleton_append] at hnext
      apply hnext
      intro i hi
      rw [List.length_append, List.length_singleton] at hi
      rcases Nat.lt_succ_iff_lt_or_eq.mp hi with hlt | rfl
      · exact hbefore i hlt
      · intro h
        apply hcut
        simpa [count_trailOf] using hends.mp h

theorem isCutoff_cutoff (scores : List α) (fallOff : α) (minResults : Nat) :
    IsCutoff scores fallOff minResults (cutoff scores fallOff minResults) :=
  isCutoff_cutoffFrom hzero [] scores (by simp)

theorem cutoff_le_length (scores : List α) (fallOff : α) (minResults : Nat) :
    cutoff scores fallOff minResults ≤ scores.length :=
  (isCutoff_cutoff hzero scores fallOff minResults).le_length

/-! ### What is kept -/

/-- The number of scores that are kept in any case. -/
theorem min_le_cutoff (scores : List α) (fallOff : α) (minResults : Nat) :
    min minResults scores.length ≤ cutoff scores fallOff minResults := by
  have hcut := isCutoff_cutoff hzero scores fallOff minResults
  by_cases hlt : cutoff scores fallOff minResults < scores.length
  · have henough := (hcut.here hlt).enough
    omega
  · omega

theorem cutoff_pos {scores : List α} (hscores : scores ≠ []) (fallOff : α) (minResults : Nat) :
    0 < cutoff scores fallOff minResults := by
  have hcut := isCutoff_cutoff hzero scores fallOff minResults
  apply Nat.pos_of_ne_zero
  intro hnone
  rw [hnone] at hcut
  have hends := hcut.here (List.length_pos_of_ne_nil hscores)
  -- Nothing stands before the first score, so there is nothing to fall behind.
  have hsum := hends.sum
  rw [List.take_zero] at hsum
  exact absurd (show isZero (total ([] : List α)) = true from hzero) (by simp [hsum])

theorem cutoff_eq_length
    (hadd : ∀ x y : α, isZero x = true → isZero y = true → isZero (add x y) = true)
    {scores : List α} (hscores : ∀ score ∈ scores, isZero score = true) (fallOff : α)
    (minResults : Nat) : cutoff scores fallOff minResults = scores.length := by
  have htotal : ∀ l : List α, (∀ score ∈ l, isZero score = true) → isZero (total l) = true := by
    intro l
    induction l using List.reverseRecOn with
    | nil => exact fun _ => hzero
    | append_singleton l score ih =>
      intro hl
      rw [total, List.foldl_concat]
      apply hadd
      · exact ih fun score' hmem => hl score' (List.mem_append_left _ hmem)
      · exact hl score (by simp)
  have hcut := isCutoff_cutoff hzero scores fallOff minResults
  rcases Nat.lt_or_eq_of_le hcut.le_length with hlt | heq
  · have hsum := (hcut.here hlt).sum
    rw [htotal _ fun score hmem => hscores score (List.mem_of_mem_take hmem)] at hsum
    cases hsum
  · exact heq

/-! ### Other lists -/

/-- A cutoff inside a list is not moved by what is appended. -/
theorem cutoff_append_of_lt {xs : List α} (h : cutoff xs fallOff minResults < xs.length)
    (ys : List α) : cutoff (xs ++ ys) fallOff minResults = cutoff xs fallOff minResults := by
  have hcut := isCutoff_cutoff hzero xs fallOff minResults
  refine (isCutoff_cutoff hzero (xs ++ ys) fallOff minResults).unique ⟨?_, ?_, ?_⟩
  · rw [List.length_append]
    omega
  · intro i hi hends
    exact hcut.before i hi ((endsBefore_append_iff (Nat.lt_trans hi h) ys).mp hends)
  · intro _
    exact (endsBefore_append_iff h ys).mpr (hcut.here h)

theorem length_le_cutoff_append {xs : List α} (h : ¬ cutoff xs fallOff minResults < xs.length)
    (ys : List α) : xs.length ≤ cutoff (xs ++ ys) fallOff minResults := by
  have hcut := isCutoff_cutoff hzero xs fallOff minResults
  have hlonger := isCutoff_cutoff hzero (xs ++ ys) fallOff minResults
  apply Nat.le_of_not_lt
  intro hlt
  have hends := hlonger.here (by rw [List.length_append]; omega)
  exact hcut.before _ (by omega) ((endsBefore_append_iff hlt ys).mp hends)

/-- What is kept has no cutoff of its own. -/
theorem cutoff_take (scores : List α) (fallOff : α) (minResults : Nat) :
    cutoff (scores.take (cutoff scores fallOff minResults)) fallOff minResults
      = cutoff scores fallOff minResults := by
  have hcut := isCutoff_cutoff hzero scores fallOff minResults
  have hlength : (scores.take (cutoff scores fallOff minResults)).length
      = cutoff scores fallOff minResults :=
    List.length_take_of_le hcut.le_length
  refine (isCutoff_cutoff hzero _ fallOff minResults).unique ⟨?_, ?_, ?_⟩
  · exact Nat.le_of_eq hlength.symm
  · intro i hi hends
    exact hcut.before i hi ((endsBefore_take_iff hi hcut.le_length).mp hends)
  · intro h
    omega

/-- Where more positions end a list, the cutoff comes no later. -/
theorem cutoff_le_cutoff {scores scores' : List α} {fallOff' : α} {minResults' : Nat}
    (hlength : scores'.length = scores.length)
    (h : ∀ i, EndsBefore scores fallOff minResults i → EndsBefore scores' fallOff' minResults' i) :
    cutoff scores' fallOff' minResults' ≤ cutoff scores fallOff minResults := by
  have hcut := isCutoff_cutoff hzero scores fallOff minResults
  have hcut' := isCutoff_cutoff hzero scores' fallOff' minResults'
  apply Nat.le_of_not_lt
  intro hlt
  have hends := hcut.here (by rw [← hlength]; exact Nat.lt_of_lt_of_le hlt hcut'.le_length)
  exact hcut'.before _ hlt (h _ hends)

theorem cutoff_mono (scores : List α) (fallOff : α) {m m' : Nat} (hm : m ≤ m') :
    cutoff scores fallOff m ≤ cutoff scores fallOff m' :=
  cutoff_le_cutoff hzero rfl fun _ hends => hends.of_le hm

end Walk

/-! ### Machine numbers -/

theorem isZero_zero : ScoreArithmetic.isZero (zero : Scalar) = true := rfl

/-- Adding zeros of either sign makes no other number of them. -/
theorem isZero_add (x y : Scalar) (hx : ScoreArithmetic.isZero x = true)
    (hy : ScoreArithmetic.isZero y = true) : ScoreArithmetic.isZero (add x y) = true := by
  rcases x.isZero_iff.mp hx with rfl | rfl
  · rcases y.isZero_iff.mp hy with rfl | rfl
    · decide
    · decide
  · rcases y.isZero_iff.mp hy with rfl | rfl
    · decide
    · decide

end Cutoff

open Cutoff ScoreArithmetic

/-! ### Documents -/

namespace QualityFilter

variable (filter : QualityFilter) (docs : List Document)

theorem length_scoresOf : (scoresOf docs).length = docs.length := List.length_map _

theorem length_kept :
    (filter.kept docs).length = cutoff (scoresOf docs) filter.fallOff filter.minResults.toNat := by
  have hle := cutoff_le_length isZero_zero (scoresOf docs) filter.fallOff filter.minResults.toNat
  rw [length_scoresOf] at hle
  rw [kept, List.length_take_of_le hle]

theorem kept_kept : filter.kept (filter.kept docs) = filter.kept docs := by
  have hscores : scoresOf (filter.kept docs)
      = (scoresOf docs).take (cutoff (scoresOf docs) filter.fallOff filter.minResults.toNat) :=
    List.map_take ..
  apply List.take_of_length_le
  rw [length_kept, hscores, cutoff_take isZero_zero]

end QualityFilter

/-- **The cutoff in one sentence.**  It is the first position before which the list ends, and
    the length of the list where there is none.  The list ends before a score that exceeds
    neither its share of the average nor that of the score before it.  So the cutoff leaves what
    is kept in any case and one score at least, and all of them where all are zero.  A quality
    filter keeps as many documents. -/
theorem cutoff_is_first_end (scores : List Scalar) (fallOff : Scalar) (minResults : Nat) :
    (∀ i, EndsBefore scores fallOff minResults i ↔
      minResults ≤ i ∧ (total (scores.take i)).isZero = false ∧
        ∃ score last, scores[i]? = some score ∧ scores[i - 1]? = some last ∧
          exceeds score (mul fallOff (divCount (total (scores.take i)) i)) = false ∧
          exceeds score (mul (mul fallOff slack) last) = false) ∧
    ((∃ i, EndsBefore scores fallOff minResults i) →
      IsLeast {i | EndsBefore scores fallOff minResults i} (cutoff scores fallOff minResults)) ∧
    ((¬ ∃ i, EndsBefore scores fallOff minResults i) →
      cutoff scores fallOff minResults = scores.length) ∧
    min minResults scores.length ≤ cutoff scores fallOff minResults ∧
    (scores ≠ [] → 0 < cutoff scores fallOff minResults) ∧
    ((∀ score ∈ scores, score.isZero = true) →
      cutoff scores fallOff minResults = scores.length) ∧
    ∀ (filter : QualityFilter) (docs : List Document), (filter.kept docs).length
      = cutoff (scoresOf docs) filter.fallOff filter.minResults.toNat := by
  have hcut := isCutoff_cutoff isZero_zero scores fallOff minResults
  refine ⟨fun i => endsBefore_iff Scalar.exceeds_lesser, ?_, ?_,
    min_le_cutoff isZero_zero scores fallOff minResults, ?_, ?_, QualityFilter.length_kept⟩
  · rintro ⟨i, hi⟩
    have hleast : ∀ j, EndsBefore scores fallOff minResults j →
        cutoff scores fallOff minResults ≤ j := by
      intro j hj
      apply Nat.le_of_not_lt
      intro hlt
      exact hcut.before j hlt hj
    exact ⟨hcut.here (Nat.lt_of_le_of_lt (hleast i hi) hi.lt_length), hleast⟩
  · intro hnone
    rcases Nat.lt_or_eq_of_le hcut.le_length with hlt | heq
    · exact absurd ⟨_, hcut.here hlt⟩ hnone
    · exact heq
  · intro hscores
    exact cutoff_pos isZero_zero hscores fallOff minResults
  · intro hscores
    exact cutoff_eq_length isZero_zero isZero_add hscores fallOff minResults

/-- Scores that stop being good after the third one: 10, 9, 8, 1, 1. -/
def decayedScores : List Scalar :=
  [⟨0x4024000000000000⟩, ⟨0x4022000000000000⟩, ⟨0x4020000000000000⟩, .one, .one]

def oneHalf : Scalar := ⟨0x3FE0000000000000⟩

/-- Half the average of the first three scores is 4.5, and the share of the third is 4.4. -/
theorem endsBefore_decayedScores : EndsBefore decayedScores oneHalf 2 3 where
  enough := by decide
  sum := by decide +kernel
  score := ⟨.one, ⟨0x4020000000000000⟩, rfl, rfl, by decide +kernel⟩

/-- Scores of which the last one lies between the two shares: 10, 9, 8, 4.45. -/
def steadyScores : List Scalar := decayedScores.take 3 ++ [⟨0x4011CCCCCCCCCCCD⟩]

theorem cutoff_is_first_end_decayedScores :
    IsLeast {i | EndsBefore decayedScores oneHalf 2 i} (cutoff decayedScores oneHalf 2) ∧
      0 < cutoff decayedScores oneHalf 2 ∧ cutoff decayedScores oneHalf 2 = 3 ∧
      cutoff [] oneHalf 2 = 0 ∧ cutoff [.zero, .zero] oneHalf 0 = 2 ∧
      -- The score 4.45 does not exceed half the average, but it exceeds the share of 8.
      exceeds ⟨0x4011CCCCCCCCCCCD⟩ (mul oneHalf (divCount (total (steadyScores.take 3)) 3)) = false ∧
      ¬ EndsBefore steadyScores oneHalf 2 3 ∧ cutoff steadyScores oneHalf 2 = 4 := by
  obtain ⟨-, hleast, -, -, hpos, -⟩ := cutoff_is_first_end decayedScores oneHalf 2
  obtain ⟨-, -, hnone, -⟩ := cutoff_is_first_end [] oneHalf 2
  obtain ⟨-, -, -, -, -, hzeros, -⟩ := cutoff_is_first_end [.zero, .zero] oneHalf 0
  obtain ⟨hends, -⟩ := cutoff_is_first_end steadyScores oneHalf 2
  refine ⟨hleast ⟨3, endsBefore_decayedScores⟩, hpos (List.cons_ne_nil _ _), by decide +kernel,
    hnone ?_, hzeros (by decide), by decide +kernel, ?_, by decide +kernel⟩
  · rintro ⟨i, hi⟩
    exact absurd hi.lt_length (Nat.not_lt_zero i)
  · intro h
    obtain ⟨-, -, score, last, hscore, hlast, -, hshare⟩ := (hends 3).mp h
    cases hscore
    cases hlast
    revert hshare
    decide +kernel

/-- **The cutoff is stable.**  What is appended to a list does not move a cutoff inside it, and
    does not bring one about.  A greater number of documents to keep does not lower it.  A
    quality filter keeps the documents at the beginning as they are, and keeps all that it kept
    before. -/
theorem cutoff_is_stable (xs ys : List Scalar) (fallOff : Scalar) {m m' : Nat} (hm : m ≤ m') :
    (cutoff xs fallOff m < xs.length →
      cutoff (xs ++ ys) fallOff m = cutoff xs fallOff m) ∧
    (¬ cutoff xs fallOff m < xs.length → xs.length ≤ cutoff (xs ++ ys) fallOff m) ∧
    cutoff xs fallOff m ≤ cutoff xs fallOff m' ∧
    ∀ (filter : QualityFilter) (docs : List Document),
      filter.kept (filter.kept docs) = filter.kept docs ∧ filter.kept docs <+: docs := by
  refine ⟨?_, ?_, cutoff_mono isZero_zero xs fallOff hm, ?_⟩
  · intro h
    exact cutoff_append_of_lt isZero_zero h ys
  · intro h
    exact length_le_cutoff_append isZero_zero h ys
  · intro filter docs
    exact ⟨filter.kept_kept docs, List.take_prefix _ docs⟩

theorem cutoff_is_stable_decayedScores :
    2 ≤ 4 ∧ cutoff decayedScores oneHalf 2 < decayedScores.length ∧
      cutoff (decayedScores ++ decayedScores) oneHalf 2 = cutoff decayedScores oneHalf 2 ∧
      cutoff decayedScores oneHalf 2 ≤ cutoff decayedScores oneHalf 4 := by
  have hinside : cutoff decayedScores oneHalf 2 < decayedScores.length := by decide +kernel
  obtain ⟨happend, -, hmono, -⟩ :=
    cutoff_is_stable decayedScores decayedScores oneHalf (show 2 ≤ 4 by decide)
  exact ⟨by decide, hinside, happend hinside, hmono⟩

end Retrieval

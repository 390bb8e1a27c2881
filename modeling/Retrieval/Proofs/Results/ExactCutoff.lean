/-
  Retrieval/Proofs/Results/ExactCutoff.lean
  =========================================
  **The cutoff in exact arithmetic.**

  Without rounding, the test on a score is a pair of inequalities: a list ends before a score
  that is at most a share of the average of the scores before it and at most a slightly greater
  share of the last of them (`endsBefore_exact_iff`).  Both bounds grow with the share and
  stretch with the scores, as long as no score is negative, and the cutoff follows them.

  A score at the bound ends the list.  For a share below one this makes no difference, since
  the bound then lies below the average.  The whole of the average, however, is a bound that
  an average score does not exceed: a list of equal scores is cut as soon as it may be.
-/
import Mathlib.Algebra.Field.Rat
import Mathlib.Algebra.Order.Field.Basic
import Mathlib.Algebra.Order.BigOperators.Group.List
import Mathlib.Algebra.BigOperators.Ring.List
import Mathlib.Algebra.Order.Ring.Rat
import Mathlib.Tactic.NormNum
import Mathlib.Tactic.Positivity
import Retrieval.Proofs.Results.CutoffPoint

namespace Retrieval

section Exact

variable {K : Type} [Semifield K]

/-! ### Averages -/

def average (scores : List K) : K := scores.sum / scores.length

theorem average_map_mul (c : K) (scores : List K) :
    average (scores.map (c * ·)) = c * average scores := by
  rw [average, average, List.length_map, List.sum_map_mul_left, List.map_id', mul_div_assoc]

theorem average_replicate [CharZero K] {n : ℕ} (hn : n ≠ 0) (s : K) :
    average (List.replicate n s) = s := by
  rw [average, List.sum_replicate, List.length_replicate, nsmul_eq_mul]
  exact mul_div_cancel_left₀ s (Nat.cast_ne_zero.mpr hn)

/-! ### Ends -/

variable [LinearOrder K]

/-- The arithmetic of an ordered field, of which the negative numbers are not needed. -/
instance : ScoreArithmetic K where
  zero := 0
  slack := 11 / 10
  add x y := x + y
  mul x y := x * y
  divCount x n := x / n
  lesser := min
  isZero x := decide (x = 0)
  exceeds x y := decide (y < x)

namespace Cutoff

theorem isZero_exact_zero : ScoreArithmetic.isZero (ScoreArithmetic.zero : K) = true :=
  decide_eq_true rfl

theorem total_exact (scores : List K) : total scores = scores.sum := List.sum_eq_foldl.symm

theorem exceeds_lesser_exact (score x y : K) :
    ScoreArithmetic.exceeds score (ScoreArithmetic.lesser x y) =
      (ScoreArithmetic.exceeds score x || ScoreArithmetic.exceeds score y) := by
  rw [Bool.eq_iff_iff, Bool.or_eq_true]
  simp only [ScoreArithmetic.exceeds, ScoreArithmetic.lesser, decide_eq_true_iff]
  exact min_lt_iff

theorem endsBefore_exact_iff {scores : List K} {fallOff : K} {minResults i : ℕ} :
    EndsBefore scores fallOff minResults i ↔
      minResults ≤ i ∧ (scores.take i).sum ≠ 0 ∧
        ∃ score last, scores[i]? = some score ∧ scores[i - 1]? = some last ∧
          score ≤ fallOff * average (scores.take i) ∧ score ≤ fallOff * (11 / 10) * last := by
  have hlength : ∀ score, scores[i]? = some score → (scores.take i).length = i := by
    intro score hscore
    exact List.length_take_of_le (Nat.le_of_lt (List.getElem?_eq_some_iff.mp hscore).1)
  rw [endsBefore_iff exceeds_lesser_exact, total_exact]
  constructor
  · rintro ⟨henough, hsum, score, last, hscore, hlast, haverage, hprevious⟩
    refine ⟨henough, of_decide_eq_false hsum, score, last, hscore, hlast, ?_, ?_⟩
    · rw [average, hlength score hscore]
      exact not_lt.mp (of_decide_eq_false haverage)
    · exact not_lt.mp (of_decide_eq_false hprevious)
  · rintro ⟨henough, hsum, score, last, hscore, hlast, haverage, hprevious⟩
    rw [average, hlength score hscore] at haverage
    exact ⟨henough, decide_eq_false hsum, score, last, hscore, hlast,
      decide_eq_false (not_lt.mpr haverage), decide_eq_false (not_lt.mpr hprevious)⟩

end Cutoff

variable [IsStrictOrderedRing K]

theorem average_nonneg {scores : List K} (h : ∀ s ∈ scores, 0 ≤ s) : 0 ≤ average scores :=
  div_nonneg (List.sum_nonneg h) (Nat.cast_nonneg _)

theorem average_pos {scores : List K} (h : ∀ s ∈ scores, 0 ≤ s) (hsum : scores.sum ≠ 0) :
    0 < average scores := by
  have hlength : 0 < scores.length := by
    apply List.length_pos_of_ne_nil
    rintro rfl
    exact hsum rfl
  exact div_pos (lt_of_le_of_ne (List.sum_nonneg h) (Ne.symm hsum)) (Nat.cast_pos.mpr hlength)

namespace Cutoff

/-! ### Other shares, other scales, equal scores -/

/-- A greater share ends a list wherever a lesser one does. -/
theorem EndsBefore.of_share_le {scores : List K} (hscores : ∀ s ∈ scores, 0 ≤ s)
    {fallOff fallOff' : K} (hshare : fallOff ≤ fallOff') {minResults i : ℕ}
    (h : EndsBefore scores fallOff minResults i) : EndsBefore scores fallOff' minResults i := by
  obtain ⟨henough, hsum, score, last, hscore, hlast, haverage, hprevious⟩ :=
    endsBefore_exact_iff.mp h
  have hbefore : 0 ≤ average (scores.take i) :=
    average_nonneg fun s hs => hscores s (List.mem_of_mem_take hs)
  have hlast' : 0 ≤ last := hscores last (List.mem_of_getElem? hlast)
  refine endsBefore_exact_iff.mpr ⟨henough, hsum, score, last, hscore, hlast, ?_, ?_⟩
  · exact haverage.trans (mul_le_mul_of_nonneg_right hshare hbefore)
  · apply hprevious.trans
    apply mul_le_mul_of_nonneg_right _ hlast'
    exact mul_le_mul_of_nonneg_right hshare (by positivity)

/-- Both bounds are stretched as the scores are. -/
theorem endsBefore_map_mul_iff {c : K} (hc : 0 < c) (scores : List K) (fallOff : K)
    (minResults i : ℕ) :
    EndsBefore (scores.map (c * ·)) fallOff minResults i ↔
      EndsBefore scores fallOff minResults i := by
  have hsum : (scores.take i |>.map (c * ·)).sum ≠ 0 ↔ (scores.take i).sum ≠ 0 := by
    rw [List.sum_map_mul_left, List.map_id']
    exact (mul_ne_zero_iff_left hc.ne')
  have haverage : ∀ score, c * score ≤ fallOff * (c * average (scores.take i)) ↔
      score ≤ fallOff * average (scores.take i) := by
    intro score
    rw [mul_left_comm, mul_le_mul_iff_right₀ hc]
  have hprevious : ∀ score last, c * score ≤ fallOff * (11 / 10) * (c * last) ↔
      score ≤ fallOff * (11 / 10) * last := by
    intro score last
    rw [mul_left_comm, mul_le_mul_iff_right₀ hc]
  rw [endsBefore_exact_iff, endsBefore_exact_iff, ← List.map_take, hsum, average_map_mul]
  simp only [List.getElem?_map, Option.map_eq_some_iff]
  constructor
  · rintro ⟨henough, hne, _, _, ⟨score, hscore, rfl⟩, ⟨last, hlast, rfl⟩, h, h'⟩
    exact ⟨henough, hne, score, last, hscore, hlast, (haverage score).mp h,
      (hprevious score last).mp h'⟩
  · rintro ⟨henough, hne, score, last, hscore, hlast, h, h'⟩
    exact ⟨henough, hne, _, _, ⟨score, hscore, rfl⟩, ⟨last, hlast, rfl⟩, (haverage score).mpr h,
      (hprevious score last).mpr h'⟩

/-- A list of equal scores ends at the whole average alone. -/
theorem endsBefore_replicate_iff {fallOff : K} (hle : fallOff ≤ 1) {n : ℕ} {s : K} (hs : 0 ≤ s)
    (minResults i : ℕ) :
    EndsBefore (List.replicate n s) fallOff minResults i ↔
      (minResults ≤ i ∧ 0 < i ∧ i < n) ∧ s ≠ 0 ∧ fallOff = 1 := by
  have hbefore : i < n → (List.replicate n s).take i = List.replicate i s := by
    intro hi
    rw [List.take_replicate, Nat.min_eq_left (Nat.le_of_lt hi)]
  rw [endsBefore_exact_iff]
  simp only [List.getElem?_replicate, Option.ite_none_right_eq_some, Option.some.injEq]
  constructor
  · rintro ⟨henough, hsum, score, last, ⟨hi, rfl⟩, ⟨-, rfl⟩, haverage, -⟩
    rw [hbefore hi, List.sum_replicate, nsmul_eq_mul, mul_ne_zero_iff, Nat.cast_ne_zero] at hsum
    obtain ⟨hpos, hne⟩ := hsum
    rw [hbefore hi, average_replicate hpos] at haverage
    have hshare : 1 ≤ fallOff := le_of_mul_le_mul_right (by rwa [one_mul])
      (lt_of_le_of_ne hs (Ne.symm hne))
    exact ⟨⟨henough, Nat.pos_of_ne_zero hpos, hi⟩, hne, le_antisymm hle hshare⟩
  · rintro ⟨⟨henough, hpos, hi⟩, hne, rfl⟩
    rw [hbefore hi, average_replicate hpos.ne', List.sum_replicate, nsmul_eq_mul, mul_ne_zero_iff,
      Nat.cast_ne_zero]
    have hslack : (1 : K) ≤ 11 / 10 := (one_le_div (by positivity)).mpr (by norm_num)
    refine ⟨henough, ⟨hpos.ne', hne⟩, s, s, ⟨hi, rfl⟩, ⟨by omega, rfl⟩, by rw [one_mul], ?_⟩
    rw [one_mul]
    exact le_mul_of_one_le_left hs hslack

end Cutoff

open Cutoff

/-! ### Below the average -/

/-- The score at the cutoff is at most a share of a positive average. -/
theorem score_cutoff_le {scores : List K} (hscores : ∀ s ∈ scores, 0 ≤ s) {fallOff : K}
    {minResults : ℕ} {score : K} (h : scores[cutoff scores fallOff minResults]? = some score) :
    0 < average (scores.take (cutoff scores fallOff minResults)) ∧
      score ≤ fallOff * average (scores.take (cutoff scores fallOff minResults)) := by
  have hlt := (List.getElem?_eq_some_iff.mp h).1
  have hends := (isCutoff_cutoff isZero_exact_zero scores fallOff minResults).here hlt
  obtain ⟨-, hsum, score', -, hscore, -, haverage, -⟩ := endsBefore_exact_iff.mp hends
  obtain rfl : score = score' := Option.some.inj (h.symm.trans hscore)
  exact ⟨average_pos (fun s hs => hscores s (List.mem_of_mem_take hs)) hsum, haverage⟩

/-- Equal scores are kept whole, unless they have to exceed their own average. -/
theorem cutoff_replicate {fallOff : K} (hle : fallOff ≤ 1) {s : K} (hs : 0 ≤ s)
    (n minResults : ℕ) :
    cutoff (List.replicate n s) fallOff minResults
      = if fallOff < 1 ∨ s = 0 then n else min n (max minResults 1) := by
  apply (isCutoff_cutoff isZero_exact_zero _ fallOff minResults).unique
  by_cases hkept : fallOff < 1 ∨ s = 0
  · rw [if_pos hkept]
    refine ⟨by rw [List.length_replicate], ?_, by simp⟩
    intro i _ hends
    obtain ⟨-, hne, hone⟩ := (endsBefore_replicate_iff hle hs minResults i).mp hends
    rcases hkept with hshare | hzero
    · exact hshare.ne hone
    · exact hne hzero
  · obtain ⟨hshare, hne⟩ := not_or.mp hkept
    have hone : fallOff = 1 := le_antisymm hle (not_lt.mp hshare)
    rw [if_neg hkept]
    refine ⟨by rw [List.length_replicate]; exact Nat.min_le_left _ _, ?_, ?_⟩
    · intro i hi hends
      obtain ⟨⟨henough, hpos, -⟩, -⟩ := (endsBefore_replicate_iff hle hs minResults i).mp hends
      omega
    · intro hlt
      rw [List.length_replicate] at hlt
      exact (endsBefore_replicate_iff hle hs minResults _).mpr ⟨by omega, hne, hone⟩

/-- **What is cut lies below the average, unless the share is the whole.**  The score at the
    cutoff is at most its share of the average of the scores before it.  So it lies below the
    average for every share below one, and for no other share is this so of all lists.  Equal
    scores are kept whole for these shares.  Where they would have to exceed the whole of the
    average, as few of them are kept as may be, unless they are all zero. -/
theorem cut_score_lt_average_iff {fallOff : K} (hle : fallOff ≤ 1) :
    ((∀ (scores : List K) (minResults : ℕ) (score : K), (∀ s ∈ scores, 0 ≤ s) →
        scores[cutoff scores fallOff minResults]? = some score →
        score < average (scores.take (cutoff scores fallOff minResults))) ↔ fallOff < 1) ∧
    (∀ (scores : List K) (minResults : ℕ) (score : K), (∀ s ∈ scores, 0 ≤ s) →
      scores[cutoff scores fallOff minResults]? = some score →
      0 < average (scores.take (cutoff scores fallOff minResults)) ∧
        score ≤ fallOff * average (scores.take (cutoff scores fallOff minResults))) ∧
    ∀ (n minResults : ℕ) (s : K), 0 ≤ s →
      cutoff (List.replicate n s) fallOff minResults
        = if fallOff < 1 ∨ s = 0 then n else min n (max minResults 1) := by
  refine ⟨⟨?_, ?_⟩, fun scores minResults score hscores h => score_cutoff_le hscores h,
    fun n minResults s hs => cutoff_replicate hle hs n minResults⟩
  · intro hbelow
    by_contra hshare
    -- Two ones: the second is cut, and is no less than the first.
    have hcut : cutoff (List.replicate 2 (1 : K)) fallOff 0 = 1 := by
      rw [cutoff_replicate hle zero_le_one, if_neg (by simp [hshare])]
      rfl
    have hlt := hbelow (List.replicate 2 1) 0 1 (by simp) (by rw [hcut]; rfl)
    rw [hcut] at hlt
    exact absurd hlt (by simp [average])
  · intro hshare scores minResults score hscores h
    obtain ⟨haverage, hscore⟩ := score_cutoff_le hscores h
    calc score ≤ fallOff * average (scores.take (cutoff scores fallOff minResults)) := hscore
      _ < 1 * average (scores.take (cutoff scores fallOff minResults)) :=
        mul_lt_mul_of_pos_right hshare haverage
      _ = average (scores.take (cutoff scores fallOff minResults)) := one_mul _

/-- Half the average of the first three scores is 4.5, and 1 lies below it. -/
theorem cut_score_lt_average_iff_decayed :
    (1 / 2 : ℚ) ≤ 1 ∧ (∀ s ∈ [(10 : ℚ), 9, 8, 1, 1], 0 ≤ s) ∧
      cutoff [(10 : ℚ), 9, 8, 1, 1] (1 / 2) 2 = 3 ∧ (1 : ℚ) < average [10, 9, 8] ∧
      cutoff (List.replicate 4 (3 : ℚ)) (1 / 2) 1 = 4 := by
  have hcut : cutoff [(10 : ℚ), 9, 8, 1, 1] (1 / 2) 2 = 3 := by decide +kernel
  have hscores : ∀ s ∈ [(10 : ℚ), 9, 8, 1, 1], 0 ≤ s := by decide +kernel
  obtain ⟨hbelow, -, hequal⟩ :=
    cut_score_lt_average_iff (show (1 / 2 : ℚ) ≤ 1 by norm_num)
  have hlt := hbelow.mpr (by norm_num) [10, 9, 8, 1, 1] 2 1 hscores (by rw [hcut]; rfl)
  rw [hcut] at hlt
  refine ⟨by norm_num, hscores, hcut, hlt, ?_⟩
  rw [hequal 4 1 3 (by norm_num), if_pos (Or.inl (by norm_num))]

/-- Of three equal scores one is kept where a score has to exceed the whole average.  It is so
    with machine numbers, too. -/
theorem equal_scores_cut :
    cutoff [(3 : ℚ), 3, 3] 1 1 = 1 ∧ average ([(3 : ℚ), 3, 3].take 1) = 3 ∧
      cutoff [⟨0x4008000000000000⟩, ⟨0x4008000000000000⟩, ⟨0x4008000000000000⟩] Scalar.one 1 = 1 ∧
      ¬ ∀ (scores : List ℚ) (fallOff : ℚ) (minResults : ℕ) (score : ℚ), (∀ s ∈ scores, 0 ≤ s) →
        0 < fallOff → fallOff ≤ 1 → scores[cutoff scores fallOff minResults]? = some score →
        score < average (scores.take (cutoff scores fallOff minResults)) := by
  have hcut : cutoff [(3 : ℚ), 3, 3] 1 1 = 1 := by decide +kernel
  have haverage : average ([(3 : ℚ), 3, 3].take 1) = 3 := by norm_num [average]
  refine ⟨hcut, haverage, by decide +kernel, fun hbelow => ?_⟩
  have hlt := hbelow [3, 3, 3] 1 1 3 (by decide +kernel) (by norm_num) (by norm_num)
    (by rw [hcut]; rfl)
  rw [hcut, haverage] at hlt
  exact lt_irrefl _ hlt

/-- **The cutoff goes with the share and against no scale.**  A greater share keeps no more, as
    long as no score is negative.  Scores that are all stretched alike are cut alike. -/
theorem cutoff_antitone_and_scale_invariant (scores : List K) (minResults : ℕ) :
    ((∀ s ∈ scores, 0 ≤ s) → ∀ fallOff fallOff' : K, fallOff ≤ fallOff' →
      cutoff scores fallOff' minResults ≤ cutoff scores fallOff minResults) ∧
    ∀ c fallOff : K, 0 < c →
      cutoff (scores.map (c * ·)) fallOff minResults = cutoff scores fallOff minResults := by
  constructor
  · intro hscores fallOff fallOff' hshare
    exact cutoff_le_cutoff isZero_exact_zero rfl fun i hends => hends.of_share_le hscores hshare
  · intro c fallOff hc
    have hlength : (scores.map (c * ·)).length = scores.length := List.length_map _
    apply Nat.le_antisymm
    · exact cutoff_le_cutoff isZero_exact_zero hlength fun i =>
        (endsBefore_map_mul_iff hc scores fallOff minResults i).mpr
    · exact cutoff_le_cutoff isZero_exact_zero hlength.symm fun i =>
        (endsBefore_map_mul_iff hc scores fallOff minResults i).mp

theorem cutoff_antitone_and_scale_invariant_decayed :
    (∀ s ∈ [(10 : ℚ), 9, 8, 1, 1], 0 ≤ s) ∧ (1 / 2 : ℚ) ≤ 9 / 10 ∧ (0 : ℚ) < 7 ∧
      cutoff [(10 : ℚ), 9, 8, 1, 1] (9 / 10) 1 ≤ cutoff [(10 : ℚ), 9, 8, 1, 1] (1 / 2) 1 ∧
      cutoff ([(10 : ℚ), 9, 8, 1, 1].map (7 * ·)) (1 / 2) 1
        = cutoff [(10 : ℚ), 9, 8, 1, 1] (1 / 2) 1 := by
  have hscores : ∀ s ∈ [(10 : ℚ), 9, 8, 1, 1], 0 ≤ s := by decide +kernel
  obtain ⟨hshare, hscale⟩ := cutoff_antitone_and_scale_invariant [(10 : ℚ), 9, 8, 1, 1] 1
  exact ⟨hscores, by norm_num, by norm_num, hshare hscores _ _ (by norm_num),
    hscale 7 _ (by norm_num)⟩

end Exact

end Retrieval

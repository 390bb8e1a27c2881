/-
  Retrieval/Proofs/Results/MachineScores.lean
  ===========================================
  **Machine numbers as scores.**

  The cutoff compares scores as machine numbers, and `Scalar.lesser` prefers a number to
  not-a-number.  That it is the lesser of two numbers rests on the order of machine
  numbers, which is linear:

    * every number has a place on one line, from negative infinity over the negative
      numbers, the zeros and the positive numbers to positive infinity (`place?`);
    * a number is less than another one exactly when its place is (`lt_iff_place?`);
    * not-a-number has no place, and the bits tell which scalars these are (`isNaN_iff`).

  A score therefore exceeds the lesser of two scalars exactly when it exceeds one of them
  (`exceeds_lesser`).
-/
import Mathlib
import Retrieval.Results.Cutoff

namespace Retrieval

open Float.Model (UnpackedFloat Format)
open Float.Model.UnpackedFloat

/-! ### Places -/

/-- The place of a number: its level, then exponent and mantissa, which count downwards
    below zero. -/
def place? : UnpackedFloat → Option (Int ×ₗ Int ×ₗ Int)
  | .notANumber => none
  | .infinity sign => some (toLex (sign.apply 2, toLex (0, 0)))
  | .zero _ => some (toLex (0, toLex (0, 0)))
  | .finite sign mantissa exponent _ =>
    some (toLex (sign.apply 1, toLex (sign.apply exponent, sign.apply mantissa)))

theorem place?_eq_none_iff (x : UnpackedFloat) : place? x = none ↔ x = .notANumber := by
  cases x <;> simp [place?]

theorem lt_iff_place? (x y : UnpackedFloat) :
    x.lt y = true ↔ ∃ p q, place? x = some p ∧ place? y = some q ∧ p < q := by
  unfold UnpackedFloat.lt
  cases x with
  | notANumber => cases y <;> simp [UnpackedFloat.compare, place?]
  | infinity s =>
    cases y with
    | notANumber => cases s <;> simp [UnpackedFloat.compare, place?]
    | infinity t =>
      cases s <;> cases t <;>
        simp [UnpackedFloat.compare, place?, compare, Sign.apply, Prod.Lex.toLex_lt_toLex]
    | zero t =>
      cases s <;> simp [UnpackedFloat.compare, place?, Sign.apply, Prod.Lex.toLex_lt_toLex]
    | finite t m e h =>
      cases s <;> cases t <;>
        simp [UnpackedFloat.compare, place?, Sign.apply, Prod.Lex.toLex_lt_toLex]
  | zero s =>
    cases y with
    | notANumber => simp [UnpackedFloat.compare, place?]
    | infinity t =>
      cases t <;> simp [UnpackedFloat.compare, place?, Sign.apply, Prod.Lex.toLex_lt_toLex]
    | zero t => simp [UnpackedFloat.compare, place?]
    | finite t m e h =>
      cases t <;> simp [UnpackedFloat.compare, place?, Sign.apply, Prod.Lex.toLex_lt_toLex]
  | finite s m e h =>
    cases y with
    | notANumber => cases s <;> simp [UnpackedFloat.compare, place?]
    | infinity t =>
      cases s <;> cases t <;>
        simp [UnpackedFloat.compare, place?, Sign.apply, Prod.Lex.toLex_lt_toLex]
    | zero t =>
      cases s <;> simp [UnpackedFloat.compare, place?, Sign.apply, Prod.Lex.toLex_lt_toLex]
    | finite t n f h' =>
      -- Two numbers of one sign are compared by exponent and mantissa.
      cases s <;> cases t <;>
        simp [UnpackedFloat.compare, place?, Sign.apply, Prod.Lex.toLex_lt_toLex,
          Ordering.then_eq_lt, Ordering.then_eq_gt, compare_lt_iff_lt, compare_gt_iff_gt]

/-! ### Not-a-number -/

namespace Scalar

theorem isNaNBits_iff (x : Scalar) :
    @isNaNBits .binary64 x.bits.toBitVec = true ↔ x.isNaN = true := by
  simp [isNaNBits, unpackExponent, unpackMantissa, isNaN, exponentField, fraction,
    ← BitVec.toNat_inj, BitVec.extractLsb_toNat, Nat.shiftRight_eq_div_pow]

theorem isNaN_iff (x : Scalar) : x.isNaN = true ↔ place? x.toFloat.toModel.unpack = none := by
  -- A machine number keeps the bits of a number, and one pattern for all others.
  have hbits : x.toFloat.toModel.toBits.toBitVec =
      if @isNaNBits .binary64 x.bits.toBitVec then packedNaN .binary64
      else x.bits.toBitVec :=
    @pack_unpack .binary64 x.bits.toBitVec (by decide)
  have hpattern : x.toFloat.toModel.toBits.toBitVec = packedNaN .binary64 ↔ x.isNaN = true := by
    rw [hbits, ← isNaNBits_iff]
    by_cases h : @isNaNBits .binary64 x.bits.toBitVec = true
    · rw [if_pos h]
      exact iff_of_true rfl h
    · rw [if_neg h]
      refine iff_of_false ?_ h
      intro heq
      rw [heq] at h
      exact h isNaNBits_packedNaN
  rw [← hpattern, place?_eq_none_iff]
  exact (unpack_eq_notANumber_iff_of_valid x.toFloat.toModel.valid).symm

/-! ### The lesser of two scalars -/

theorem lt_iff (x y : Scalar) :
    x.toFloat < y.toFloat ↔ ∃ p q, place? x.toFloat.toModel.unpack = some p ∧
      place? y.toFloat.toModel.unpack = some q ∧ p < q := by
  rw [← lt_iff_place?]
  exact decide_eq_true_iff

theorem lt_irrefl (x : Scalar) : ¬ x.toFloat < x.toFloat := by
  intro h
  obtain ⟨p, q, hp, hq, hlt⟩ := (lt_iff x x).mp h
  rw [hp] at hq
  cases hq
  exact Std.lt_irrefl hlt

theorem lt_trans {x y z : Scalar} (hxy : x.toFloat < y.toFloat) (hyz : y.toFloat < z.toFloat) :
    x.toFloat < z.toFloat := by
  obtain ⟨p, q, hp, hq, hpq⟩ := (lt_iff x y).mp hxy
  obtain ⟨q', r, hq', hr, hqr⟩ := (lt_iff y z).mp hyz
  rw [hq] at hq'
  cases hq'
  exact (lt_iff x z).mpr ⟨p, r, hp, hr, hpq.trans hqr⟩

theorem not_lt_of_isNaN {x : Scalar} (hx : x.isNaN = true) (y : Scalar) :
    ¬ x.toFloat < y.toFloat := by
  intro h
  obtain ⟨p, q, hp, -⟩ := (lt_iff x y).mp h
  rw [x.isNaN_iff.mp hx] at hp
  cases hp

/-- Among numbers, what is above a number is above every number that is not above it. -/
theorem lt_of_not_lt {x y z : Scalar} (hx : ¬ x.isNaN = true) (hyx : ¬ y.toFloat < x.toFloat)
    (hyz : y.toFloat < z.toFloat) : x.toFloat < z.toFloat := by
  obtain ⟨q, r, hq, hr, hqr⟩ := (lt_iff y z).mp hyz
  obtain ⟨p, hp⟩ := Option.ne_none_iff_exists'.mp (mt x.isNaN_iff.mpr hx)
  have hpq : p ≤ q := by
    apply le_of_not_gt
    intro hlt
    exact hyx ((lt_iff y x).mpr ⟨q, p, hq, hp, hlt⟩)
  exact (lt_iff x z).mpr ⟨p, r, hp, hr, hpq.trans_lt hqr⟩

theorem lesser_lt_iff (x y z : Scalar) :
    (lesser x y).toFloat < z.toFloat ↔ x.toFloat < z.toFloat ∨ y.toFloat < z.toFloat := by
  unfold lesser
  by_cases hx : x.isNaN = true
  · rw [if_pos hx]
    exact (or_iff_right (not_lt_of_isNaN hx z)).symm
  · rw [if_neg hx]
    by_cases hy : y.isNaN = true
    · rw [if_pos hy]
      exact (or_iff_left (not_lt_of_isNaN hy z)).symm
    · rw [if_neg hy]
      by_cases hless : y.toFloat < x.toFloat
      · rw [if_pos hless]
        exact (or_iff_right_of_imp (lt_trans hless)).symm
      · rw [if_neg hless]
        exact (or_iff_left_of_imp (lt_of_not_lt hx hless)).symm

/-- The lesser of two scalars is one of them, and neither of them is less. -/
theorem lesser_spec (x y : Scalar) :
    (lesser x y = x ∨ lesser x y = y) ∧ ¬ x.toFloat < (lesser x y).toFloat ∧
      ¬ y.toFloat < (lesser x y).toFloat := by
  have hmin := mt (lesser_lt_iff x y (lesser x y)).mpr (lt_irrefl (lesser x y))
  refine ⟨?_, fun h => hmin (.inl h), fun h => hmin (.inr h)⟩
  unfold lesser
  split
  · exact .inr rfl
  · split
    · exact .inl rfl
    · split
      · exact .inr rfl
      · exact .inl rfl

/-- A score falls below the lesser of two bounds when it falls below both. -/
theorem exceeds_lesser (score x y : Scalar) :
    ScoreArithmetic.exceeds score (ScoreArithmetic.lesser x y) =
      (ScoreArithmetic.exceeds score x || ScoreArithmetic.exceeds score y) := by
  rw [Bool.eq_iff_iff, Bool.or_eq_true]
  simp only [ScoreArithmetic.exceeds, ScoreArithmetic.lesser, decide_eq_true_iff]
  exact lesser_lt_iff x y score

end Scalar

end Retrieval

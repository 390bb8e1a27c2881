/-
  Retrieval/Decimal/Shortest.lean
  ===============================
  **The fewest digits that identify a binary number.**

  Among the decimals that round to a given binary number, `shortest` selects one
  with as few digits as possible, and among those the nearest one.  Two candidates
  can be equally near; which one wins is a decision of the format that prints them
  (`Tie`).

  The search tries one digit, two digits and so on.  On the grid of decimals with
  `n` digits only the two neighbours of the number can be nearest, so two membership
  tests per grid suffice.
-/
import Retrieval.Decimal.Dyadic

namespace Retrieval.Decimal

/-- Which of two equally near candidates is selected. -/
inductive Tie where
  /-- The one with an even last digit. -/
  | toEven
  /-- The larger one. -/
  | up
deriving DecidableEq, Repr

/-- The least `k` with `x < 10 ^ k`, for a positive number.  The binary logarithm gives
    an estimate that is at most two too small. -/
def Dyadic.scale (x : Dyadic) : Int :=
  let log := (x.mantissa.log2 : Int) + x.exponent
  let guess := log * 30103 / 100000
  if x.belowPowerOfTen guess then guess
  else if x.belowPowerOfTen (guess + 1) then guess + 1
  else guess + 2

/-- The selected point of the grid of multiples of `10 ^ g`, if one of the number's two
    neighbours on it rounds to the number. -/
def Dyadic.onGrid? (x : Dyadic) (tie : Tie) (g : Int) : Option Expansion :=
  let below := x.gridBelow g
  let lower : Expansion := ⟨below, g⟩
  let upper : Expansion := ⟨below + 1, g⟩
  match x.readsBack lower, x.readsBack upper with
  | false, false => none
  | true, false => some lower
  | false, true => some upper
  | true, true =>
    match compareScaled (2 * below + 1) g (2 * x.mantissa) x.exponent, tie with
    | .gt, _ => some lower
    | .lt, _ => some upper
    | .eq, .up => some upper
    | .eq, .toEven => some (if below % 2 == 0 then lower else upper)

/-- Move trailing zeros of the digits into the exponent, at most `fuel` of them. -/
def Expansion.trim : Nat → Expansion → Expansion
  | 0, d => d
  | fuel + 1, d =>
    if d.digits ≠ 0 ∧ d.digits % 10 = 0 then trim fuel ⟨d.digits / 10, d.exponent + 1⟩ else d

def Dyadic.exact (x : Dyadic) : Expansion :=
  if x.exponent < 0 then ⟨x.mantissa * Nat.pow 5 (-x.exponent).toNat, x.exponent⟩
  else ⟨x.mantissa * Nat.pow 2 x.exponent.toNat, 0⟩

/-- The shortest decimal that rounds to a positive number.  Seventeen digits are
    always enough for the formats used here; beyond them the exact value stands in. -/
def Dyadic.shortest (x : Dyadic) (tie : Tie) : Expansion :=
  let k := x.scale
  let found := (List.range 17).findSome? fun (n : Nat) => x.onGrid? tie (k - 1 - n)
  (found.getD x.exact).trim 400

end Retrieval.Decimal

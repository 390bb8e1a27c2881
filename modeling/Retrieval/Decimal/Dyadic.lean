/-
  Retrieval/Decimal/Dyadic.lean
  =============================
  **Finite binary numbers as mantissa times a power of two.**

  A finite number of a binary format is `mantissa * 2 ^ exponent`, up to its sign.
  The real numbers that round to it form an interval from halfway to the neighbour
  below to halfway to the neighbour above.  At a power of two the neighbour below is
  only half as far away (`narrowBelow`).  The ends belong to the interval exactly
  when the mantissa is even, since ties round to even.

  `readsBack` decides membership of a decimal in that interval by exact integer
  comparison.
-/

namespace Retrieval.Decimal

/-- A finite non-negative binary number, `mantissa * 2 ^ exponent`. -/
structure Dyadic where
  mantissa : Nat
  exponent : Int
  /-- The neighbour below is half as far away as the neighbour above. -/
  narrowBelow : Bool
deriving DecidableEq, Repr

/-- The number with the given exponent field and fraction field, in a format with
    `width` fraction bits whose least exponent is `least`. -/
def Dyadic.ofFields (width : Nat) (least : Int) (exponentField fraction : Nat) : Dyadic :=
  if exponentField = 0 then ⟨fraction, least, false⟩
  else ⟨Nat.pow 2 width + fraction, least + exponentField - 1, fraction == 0 && exponentField > 1⟩

/-- The number with the given 64 bits, sign disregarded.  Infinities and the
    not-a-number pattern have no such form and are to be excluded first. -/
def Dyadic.ofBits64 (bits : UInt64) : Dyadic :=
  ofFields 52 (-1074) (bits.toNat / Nat.pow 2 52 % Nat.pow 2 11) (bits.toNat % Nat.pow 2 52)

/-- The number with the given 32 bits, sign disregarded. -/
def Dyadic.ofBits32 (bits : UInt32) : Dyadic :=
  ofFields 23 (-149) (bits.toNat / Nat.pow 2 23 % Nat.pow 2 8) (bits.toNat % Nat.pow 2 23)

/-- A finite decimal expansion, `digits * 10 ^ exponent`. -/
structure Expansion where
  digits : Nat
  exponent : Int
deriving DecidableEq, Repr

/-- Compare `a * 10 ^ i` with `n * 2 ^ j`, exactly. -/
def compareScaled (a : Nat) (i : Int) (n : Nat) (j : Int) : Ordering :=
  compare (a * Nat.pow 10 i.toNat * Nat.pow 2 (-j).toNat)
    (n * Nat.pow 2 j.toNat * Nat.pow 10 (-i).toNat)

/-- Whether a decimal lies among the reals that round to the number. -/
def Dyadic.readsBack (x : Dyadic) (d : Expansion) : Bool :=
  let low := if x.narrowBelow then 4 * x.mantissa - 1 else 4 * x.mantissa - 2
  let high := 4 * x.mantissa + 2
  let closed := x.mantissa % 2 == 0
  let atLow := compareScaled d.digits d.exponent low (x.exponent - 2)
  let atHigh := compareScaled d.digits d.exponent high (x.exponent - 2)
  (atLow == .gt || (closed && atLow == .eq)) && (atHigh == .lt || (closed && atHigh == .eq))

def Dyadic.belowPowerOfTen (x : Dyadic) (k : Int) : Bool :=
  compareScaled 1 k x.mantissa x.exponent == .gt

/-- The number of multiples of `10 ^ g` up to the number. -/
def Dyadic.gridBelow (x : Dyadic) (g : Int) : Nat :=
  x.mantissa * Nat.pow 2 x.exponent.toNat * Nat.pow 10 (-g).toNat /
    (Nat.pow 2 (-x.exponent).toNat * Nat.pow 10 g.toNat)

end Retrieval.Decimal

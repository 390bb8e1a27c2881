/-
  Retrieval/Decimal/Style.lean
  ============================
  **Laying out a number as text.**

  Which digits a number gets is settled by `shortest`.  Where the point stands, when
  an exponent is used and how a whole number looks are decisions of the format that
  is written.  A `Style` record collects these decisions, and `Style.positive` is the
  one function that follows them.
-/
import Retrieval.Decimal.Shortest

namespace Retrieval.Decimal

/-- The decisions of a number format. -/
structure Style where
  /-- Numbers whose leading digit stands for a power of ten in `least ≤ e < limit` are
      written without an exponent; `none` writes no exponent at all. -/
  positional : Option (Int × Int)
  /-- A whole number keeps a fractional part: `2.0`. -/
  keepsFraction : Bool
  /-- A non-negative exponent is written with a plus sign. -/
  plusSign : Bool
  /-- Which of two equally near candidates is written. -/
  tie : Tie

def digitChars (n : Nat) : List Char := Nat.toDigits 10 n

def signedChars (n : Int) : List Char :=
  if n < 0 then '-' :: digitChars n.natAbs else digitChars n.natAbs

def naturalText (n : Nat) : String := String.ofList (digitChars n)

def integerText (n : Int) : String := String.ofList (signedChars n)

/-- Digits with the point after the first `before` of them, where `before` may be
    negative or exceed their number. -/
def Style.placePoint (style : Style) (digits : List Char) (before : Int) : List Char :=
  if before ≤ 0 then '0' :: '.' :: (List.replicate (-before).toNat '0' ++ digits)
  else
    let whole := digits.take before.toNat
    let padding := List.replicate (before.toNat - digits.length) '0'
    match digits.drop before.toNat with
    | [] => whole ++ padding ++ (if style.keepsFraction then ['.', '0'] else [])
    | fraction => whole ++ '.' :: fraction

/-- Digits with one of them before the point, followed by the exponent. -/
def Style.scientific (style : Style) (digits : List Char) (e : Int) : List Char :=
  let mark := if style.plusSign && decide (0 ≤ e) then ['e', '+'] else ['e']
  match digits with
  | [] => []
  | [d] => d :: (mark ++ signedChars e)
  | d :: fraction => d :: '.' :: (fraction ++ mark ++ signedChars e)

def Style.positive (style : Style) (x : Dyadic) : List Char :=
  let d := x.shortest style.tie
  let digits := digitChars d.digits
  let before := d.exponent + digits.length
  match style.positional with
  | none => style.placePoint digits before
  | some (least, limit) =>
    if least ≤ before - 1 ∧ before - 1 < limit then style.placePoint digits before
    else style.scientific digits (before - 1)

/-- The text of a finite non-negative number. -/
def Style.magnitude (style : Style) (x : Dyadic) : List Char :=
  if x.mantissa = 0 then (if style.keepsFraction then ['0', '.', '0'] else ['0'])
  else style.positive x

end Retrieval.Decimal

/-
  Retrieval/Json/Numeral.lean
  ===========================
  **Numbers in JSON text.**

  `Numeral.scan?` reads the longest numeral at the start of a text: an optional minus
  sign, a whole part without leading zeros, an optional fraction and an optional
  exponent.  `Numeral.value?` says which number it stands for.

  A numeral without fraction and exponent that fits 64 bits is exact.  Every other one
  becomes a double in two rounded steps: its leading digits, as many as fit 64 bits,
  are rounded to a double, and this is multiplied or divided by a power of ten.  The
  result can differ from the nearest double in its last bit.  A numeral that exceeds
  every double has no value.
-/
import Retrieval.Json.Value

namespace Retrieval.Json

/-- The parts of a numeral. -/
structure Numeral where
  /-- A minus sign stands in front. -/
  negative : Bool
  /-- The digits before the point. -/
  whole : List Nat
  /-- The digits after the point, if there is a point. -/
  fraction : Option (List Nat)
  /-- The exponent, if there is one. -/
  exponent : Option Int
deriving DecidableEq, Repr

namespace Numeral

/-! ### Reading -/

def digit? (c : Char) : Option Nat :=
  if '0' ≤ c ∧ c ≤ '9' then some (c.toNat - '0'.toNat) else none

/-- The digits at the start of a text and what follows them. -/
def digits : List Char → List Nat × List Char
  | [] => ([], [])
  | c :: rest =>
    match digit? c with
    | some d => (d :: (digits rest).1, (digits rest).2)
    | none => ([], c :: rest)

def ofDigits (ds : List Nat) : Nat := ds.foldl (fun n d => 10 * n + d) 0

/-- The whole part: `0`, or digits that do not start with a zero. -/
def scanWhole? (text : List Char) : Option (List Nat × List Char) :=
  match digits text with
  | ([], _) => none
  | (0 :: _ :: _, _) => none
  | found => some found

/-- The fraction, which has at least one digit. -/
def scanFraction? : List Char → Option (Option (List Nat) × List Char)
  | '.' :: text =>
    match digits text with
    | ([], _) => none
    | (ds, rest) => some (some ds, rest)
  | text => some (none, text)

/-- The digits of an exponent, of which there is at least one. -/
def scanPower? (sign : Int) (text : List Char) : Option (Option Int × List Char) :=
  match digits text with
  | ([], _) => none
  | (ds, rest) => some (some (sign * ofDigits ds), rest)

def scanSignedPower? : List Char → Option (Option Int × List Char)
  | '+' :: text => scanPower? 1 text
  | '-' :: text => scanPower? (-1) text
  | text => scanPower? 1 text

def scanExponent? : List Char → Option (Option Int × List Char)
  | 'e' :: text => scanSignedPower? text
  | 'E' :: text => scanSignedPower? text
  | text => some (none, text)

def scanUnsigned? (negative : Bool) (text : List Char) : Option (Numeral × List Char) := do
  let (whole, text) ← scanWhole? text
  let (fraction, text) ← scanFraction? text
  let (exponent, text) ← scanExponent? text
  pure (⟨negative, whole, fraction, exponent⟩, text)

/-- The numeral at the start of a text and what follows it. -/
def scan? : List Char → Option (Numeral × List Char)
  | '-' :: text => scanUnsigned? true text
  | text => scanUnsigned? false text

/-! ### Value -/

/-- Append digits to a natural number as long as it fits 64 bits.  Returns the number
    and the digits left over. -/
def fitDigits (n : Nat) : List Nat → Nat × List Nat
  | [] => (n, [])
  | d :: rest => if 10 * n + d < UInt64.size then fitDigits (10 * n + d) rest else (n, d :: rest)

/-- A power of ten that a double can hold, as a float. -/
def powerOfTen (e : Nat) : Float := Float.ofScientific 1 false e

/-- A number below `2 ^ 64` times a power of ten.  Two divisions reach every power that
    leaves more than zero. -/
def scaled? (n : Nat) (e : Int) : Option Float :=
  let x := n.toUInt64.toFloat
  if 0 ≤ e then
    if n = 0 then some x
    else if e ≤ 308 then
      let y := x * powerOfTen e.toNat
      if y.isInf then none else some y
    else none
  else if -308 ≤ e then some (x / powerOfTen (-e).toNat)
  else if -616 ≤ e then some (x / powerOfTen 308 / powerOfTen (-e - 308).toNat)
  else some 0

def real? (m : Numeral) : Option Scalar :=
  let (head, left) := fitDigits 0 m.whole
  let fraction := m.fraction.getD []
  let (n, unread) := fitDigits head fraction
  let used : Int := fraction.length - unread.length
  match scaled? n (left.length - used + m.exponent.getD 0) with
  | none => none
  | some x => some (Scalar.ofFloat (if m.negative then -x else x))

/-- The number that a numeral stands for, if a double can hold it.  A minus sign before
    zero makes the negative zero, which no whole number is. -/
def value? (m : Numeral) : Option Number :=
  let n := ofDigits m.whole
  if m.fraction.isNone && m.exponent.isNone && decide (n < UInt64.size) then
    if !m.negative then some (.natural n.toUInt64)
    else if 0 < n ∧ n ≤ Nat.pow 2 63 then some (.negative (Int64.ofInt (-n)))
    else m.real?.map .real
  else m.real?.map .real

end Numeral

end Retrieval.Json

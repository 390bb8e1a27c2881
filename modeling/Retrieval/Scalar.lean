/-
  Retrieval/Scalar.lean
  =====================
  **Scalars: double-precision numbers compared bit by bit.**

  Weights and coordinates stand inside expressions that are compared for equality and
  used as keys, so a scalar *is* its bit pattern: two scalars are equal exactly when
  their 64 bits agree.  A zero and a negative zero differ, and the not-a-number
  pattern equals itself.

  Classification (`isZero`, `isFinite`, …) reads the bits.  Arithmetic goes through
  `toFloat` and is confined to the few places that need it.

  Three texts of a scalar exist, and all three use the fewest digits that identify
  the number:

  * the *inspection form* keeps a fractional part: `2.0`, `1e16`, `-0.0`;
  * the *plain form* never has an exponent or a needless fraction: `2`, `-0`;
  * the *JSON form* signs every exponent: `1e+16`.
-/
import Retrieval.Decimal.Style

namespace Retrieval

open Decimal

/-- A double-precision number, given by its bits. -/
structure Scalar where
  bits : UInt64
deriving DecidableEq, Repr

namespace Scalar

/-! ### Bits -/

def isNegative (s : Scalar) : Bool := s.bits.toNat ≥ Nat.pow 2 63

def exponentField (s : Scalar) : Nat := s.bits.toNat / Nat.pow 2 52 % Nat.pow 2 11

def fraction (s : Scalar) : Nat := s.bits.toNat % Nat.pow 2 52

def isFinite (s : Scalar) : Bool := s.exponentField != 2047

def isNaN (s : Scalar) : Bool := s.exponentField == 2047 && s.fraction != 0

def isZero (s : Scalar) : Bool := s.bits.toNat % Nat.pow 2 63 == 0

def one : Scalar := ⟨0x3FF0000000000000⟩

def zero : Scalar := ⟨0⟩

/-! ### Conversions -/

/-- The number as a machine float, for arithmetic. -/
def toFloat (s : Scalar) : Float := Float.ofBits s.bits

def ofFloat (x : Float) : Scalar := ⟨x.toBits⟩

/-- The nearest scalar to a 64-bit natural number. -/
def ofUInt64 (n : UInt64) : Scalar := ofFloat n.toFloat

/-- The nearest scalar to a 64-bit integer. -/
def ofInt64 (n : Int64) : Scalar := ofFloat n.toFloat

/-- The scalar of a 32-bit integer, which it represents exactly. -/
def ofInt32 (n : Int32) : Scalar := ofFloat n.toFloat

/-- The scalar rounded to single precision and widened again. -/
def toSingle (s : Scalar) : Scalar := ofFloat s.toFloat.toFloat32.toFloat

/-! ### Texts -/

/-- The inspection form: positional from `0.0001` to below `1e16`, always with a
    fraction, ties upward. -/
def inspectionStyle : Style := ⟨some (-4, 16), true, false, .up⟩

/-- The plain form: always positional, no needless fraction, ties upward. -/
def plainStyle : Style := ⟨none, false, false, .up⟩

/-- The JSON form: positional from `0.00001` to below `1e16`, signed exponents, ties to
    an even digit. -/
def jsonStyle : Style := ⟨some (-5, 16), true, true, .toEven⟩

/-- The text in a given style.  Special values are spelled alike in every style. -/
def text (style : Style) (s : Scalar) : String :=
  if s.isNaN then "NaN"
  else
    let magnitude :=
      if s.isFinite then style.magnitude (Dyadic.ofBits64 s.bits) else "inf".toList
    String.ofList (if s.isNegative then '-' :: magnitude else magnitude)

def display (s : Scalar) : String := s.text inspectionStyle

def plain (s : Scalar) : String := s.text plainStyle

/-- The form inside JSON text.  It is only asked of finite scalars. -/
def jsonText (s : Scalar) : String := s.text jsonStyle

/-- The scalar with its constructor, as messages show it. -/
def inspect (s : Scalar) : String := "Scalar(" ++ s.display ++ ")"

end Scalar

/-- The plain form of a single-precision number, with the digits that identify it in
    that precision. -/
def plainSingle (x : Float32) : String :=
  let bits := x.toBits
  let exponentField := bits.toNat / Nat.pow 2 23 % Nat.pow 2 8
  let fraction := bits.toNat % Nat.pow 2 23
  if exponentField = 255 ∧ fraction ≠ 0 then "NaN"
  else
    let magnitude :=
      if exponentField = 255 then "inf".toList
      else Scalar.plainStyle.magnitude (Dyadic.ofBits32 bits)
    String.ofList (if bits.toNat ≥ Nat.pow 2 31 then '-' :: magnitude else magnitude)

end Retrieval

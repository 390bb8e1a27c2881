/-
  Retrieval/Text/FormEncoded.lean
  ===============================
  **The form encoding of key/value pairs.**

  A pair list travels as `key=value&key=value`.  Letters, digits and the four
  marks `*`, `-`, `.` and `_` stand for themselves, a space becomes `+`, and every
  other byte of the UTF-8 form becomes `%` with two upper-case hexadecimal digits.
-/

namespace Retrieval.Text.FormEncoded

def isPlain (b : UInt8) : Bool :=
  let n := b.toNat
  (0x30 ≤ n && n ≤ 0x39) || (0x41 ≤ n && n ≤ 0x5A) || (0x61 ≤ n && n ≤ 0x7A) ||
    n == 0x2A || n == 0x2D || n == 0x2E || n == 0x5F

/-- The upper-case hexadecimal digit of a number below sixteen. -/
def hexDigit (n : Nat) : Char := Char.ofNat (if n < 10 then 0x30 + n else 0x37 + n)

def encodeByte (b : UInt8) : List Char :=
  if isPlain b then [Char.ofNat b.toNat]
  else if b == 0x20 then ['+']
  else ['%', hexDigit (b.toNat / 16), hexDigit (b.toNat % 16)]

def encode (text : String) : String :=
  String.ofList ((text.toList.flatMap String.utf8EncodeChar).flatMap encodeByte)

def encodePair (pair : String × String) : String := encode pair.1 ++ "=" ++ encode pair.2

def encodePairs (pairs : List (String × String)) : String :=
  String.intercalate "&" (pairs.map encodePair)

end Retrieval.Text.FormEncoded

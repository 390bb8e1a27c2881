/-
  Retrieval/Schema/Token.lean
  ===========================
  **Values as tokens.**

  A value on the right-hand side of a field clause becomes a *token*, the text that a
  backend matches.  Numbers use their plain form, dates and moments are written in
  universal time to the second.
-/
import Retrieval.Calendar
import Retrieval.GeoPoint

namespace Retrieval

open Decimal

/-- Types whose values can be matched. -/
class Matchable (α : Type) where
  /-- The text that a backend matches. -/
  token : α → String

def token {α : Type} [Matchable α] (value : α) : String := Matchable.token value

instance : Matchable String := ⟨id⟩
instance : Matchable Bool := ⟨fun b => if b then "true" else "false"⟩
instance : Matchable Int32 := ⟨fun n => integerText n.toInt⟩
instance : Matchable Int64 := ⟨fun n => integerText n.toInt⟩
instance : Matchable UInt32 := ⟨fun n => naturalText n.toNat⟩
instance : Matchable UInt64 := ⟨fun n => naturalText n.toNat⟩
instance : Matchable Scalar := ⟨Scalar.plain⟩
instance : Matchable Float32 := ⟨plainSingle⟩
instance : Matchable Date := ⟨Date.token⟩
instance : Matchable Moment := ⟨Moment.token⟩
instance : Matchable GeoPoint := ⟨GeoPoint.param⟩

end Retrieval

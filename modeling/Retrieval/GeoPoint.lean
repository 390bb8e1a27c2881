/-
  Retrieval/GeoPoint.lean
  =======================
  **Points on the globe.**

  `GeoPoint.ofDegrees` checks the range of both coordinates.  A point that is read
  from JSON or put together by hand is not checked.
-/
import Retrieval.Failure
import Retrieval.Json.Decode

namespace Retrieval

open Json

/-- A point, in degrees. -/
structure GeoPoint where
  /-- Degrees north of the equator. -/
  lat : Scalar
  /-- Degrees east of the prime meridian. -/
  lng : Scalar
deriving DecidableEq, Repr

/-- Whether a scalar is a number between `-bound` and `bound`. -/
def Scalar.isWithin (s : Scalar) (bound : Float) : Bool := -bound ≤ s.toFloat && s.toFloat ≤ bound

namespace GeoPoint

/-- The point with the given coordinates.  A latitude out of range is reported first. -/
def ofDegrees (lat lng : Scalar) : Except Failure GeoPoint :=
  if !lat.isWithin 90 then .error (.query (.latitude lat))
  else if !lng.isWithin 180 then .error (.query (.longitude lng))
  else .ok ⟨lat, lng⟩

/-- The form in which requests hold a point. -/
def param (p : GeoPoint) : String := p.lat.plain ++ "," ++ p.lng.plain

def toJson (p : GeoPoint) : Json := record [("lat", ofScalar p.lat), ("lng", ofScalar p.lng)]

def decoder : Decoder GeoPoint := fun levels source => do
  let r ← Record.ofSource? ["lat", "lng"] levels source
  pure ⟨← r.required "lat" Decode.scalar, ← r.required "lng" Decode.scalar⟩

end GeoPoint

end Retrieval

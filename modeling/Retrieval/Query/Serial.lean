/-
  Retrieval/Query/Serial.lean
  ===========================
  **Expressions as JSON.**

  An expression is written as an object with one member: the name of the constructor
  with its parts, a record where the parts have names.  The expression that matches
  everything has no parts and is a bare name.

  Reading takes every nested expression from a level further inside, so it recurses on
  the number of levels that are left.
-/
import Retrieval.Json.Decode
import Retrieval.Query.Inspect

namespace Retrieval

open Json

def DistanceShape.toJson (shape : DistanceShape) : Json := .string shape.name

def DistanceShape.ofName? : String → Option DistanceShape
  | "Arc" => some .arc
  | "Square" => some .square
  | _ => none

def DistanceShape.decoder : Decoder DistanceShape := Decode.choice DistanceShape.ofName?

namespace Query

mutual

def toJson : Query → Json
  | .splat => .string "Splat"
  | .term values escaped =>
    single "Term" (record [("values", texts values), ("escape", .bool escaped)])
  | .phrase value escaped =>
    single "Phrase" (record [("value", .string value), ("escape", .bool escaped)])
  | .words value escaped =>
    single "BagOfWords" (record [("value", .string value), ("escape", .bool escaped)])
  | .group q => single "Group" (toJson q)
  | .boost q w => single "Boost" (record [("query", toJson q), ("weight", ofScalar w)])
  | .range l h => single "Range" (record [("low", toJson l), ("high", toJson h)])
  | .allOf qs => single "And" (.array (toJsonAll qs))
  | .anyOf qs => single "Or" (.array (toJsonAll qs))
  | .distance f lat lng shape =>
    single "GeoDist" (record [("field", .string f), ("lat", ofScalar lat), ("lng", ofScalar lng),
      ("shape", shape.toJson)])
  | .reciprocal q x y z =>
    single "Recip" (record [("query", toJson q), ("x", ofScalar x), ("y", ofScalar y),
      ("z", ofScalar z)])
  | .fieldValue f => single "FieldValue" (.string f)

def toJsonAll : List Query → List Json
  | [] => []
  | q :: qs => toJson q :: toJsonAll qs

end

def decoder : Decoder Query
  | 0, source =>
    match variant? source with
    | some ("Splat", none) => some .splat
    | _ => none
  | levels + 1, source =>
    match variant? source with
    | some ("Splat", content) => if isBare content then some .splat else none
    | some ("Term", some content) => do
      let r ← Record.ofSource? ["values", "escape"] levels content
      pure (.term (← r.required "values" (Decode.list Decode.text))
        (← r.required "escape" Decode.flag))
    | some ("Phrase", some content) => do
      let r ← Record.ofSource? ["value", "escape"] levels content
      pure (.phrase (← r.required "value" Decode.text) (← r.required "escape" Decode.flag))
    | some ("BagOfWords", some content) => do
      let r ← Record.ofSource? ["value", "escape"] levels content
      pure (.words (← r.required "value" Decode.text) (← r.required "escape" Decode.flag))
    | some ("Group", some content) => (decoder levels content).map .group
    | some ("FieldValue", some content) => (Decode.text levels content).map .fieldValue
    | some ("GeoDist", some content) => do
      let r ← Record.ofSource? ["field", "lat", "lng", "shape"] levels content
      pure (.distance (← r.required "field" Decode.text) (← r.required "lat" Decode.scalar)
        (← r.required "lng" Decode.scalar) (← r.required "shape" DistanceShape.decoder))
    | some (name, some content) =>
      match levels with
      | 0 => none
      | levels + 1 =>
        match name, content with
        | "And", .array items => (items.mapM (decoder levels)).map .allOf
        | "Or", .array items => (items.mapM (decoder levels)).map .anyOf
        | "Boost", content => do
          let r ← Record.ofSource? ["query", "weight"] (levels + 1) content
          pure (.boost (← decoder levels (← r.part? "query")) (← r.required "weight" Decode.scalar))
        | "Range", content => do
          let r ← Record.ofSource? ["low", "high"] (levels + 1) content
          pure (.range (← decoder levels (← r.part? "low")) (← decoder levels (← r.part? "high")))
        | "Recip", content => do
          let r ← Record.ofSource? ["query", "x", "y", "z"] (levels + 1) content
          pure (.reciprocal (← decoder levels (← r.part? "query")) (← r.required "x" Decode.scalar)
            (← r.required "y" Decode.scalar) (← r.required "z" Decode.scalar))
        | _, _ => none
    | _ => none

end Query

end Retrieval

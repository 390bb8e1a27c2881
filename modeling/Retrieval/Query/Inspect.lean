/-
  Retrieval/Query/Inspect.lean
  ============================
  **The inspection form of expressions.**

  A message that rejects an expression shows it with its constructors (see
  `Retrieval.Text.Inspect` for the layout).  The form names every part of the tree, so
  it also serves as the key under which an expression is hashed.
-/
import Retrieval.Query.Basic
import Retrieval.Text.Inspect

namespace Retrieval

open Text

def DistanceShape.name : DistanceShape → String
  | .arc => "Arc"
  | .square => "Square"

namespace Query

mutual

def inspect : Query → String
  | .splat => "Splat"
  | .term values escaped =>
    Inspect.record "Term"
      [("values", Inspect.quotedList values), ("escape", Inspect.flag escaped)]
  | .phrase value escaped =>
    Inspect.record "Phrase"
      [("value", Inspect.quoted value), ("escape", Inspect.flag escaped)]
  | .words value escaped =>
    Inspect.record "BagOfWords"
      [("value", Inspect.quoted value), ("escape", Inspect.flag escaped)]
  | .group q => Inspect.variant "Group" (inspect q)
  | .boost q w => Inspect.record "Boost" [("query", inspect q), ("weight", w.inspect)]
  | .range l h => Inspect.record "Range" [("low", inspect l), ("high", inspect h)]
  | .allOf qs => Inspect.variant "And" (Inspect.list (inspectAll qs))
  | .anyOf qs => Inspect.variant "Or" (Inspect.list (inspectAll qs))
  | .distance f lat lng shape =>
    Inspect.record "GeoDist"
      [("field", Inspect.quoted f), ("lat", lat.inspect), ("lng", lng.inspect),
       ("shape", shape.name)]
  | .reciprocal q x y z =>
    Inspect.record "Recip"
      [("query", inspect q), ("x", x.inspect), ("y", y.inspect), ("z", z.inspect)]
  | .fieldValue f => Inspect.variant "FieldValue" (Inspect.quoted f)

def inspectAll : List Query → List String
  | [] => []
  | q :: qs => inspect q :: inspectAll qs

end

instance : Hashable Query := ⟨fun q => hash q.inspect⟩

end Query

end Retrieval

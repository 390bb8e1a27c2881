/-
  Retrieval/Document.lean
  =======================
  **Documents as a backend returns them.**

  A document is a dictionary of attributes.  Its score and its identity are also kept
  apart from the attributes, because a backend may report them elsewhere, and so are
  the fragments that it highlighted.
-/
import Retrieval.Failure
import Retrieval.Json.Decode

namespace Retrieval

open Json

/-- A returned document. -/
structure Document where
  attributes : Dict Json
  /-- The highlighted fragments of each field. -/
  highlights : Option (Dict (List String))
  score : Option Scalar
  id : Option String
deriving DecidableEq

/-- The text of a value that can identify something: a text or a number. -/
def Json.identity? : Json → Option String
  | .string text => some text
  | .number n => some n.text
  | _ => none

namespace Document

/-! ### Construction -/

/-- The document with the given attributes.  Score and identity are taken from the
    attributes of these names, where they have a suitable form. -/
def ofAttributes (attributes : Dict Json) : Document where
  attributes := attributes
  highlights := none
  score := (attributes.get? "score").bind Json.scalar?
  id := (attributes.get? "id").bind Json.identity?

/-- The same document with another score, or none. -/
def withScore (d : Document) (score : Option Scalar) : Document := { d with score }

/-- The same document with another identity. -/
def withId (d : Document) (id : String) : Document := { d with id := some id }

/-- The same document with highlighted fragments. -/
def withHighlights (d : Document) (fragments : Dict (List String)) : Document :=
  { d with highlights := some fragments }

/-! ### Access -/

def get? (d : Document) (name : String) : Option Json := d.attributes.get? name

def getText? (d : Document) (name : String) : Option String := (d.get? name).bind Json.text?

def getAs {α : Type} (d : Document) (decoder : Decoder α) (name : String) : Except Failure α :=
  match d.get? name with
  | none => .error (.query (.missingAttribute name))
  | some value =>
    match decoder.ofJson? value with
    | none => .error .json
    | some a => .ok a

/-- All attributes together as a value of some type. -/
def decodeAs {α : Type} (d : Document) (decoder : Decoder α) : Except Failure α :=
  match decoder.ofJson? (.object d.attributes) with
  | none => .error .json
  | some a => .ok a

def highlightsFor (d : Document) (field : String) : List String :=
  match d.highlights with
  | none => []
  | some fragments => (fragments.get? field).getD []

/-! ### JSON -/

/-- The JSON form of highlighted fragments. -/
def fragmentsJson (fragments : Dict (List String)) : Json := .object (fragments.mapValues texts)

def toJson (d : Document) : Json :=
  record [("attributes", .object d.attributes), ("highlights", ofOption fragmentsJson d.highlights),
    ("score", ofOption ofScalar d.score), ("id", ofOption .string d.id)]

def fragmentsDecoder : Decoder (Dict (List String)) := Decode.dict (Decode.list Decode.text)

def decoder : Decoder Document := fun levels source => do
  let r ← Record.ofSource? ["attributes", "highlights", "score", "id"] levels source
  pure ⟨← r.required "attributes" Decode.members, ← r.optional "highlights" fragmentsDecoder,
    ← r.optional "score" Decode.scalar, ← r.optional "id" Decode.text⟩

end Document

end Retrieval

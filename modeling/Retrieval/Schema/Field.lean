/-
  Retrieval/Schema/Field.lean
  ===========================
  **Typed fields and the clauses they make.**

  A field is a handle whose type says which values its clauses take.  Its descriptor
  says how the backend treats it.  The text of an *analyzed* field is cut into words,
  so a value is matched as a phrase; any other field is matched value by value.

  Every clause constructor wraps the caller's values in a group, so that they stay
  together behind the field name.
-/
import Retrieval.Clause.Basic
import Retrieval.Schema.Token
import Retrieval.Text.Inspect

namespace Retrieval

open Json Text

/-- What kind of values a field holds. -/
inductive FieldKind where
  /-- Analyzed text. -/
  | text
  /-- One text that is matched as it stands. -/
  | keyword
  /-- Several texts that are matched as they stand. -/
  | keywordList
  | integer
  | float
  | boolean
  | date
  | point
deriving DecidableEq, Repr

/-- What is known about a field. -/
structure FieldDescriptor where
  /-- The name under which documents hold the field. -/
  storedName : String
  /-- The name under which requests address it. -/
  queryName : String
  /-- Whether the backend cuts its text into words. -/
  analyzed : Bool
  kind : FieldKind
deriving DecidableEq, Repr

/-- A field whose clauses take values of type `α`. -/
structure Field (α : Type) where
  descriptor : FieldDescriptor
deriving DecidableEq, Repr

namespace Field

variable {α : Type}

/-! ### Declaration -/

/-- A field of the given kind, addressed by the name under which it is stored. -/
def ofKind (name : String) (kind : FieldKind) (analyzed : Bool) : Field α :=
  ⟨⟨name, name, analyzed, kind⟩⟩

def text (name : String) : Field String := ofKind name .text true

def keyword (name : String) : Field String := ofKind name .keyword false

def keywordList (name : String) : Field String := ofKind name .keywordList false

/-- The default fields together, as one field without a name. -/
def unscoped : Field String := ofKind "" .text true

def integer (name : String) : Field Int64 := ofKind name .integer false

def float (name : String) : Field Scalar := ofKind name .float false

def boolean (name : String) : Field Bool := ofKind name .boolean false

def date (name : String) : Field Moment := ofKind name .date false

def point (name : String) : Field GeoPoint := ofKind name .point false

/-- The same field, addressed by another name. -/
def withQueryName (f : Field α) (queryName : String) : Field α :=
  ⟨{ f.descriptor with queryName }⟩

/-- The name under which documents hold the field. -/
def name (f : Field α) : String := f.descriptor.storedName

/-- The name under which requests address the field. -/
def queryName (f : Field α) : String := f.descriptor.queryName

/-! ### Clauses -/

def leaf (f : Field α) (token : String) : Query :=
  if f.descriptor.analyzed then .phraseOf token else .exactly token

/-- The expression that matches any of several values.  No values at all stand for the
    empty value. -/
def anyLeaf (f : Field α) (tokens : List String) : Query :=
  if tokens.isEmpty then .group (.exactly "")
  else if f.descriptor.analyzed then .group (.anyOf (tokens.map .phraseOf))
  else .group (.oneOf tokens)

def matching (f : Field α) (query : Query) : Clause :=
  .field (.including f.queryName query)

/-- The field does not match an expression. -/
def notMatching (f : Field α) (query : Query) : Clause :=
  .field (.excluding f.queryName query)

section Values

variable [Matchable α]

def eqs (f : Field α) (value : α) : Clause := f.matching (.group (f.leaf (token value)))

def neqs (f : Field α) (value : α) : Clause := f.notMatching (.group (f.leaf (token value)))

/-- The field equals one of the values.  No values at all select the empty value. -/
def inList (f : Field α) (values : List α) : Clause := f.matching (f.anyLeaf (values.map token))

def notInList (f : Field α) (values : List α) : Clause :=
  f.notMatching (f.anyLeaf (values.map token))

def atMost (f : Field α) (value : α) : Clause :=
  f.matching (.range .splat (.exactly (token value)))

def atLeast (f : Field α) (value : α) : Clause :=
  f.matching (.range (.exactly (token value)) .splat)

/-- The field lies between two values, ends included. -/
def inRange (f : Field α) (low high : α) : Clause :=
  f.matching (.range (.exactly (token low)) (.exactly (token high)))

end Values

def hasValue (f : Field α) : Clause := f.matching (.range .splat .splat)

/-- The field matches anything, even its own absence. -/
def anything (f : Field α) : Clause := f.matching .splat

/-- The number in the field, as a scoring function. -/
def value (f : Field α) : Query := .fieldValue f.queryName

/-- The field matches any of the words of a text, or the text as it stands where the
    field is not analyzed. -/
def containsAny (f : Field String) (text : String) : Clause :=
  f.matching (.group (if f.descriptor.analyzed then .wordsOf text else .exactly text))

def containsPhrase (f : Field String) (text : String) : Clause :=
  f.matching (.group (.phraseOf text))

/-! ### Points -/

/-- The great-circle distance from the field to a point. -/
def distanceTo (f : Field GeoPoint) (p : GeoPoint) : Query :=
  Query.distanceTo f.queryName p.lat p.lng

/-- The distance from the field to a point in a given measure. -/
def distanceIn (f : Field GeoPoint) (p : GeoPoint) (shape : DistanceShape) : Query :=
  .distance f.queryName p.lat p.lng shape

/-- The field lies in one of the cells.  Without cells there is no restriction. -/
def inCells (f : Field GeoPoint) (cells : List String) : Clause :=
  if cells.isEmpty then f.matching .splat else f.matching (.group (.oneOf cells))

/-- The field lies within a radius in meters of a point, given a way to cover such a
    circle by cells. -/
def nearCells (f : Field GeoPoint) (cover : GeoPoint → Scalar → List String)
    (center : GeoPoint) (radius : Scalar) : Clause :=
  f.inCells (cover center radius)

end Field

/-! ### Descriptors as text and JSON -/

namespace FieldKind

def name : FieldKind → String
  | .text => "Text"
  | .keyword => "Keyword"
  | .keywordList => "KeywordList"
  | .integer => "Integer"
  | .float => "Float"
  | .boolean => "Boolean"
  | .date => "Date"
  | .point => "Point"

def ofName? : String → Option FieldKind
  | "Text" => some .text
  | "Keyword" => some .keyword
  | "KeywordList" => some .keywordList
  | "Integer" => some .integer
  | "Float" => some .float
  | "Boolean" => some .boolean
  | "Date" => some .date
  | "Point" => some .point
  | _ => none

def decoder : Decoder FieldKind := Decode.choice ofName?

end FieldKind

namespace FieldDescriptor

def inspect (d : FieldDescriptor) : String :=
  Inspect.record "FieldDescriptor"
    [("stored_name", Inspect.quoted d.storedName), ("query_name", Inspect.quoted d.queryName),
     ("analyzed", Inspect.flag d.analyzed), ("kind", d.kind.name)]

def toJson (d : FieldDescriptor) : Json :=
  record [("stored_name", .string d.storedName), ("query_name", .string d.queryName),
    ("analyzed", .bool d.analyzed), ("kind", .string d.kind.name)]

def decoder : Decoder FieldDescriptor := fun levels source => do
  let r ← Record.ofSource? ["stored_name", "query_name", "analyzed", "kind"] levels source
  pure ⟨← r.required "stored_name" Decode.text, ← r.required "query_name" Decode.text,
    ← r.required "analyzed" Decode.flag, ← r.required "kind" FieldKind.decoder⟩

end FieldDescriptor

def Field.inspect {α : Type} (f : Field α) : String :=
  Inspect.record "Field" [("descriptor", f.descriptor.inspect)]

end Retrieval

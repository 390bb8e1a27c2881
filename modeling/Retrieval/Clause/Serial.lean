/-
  Retrieval/Clause/Serial.lean
  ============================
  **Clauses as JSON.**

  The form is that of expressions: an object whose one member is the name of the
  constructor with its content.
-/
import Retrieval.Clause.Basic
import Retrieval.Query.Serial

namespace Retrieval

open Json

def FieldClause.toJson (clause : FieldClause) : Json :=
  record [("field_name", .string clause.fieldName), ("query", clause.query.toJson),
    ("include", .bool clause.included)]

def FieldClause.decoder : Decoder FieldClause := fun levels source => do
  let r ← Record.ofSource? ["field_name", "query", "include"] levels source
  pure ⟨← r.required "field_name" Decode.text, ← r.required "query" Query.decoder,
    ← r.required "include" Decode.flag⟩

namespace Clause

mutual

def toJson : Clause → Json
  | .field clause => single "Field" clause.toJson
  | .allOf clauses => single "And" (.array (toJsonAll clauses))
  | .anyOf clauses => single "Or" (.array (toJsonAll clauses))

def toJsonAll : List Clause → List Json
  | [] => []
  | c :: cs => toJson c :: toJsonAll cs

end

def decoder : Decoder Clause
  | 0, _ => none
  | levels + 1, source =>
    match variant? source with
    | some ("Field", some content) => (FieldClause.decoder levels content).map .field
    | some (name, some (.array items)) =>
      match levels with
      | 0 => none
      | levels + 1 =>
        match name with
        | "And" => (items.mapM (decoder levels)).map .allOf
        | "Or" => (items.mapM (decoder levels)).map .anyOf
        | _ => none
    | _ => none

end Clause

end Retrieval

/-
  Retrieval/Clause/Inspect.lean
  =============================
  **The inspection form of clauses.**
-/
import Retrieval.Clause.Basic
import Retrieval.Query.Inspect

namespace Retrieval

open Text

def FieldClause.inspect (clause : FieldClause) : String :=
  Inspect.record "FieldClause"
    [("field_name", Inspect.quoted clause.fieldName), ("query", clause.query.inspect),
     ("include", Inspect.flag clause.included)]

namespace Clause

mutual

def inspect : Clause → String
  | .field clause => Inspect.variant "Field" clause.inspect
  | .allOf clauses => Inspect.variant "And" (Inspect.list (inspectAll clauses))
  | .anyOf clauses => Inspect.variant "Or" (Inspect.list (inspectAll clauses))

def inspectAll : List Clause → List String
  | [] => []
  | c :: cs => inspect c :: inspectAll cs

end

instance : Hashable Clause := ⟨fun c => hash c.inspect⟩

end Clause

end Retrieval

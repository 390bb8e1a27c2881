/-
  Retrieval/Schema/Basic.lean
  ===========================
  **Schemas: the declared fields of an index.**

  A schema finds the descriptor of a field by its name, and lists the descriptors in the
  order of their declaration.  It keeps a dictionary for the one and the names in order for
  the other.  A declaration needs a name that is not empty and not taken; one that is refused
  leaves the schema as it was.
-/
import Retrieval.Dict
import Retrieval.Schema.Field

namespace Retrieval

/-- The fields of an index. -/
structure Schema where
  /-- The index that requests are sent to. -/
  index : String
  /-- The descriptors of the declared fields, by name. -/
  fields : Dict FieldDescriptor
  /-- The names of the declared fields, the first declaration first. -/
  fieldNames : List String
deriving DecidableEq, Repr

namespace Schema

def empty (index : String) : Schema := ⟨index, [], []⟩

def descriptor? (s : Schema) (name : String) : Option FieldDescriptor := s.fields.get? name

/-- The descriptors of the declared fields, the first declaration first. -/
def descriptors (s : Schema) : List FieldDescriptor := s.fieldNames.filterMap s.descriptor?

/-- Enter a descriptor behind the others. -/
def enter (s : Schema) (d : FieldDescriptor) : Schema :=
  { s with fields := s.fields.insert d.storedName d, fieldNames := s.fieldNames ++ [d.storedName] }

/-- Declare a field in place: what comes of it, and the schema afterwards. -/
def declare {α : Type} (s : Schema) (field : Field α) : Except Failure Unit × Schema :=
  if field.name.isEmpty then (.error (.schema .emptyName), s)
  else if (s.descriptor? field.name).isSome then
    (.error (.schema (.duplicateName field.name)), s)
  else (.ok (), s.enter field.descriptor)

/-- The schema with one more field. -/
def withField {α : Type} (s : Schema) (field : Field α) : Except Failure Schema :=
  match s.declare field with
  | (.ok (), extended) => .ok extended
  | (.error failure, _) => .error failure

end Schema

end Retrieval

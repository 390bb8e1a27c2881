/-
  Retrieval/Json/Decode.lean
  ==========================
  **Typed reading of JSON.**

  A decoder turns a source into a value of some type, or refuses it.  It is told how
  many levels of nesting are still allowed, and every array or object that it enters
  uses up one of them.

  Two shapes carry most of the reading:

  * A *record* has named parts.  It is written as an object, where unknown names are
    passed over and a known name must not occur twice, or as an array of its parts in
    their order.  An absent optional part counts as absent only in an object; an
    array that is too short lacks a part.
  * A *variant* is a bare name, or an object whose only member is the name with the
    content.
-/
import Retrieval.Json.Source

namespace Retrieval.Json

/-- A reader of one type: levels of nesting still allowed, source, result. -/
abbrev Decoder (α : Type) := Nat → Source → Option α

namespace Decode

variable {α : Type}

/-! ### Plain values -/

def naturalBelow (bound : Nat) : Decoder UInt64
  | _, .number (some (.natural n)) => if n.toNat < bound then some n else none
  | _, _ => none

def natural64 : Decoder UInt64 := naturalBelow UInt64.size

def natural32 : Decoder UInt32 := fun levels s => (naturalBelow UInt32.size levels s).map (·.toUInt32)

def natural16 : Decoder UInt16 := fun levels s => (naturalBelow UInt16.size levels s).map (·.toUInt16)

def integer64 : Decoder Int64
  | _, .number (some (.natural n)) => if n.toNat < Nat.pow 2 63 then some (Int64.ofInt n.toNat) else none
  | _, .number (some (.negative n)) => some n
  | _, _ => none

/-- A double.  Whole numbers are rounded to the nearest one. -/
def scalar : Decoder Scalar
  | _, .number (some n) => some n.scalar
  | _, _ => none

def flag : Decoder Bool
  | _, .bool b => some b
  | _, _ => none

def text : Decoder String
  | _, .string (some t) => some t
  | _, _ => none

def json : Decoder Json := Source.json?

/-! ### Containers -/

/-- An optional value, where `null` stands for its absence. -/
def option (value : Decoder α) : Decoder (Option α)
  | _, .null => some none
  | levels, s => (value levels s).map some

def list (item : Decoder α) : Decoder (List α)
  | levels + 1, .array items => items.mapM (item levels)
  | _, _ => none

/-- The members of an object, all names readable. -/
def named? (members : List (Option String × Source)) : Option (List (String × Source)) :=
  members.mapM fun (name, value) => name.map (·, value)

/-- A dictionary.  The last value of a repeated name stays. -/
def dict (value : Decoder α) : Decoder (Dict α)
  | levels + 1, .object members => do
    let members ← named? members
    let entries ← members.mapM fun (name, s) => (value levels s).map (name, ·)
    pure (Dict.ofEntries entries)
  | _, _ => none

def members : Decoder (Dict Json) := dict json

end Decode

/-! ### Records -/

/-- The parts of a record that were found. -/
structure Record where
  /-- The levels of nesting that the parts may use. -/
  levels : Nat
  /-- The record was written as an array. -/
  positional : Bool
  /-- The parts by name. -/
  parts : List (String × Source)

namespace Record

variable {α : Type}

def namesDiffer : List (String × Source) → Bool
  | [] => true
  | (name, _) :: rest => !(rest.any fun entry => entry.1 == name) && namesDiffer rest

/-- The parts of the record with the given part names. -/
def ofSource? (names : List String) : Nat → Source → Option Record
  | levels + 1, .object members => do
    let members ← Decode.named? members
    let known := members.filter fun entry => names.contains entry.1
    if namesDiffer known then some ⟨levels, false, known⟩ else none
  | levels + 1, .array items =>
    if items.length ≤ names.length then some ⟨levels, true, names.zip items⟩ else none
  | _, _ => none

def part? (r : Record) (name : String) : Option Source :=
  (r.parts.find? fun entry => entry.1 == name).map (·.2)

def required (r : Record) (name : String) (value : Decoder α) : Option α := do
  value r.levels (← r.part? name)

/-- A part that may be absent from an object, or `null`. -/
def optional (r : Record) (name : String) (value : Decoder α) : Option (Option α) :=
  match r.part? name with
  | some s => Decode.option value r.levels s
  | none => if r.positional then none else some none

def orDefault (r : Record) (name : String) (value : Decoder α) (default : α) : Option α :=
  match r.part? name with
  | some s => value r.levels s
  | none => some default

end Record

/-! ### Variants -/

/-- The name of a variant and its content, which a bare name does not have. -/
def variant? : Source → Option (String × Option Source)
  | .string (some name) => some (name, none)
  | .object [(some name, content)] => some (name, some content)
  | _ => none

/-- Whether a content is that of a variant without parts. -/
def isBare : Option Source → Bool
  | none => true
  | some .null => true
  | _ => false

def Decode.choice {α : Type} (named : String → Option α) : Decoder α := fun levels s =>
  match variant? s with
  | some (name, none) => named name
  | some (name, some .null) => if levels = 0 then none else named name
  | _ => none

def Decoder.ofText? {α : Type} (decoder : Decoder α) (text : String) : Option α :=
  (Source.ofText? text).bind (decoder Source.nestingLimit)

/-- Read a value with a decoder, whatever its nesting. -/
def Decoder.ofJson? {α : Type} (decoder : Decoder α) (value : Json) : Option α :=
  decoder (Source.levelsOf value) (Source.ofJson value)

end Retrieval.Json

/-
  Retrieval/Json/Value.lean
  =========================
  **JSON values.**

  A number is kept as it was meant: a natural number of 64 bits, a negative number of
  64 bits, or a double for everything else.  `1` and `1.0` are therefore different
  values.  The members of an object ascend by name (see `Retrieval.Dict`), so an
  object does not remember in which order it was put together.
-/
import Retrieval.Dict
import Retrieval.Scalar

namespace Retrieval

/-- A JSON number. -/
inductive Number where
  /-- A whole number that is not negative. -/
  | natural (n : UInt64)
  /-- A whole number below zero. -/
  | negative (n : Int64)
  /-- Any other number. -/
  | real (x : Scalar)
deriving DecidableEq, Repr

/-- A JSON value. -/
inductive Json where
  | null
  | bool (b : Bool)
  | number (n : Number)
  | string (text : String)
  | array (items : List Json)
  | object (members : List (String × Json))

namespace Number

/-- The number as a natural number, if it was written as one. -/
def natural? : Number → Option UInt64
  | .natural n => some n
  | _ => none

def scalar : Number → Scalar
  | .natural n => Scalar.ofUInt64 n
  | .negative n => Scalar.ofInt64 n
  | .real x => x

def text : Number → String
  | .natural n => Decimal.naturalText n.toNat
  | .negative n => Decimal.integerText n.toInt
  | .real x => x.jsonText

/-- Equal as values: the two zeros of a double count as one. -/
def sameValue : Number → Number → Bool
  | .real x, .real y => x == y || (x.isZero && y.isZero)
  | m, n => m == n

end Number

namespace Json

/-! ### Equality -/

mutual

def decEq : (a b : Json) → Decidable (a = b)
  | .null, .null => isTrue rfl
  | .bool a, .bool b =>
    if h : a = b then isTrue (h ▸ rfl) else isFalse fun e => h (Json.bool.inj e)
  | .number a, .number b =>
    if h : a = b then isTrue (h ▸ rfl) else isFalse fun e => h (Json.number.inj e)
  | .string a, .string b =>
    if h : a = b then isTrue (h ▸ rfl) else isFalse fun e => h (Json.string.inj e)
  | .array a, .array b =>
    match decEqItems a b with
    | isTrue h => isTrue (h ▸ rfl)
    | isFalse h => isFalse fun e => h (Json.array.inj e)
  | .object a, .object b =>
    match decEqMembers a b with
    | isTrue h => isTrue (h ▸ rfl)
    | isFalse h => isFalse fun e => h (Json.object.inj e)
  | .null, .bool _ | .null, .number _ | .null, .string _ | .null, .array _ | .null, .object _
  | .bool _, .null | .bool _, .number _ | .bool _, .string _ | .bool _, .array _
  | .bool _, .object _ | .number _, .null | .number _, .bool _ | .number _, .string _
  | .number _, .array _ | .number _, .object _ | .string _, .null | .string _, .bool _
  | .string _, .number _ | .string _, .array _ | .string _, .object _ | .array _, .null
  | .array _, .bool _ | .array _, .number _ | .array _, .string _ | .array _, .object _
  | .object _, .null | .object _, .bool _ | .object _, .number _ | .object _, .string _
  | .object _, .array _ => isFalse nofun

def decEqItems : (a b : List Json) → Decidable (a = b)
  | [], [] => isTrue rfl
  | [], _ :: _ => isFalse nofun
  | _ :: _, [] => isFalse nofun
  | x :: xs, y :: ys =>
    match decEq x y, decEqItems xs ys with
    | isTrue h, isTrue hs => isTrue (h ▸ hs ▸ rfl)
    | isFalse h, _ => isFalse fun e => h (List.cons.inj e).1
    | _, isFalse hs => isFalse fun e => hs (List.cons.inj e).2

def decEqMembers : (a b : List (String × Json)) → Decidable (a = b)
  | [], [] => isTrue rfl
  | [], _ :: _ => isFalse nofun
  | _ :: _, [] => isFalse nofun
  | (k, x) :: xs, (l, y) :: ys =>
    if hk : k = l then
      match decEq x y, decEqMembers xs ys with
      | isTrue h, isTrue hs => isTrue (hk ▸ h ▸ hs ▸ rfl)
      | isFalse h, _ => isFalse fun e => h (Prod.mk.inj (List.cons.inj e).1).2
      | _, isFalse hs => isFalse fun e => hs (List.cons.inj e).2
    else isFalse fun e => hk (Prod.mk.inj (List.cons.inj e).1).1

end

instance : DecidableEq Json := decEq

/-! ### Construction -/

def natural (n : UInt64) : Json := .number (.natural n)

/-- A scalar.  Infinities and not-a-number have no JSON form and become `null`. -/
def ofScalar (s : Scalar) : Json := if s.isFinite then .number (.real s) else .null

def ofOption {α : Type} (f : α → Json) : Option α → Json
  | none => .null
  | some a => f a

def texts (items : List String) : Json := .array (items.map .string)

/-- An object with the given members.  The last value of a repeated name stays. -/
def record (members : List (String × Json)) : Json := .object (Dict.ofEntries members)

def single (name : String) (value : Json) : Json := .object [(name, value)]

/-! ### Access -/

def member? (name : String) : Json → Option Json
  | .object members => Dict.get? members name
  | _ => none

def text? : Json → Option String
  | .string s => some s
  | _ => none

def scalar? : Json → Option Scalar
  | .number n => some n.scalar
  | _ => none

/-- The number as a natural number, if it was written as one. -/
def natural? : Json → Option UInt64
  | .number n => n.natural?
  | _ => none

/-! ### Comparison by value -/

mutual

/-- Equal as values, where the two zeros of a double count as one. -/
def sameValue : Json → Json → Bool
  | .number m, .number n => m.sameValue n
  | .array xs, .array ys => sameItems xs ys
  | .object xs, .object ys => sameMembers xs ys
  | .null, .null => true
  | .bool a, .bool b => a == b
  | .string a, .string b => a == b
  | _, _ => false

def sameItems : List Json → List Json → Bool
  | [], [] => true
  | x :: xs, y :: ys => sameValue x y && sameItems xs ys
  | _, _ => false

def sameMembers : List (String × Json) → List (String × Json) → Bool
  | [], [] => true
  | (k, x) :: xs, (l, y) :: ys => k == l && sameValue x y && sameMembers xs ys
  | _, _ => false

end

/-- The members of `after` whose value in `before` is another one or missing. -/
def changedMembers (before after : Json) : Json :=
  match after with
  | .object members =>
    .object (members.filter fun entry =>
      match before.member? entry.1 with
      | some old => !old.sameValue entry.2
      | none => true)
  | _ => .object []

end Json

end Retrieval

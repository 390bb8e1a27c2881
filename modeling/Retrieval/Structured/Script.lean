/-
  Retrieval/Structured/Script.lean
  ================================
  **Scoring scripts.**

  A script computes a score from the fields of a document.  The caller's numbers never
  stand in its source: each is bound to a parameter, and the source refers to the
  parameter by name.  Scripts that differ in their numbers alone therefore share one
  source, which the backend compiles once.

  Parameters are named `p1`, `p2`, … in the order of binding, so the list of the bound
  numbers is all there is to remember.  A number that was bound stays bound even if
  what follows cannot be rendered.
-/
import Retrieval.Failure
import Retrieval.Json.Value
import Retrieval.Search.Basic
import Retrieval.Text.Escape

namespace Retrieval.Structured

open Decimal Text

/-! ### Parameters -/

/-- The name of the parameter with the given number, counted from one. -/
def parameterName (n : Nat) : List Char := 'p' :: digitChars n

/-- The expression that refers to a parameter. -/
def reference (n : Nat) : List Char := "params.".toList ++ parameterName n

/-- The members that give the bound numbers, the first of them under the given number. -/
def parameterMembers (first : Nat) : List Scalar → List (String × Json)
  | [] => []
  | value :: rest =>
    (String.ofList (parameterName first), Json.ofScalar value) :: parameterMembers (first + 1) rest

/-! ### Functions -/

def fieldSource (field : String) : List Char :=
  "doc['".toList ++ field.toList ++ "']".toList

/-- The distance from a field to the point in two parameters, in kilometers. -/
def distanceSource (field : String) (shape : DistanceShape) (lat lng : List Char) : List Char :=
  match shape with
  | .arc =>
    '(' :: (fieldSource field ++ ".arcDistance(".toList ++ lat ++ ", ".toList ++ lng ++
      ") / 1000.0)".toList)
  | .square =>
    "Math.pow(".toList ++ fieldSource field ++ ".planeDistance(".toList ++ lat ++ ", ".toList ++
      lng ++ ") / 1000.0, 2)".toList

def reciprocalSource (inner x y z : List Char) : List Char :=
  y ++ " / (".toList ++ x ++ " * ".toList ++ inner ++ " + ".toList ++ z ++ [')']

def parenthesized (source : List Char) : List Char := '(' :: (source ++ [')'])

/-- The source of a scoring function, with the numbers that are bound after it.  The
    numbers in `bound` are bound before. -/
def functionSource (bound : List Scalar) : Query → Except Failure (List Char) × List Scalar
  | .distance field lat lng shape =>
    (.ok (distanceSource field shape (reference (bound.length + 1)) (reference (bound.length + 2))),
      bound ++ [lat, lng])
  | .reciprocal q x y z =>
    match functionSource (bound ++ [y, x]) q with
    | (.ok inner, bound') =>
      (.ok (reciprocalSource inner (reference (bound.length + 2)) (reference (bound.length + 1))
        (reference (bound'.length + 1))), bound' ++ [z])
    | (.error e, bound') => (.error e, bound')
  | .fieldValue field => (.ok (fieldSource field ++ ".value".toList), bound)
  | .group q =>
    match functionSource bound q with
    | (.ok inner, bound') => (.ok (parenthesized inner), bound')
    | (.error e, bound') => (.error e, bound')
  | q => (.error (.unsupported (.scriptTerm q)), bound)

/-! ### Scripts -/

/-- A script: its source and the numbers bound in it. -/
structure Script where
  source : List Char
  bound : List Scalar
deriving DecidableEq, Repr

namespace Script

/-- The language that scripts are written in. -/
def language : String := "painless"

def ofFunction (query : Query) : Except Failure Script :=
  match functionSource [] query with
  | (.ok source, bound) => .ok ⟨source, bound⟩
  | (.error e, _) => .error e

/-- The summands of weighted functions, with the numbers that are bound after them. -/
def summands (bound : List Scalar) :
    List BoostFunction → Except Failure (List (List Char) × List Scalar)
  | [] => .ok ([], bound)
  | f :: rest =>
    match functionSource (bound ++ [f.weight]) f.function with
    | (.ok body, bound') => do
      let (others, bound'') ← summands bound' rest
      pure ((reference (bound.length + 1) ++ " * ".toList ++ parenthesized body) :: others, bound'')
    | (.error e, _) => .error e

/-- The script that raises a score by a weighted sum of functions.  Without a function
    there is none. -/
def ofBoosts (functions : List BoostFunction) : Except Failure (Option Script) := do
  match ← summands [] functions with
  | ([], _) => pure none
  | (terms, bound) =>
    pure (some ⟨"_score * (1.0 + ".toList ++ joined " + ".toList terms ++ [')'], bound⟩)

def toJson (script : Script) : Json :=
  Json.record
    [("source", .string (String.ofList script.source)), ("lang", .string language),
     ("params", Json.record (parameterMembers 1 script.bound))]

end Script

end Retrieval.Structured

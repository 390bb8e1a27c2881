/-
  Retrieval/Flat/Expression.lean
  ==============================
  **Expressions and clauses in query-string syntax.**

  The flat request carries its expressions as text.  Words bind by `AND` and `OR`,
  parentheses group, double quotes hold a phrase together, brackets enclose a range,
  `^` weighs and `field:` says which field is meant.

  The syntax has no empty group and no empty token, so an empty value is written as an
  empty phrase.  A negated condition is subtracted from the query that matches
  everything, which keeps it valid wherever it stands: `(*:* -field:(value))`.
-/
import Retrieval.Clause.Basic
import Retrieval.Text.Escape

namespace Retrieval.Flat

open Text

def orWord : List Char := " OR ".toList

/-- The word between conditions that all hold. -/
def andWord : List Char := " AND ".toList

def grouped (text : List Char) : List Char := '(' :: (text ++ [')'])

def value (escaped : Bool) (text : List Char) : List Char :=
  if text.isEmpty then quote []
  else if escaped then escapeToken text
  else text

def values (escaped : Bool) (texts : List (List Char)) : List Char :=
  if texts.isEmpty then quote [] else joined orWord (texts.map (value escaped))

def phrase (escaped : Bool) (text : List Char) : List Char :=
  quote (if escaped then escapePhrase text else text)

def freeText (escaped : Bool) (text : List Char) : List Char :=
  if allBlank text then quote []
  else if escaped then escapeWords text
  else plainWords text

def call (name : List Char) (arguments : List (List Char)) : List Char :=
  name ++ grouped (joined [','] arguments)

/-- The name of the function that measures a distance. -/
def distanceName : DistanceShape → List Char
  | .arc => "geodist".toList
  | .square => "sqedist".toList

mutual

def queryChars : Query → List Char
  | .splat => ['*']
  | .term texts escaped => values escaped (texts.map String.toList)
  | .phrase text escaped => phrase escaped text.toList
  | .words text escaped => freeText escaped text.toList
  | .group q => grouped (queryChars q)
  | .boost q w =>
    (if q.isGroup then queryChars q else grouped (queryChars q)) ++ '^' :: w.display.toList
  | .range low high => '[' :: (queryChars low ++ " TO ".toList ++ queryChars high ++ [']'])
  | .allOf qs => joined andWord (queriesChars qs)
  | .anyOf qs => joined orWord (queriesChars qs)
  | .distance field lat lng shape =>
    call (distanceName shape) [field.toList, lat.display.toList, lng.display.toList]
  | .reciprocal q x y z =>
    call "recip".toList [queryChars q, x.display.toList, y.display.toList, z.display.toList]
  | .fieldValue field => field.toList

def queriesChars : List Query → List (List Char)
  | [] => []
  | q :: qs => queryChars q :: queriesChars qs

end

/-- A text behind the name of its field.  The default fields have no name. -/
def scopedChars (fieldName : String) (text : List Char) : List Char :=
  if fieldName.isEmpty then text else fieldName.toList ++ ':' :: text

def fieldChars (clause : FieldClause) : List Char :=
  let condition := scopedChars clause.fieldName (queryChars clause.query)
  if clause.included then condition else grouped ("*:* -".toList ++ condition)

mutual

def clauseChars : Clause → List Char
  | .field clause => fieldChars clause
  | .allOf clauses => joined andWord (partsChars clauses)
  | .anyOf clauses => joined orWord (partsChars clauses)

/-- The parts of a combination, each in parentheses. -/
def partsChars : List Clause → List (List Char)
  | [] => []
  | c :: cs => grouped (clauseChars c) :: partsChars cs

end

def queryText (query : Query) : String := String.ofList (queryChars query)

def clauseText (clause : Clause) : String := String.ofList (clauseChars clause)

end Retrieval.Flat

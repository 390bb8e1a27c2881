/-
  Retrieval/Structured/Matching.lean
  ==================================
  **Clauses as query objects.**

  The structured request holds conditions as JSON objects.  Caller text is data there
  and needs no escaping.

  A condition on a named field becomes an object about this field.  A condition
  without a field name is about the weighted default fields of the search: its text is
  matched against all of them at once, and the phrase boosts of the search are added
  as alternatives that need not hold.
-/
import Retrieval.Failure
import Retrieval.Json.Value
import Retrieval.Search.Basic

namespace Retrieval.Structured

open Json

/-! ### Combinations -/

def matchAll : Json := single "match_all" (.object [])

def combination (members : List (String × Json)) : Json := single "bool" (record members)

def every (conditions : List Json) : Json := combination [("must", .array conditions)]

def atLeastOne (conditions : List Json) : Json :=
  combination [("should", .array conditions), ("minimum_should_match", natural 1)]

def negated (condition : Json) : Json := combination [("must_not", .array [condition])]

/-- The condition holds, and counts by the given weight. -/
def weighted (condition : Json) (weight : Scalar) : Json :=
  combination [("must", .array [condition]), ("boost", ofScalar weight)]

/-- The condition holds, and the preferences raise the score where they hold. -/
def preferring (condition : Json) (preferences : List Json) : Json :=
  combination [("must", .array [condition]), ("should", .array preferences)]

/-- The condition holds, and so do the filters, which leave the score alone. -/
def filtered (condition : Json) (filters : List Json) : Json :=
  combination [("must", .array [condition]), ("filter", .array filters)]

/-! ### Leaves -/

/-- The minimum match of a search, as a member. -/
def minimumMembers (s : Search) : List (String × Json) :=
  (s.minimumMatch.map fun m => ("minimum_should_match", Json.string m.param)).toList

/-- A named field has one of the values.  No values at all stand for the empty value. -/
def valuesMatch (field : String) : List String → Json
  | [] => single "term" (single field (.string ""))
  | [value] => single "term" (single field (.string value))
  | values => single "terms" (single field (texts values))

def phraseMatch (field value : String) : Json :=
  single "match_phrase" (single field (.string value))

/-- A named field contains any of the words of a text. -/
def wordsMatch (s : Search) (field value : String) : Json :=
  single "match" (single field (record
    ([("query", .string value), ("operator", .string "or")] ++ minimumMembers s)))

/-- The value at the end of a range.  An open end has none. -/
def rangeEnd (query : Query) : Except Failure (Option String) :=
  match query.ungrouped with
  | .splat => .ok none
  | .term [value] _ => .ok (some value)
  | .phrase value _ => .ok (some value)
  | other => .error (.unsupported (.rangeEnd other))

/-- A named field lies between two ends.  Without any end it has to have a value. -/
def rangeMatch (field : String) (low high : Option String) : Json :=
  match (low.map fun v => ("gte", Json.string v)).toList ++
      (high.map fun v => ("lte", Json.string v)).toList with
  | [] => single "exists" (single "field" (.string field))
  | bounds => single "range" (single field (record bounds))

/-! ### Default fields -/

/-- The preferences that the phrase boosts of a search add to a text. -/
def phrasePreferences (s : Search) (text : String) : List Json :=
  (s.activePhraseBoosts.filter PhraseBoost.whole).map fun boost =>
    single "match_phrase" (single boost.field.field (record
      [("query", .string text), ("boost", ofScalar boost.field.weight)]))

/-- The default fields of a search, as a member. -/
def fieldsMembers (s : Search) : List (String × Json) :=
  match s.activeQueryFields with
  | [] => []
  | fields => [("fields", texts (fields.map WeightedField.text))]

/-- How a text is matched against the default fields. -/
inductive TextMatch where
  /-- By its words. -/
  | words
  /-- As a phrase. -/
  | phrase
deriving DecidableEq, Repr

def TextMatch.word : TextMatch → String
  | .words => "best_fields"
  | .phrase => "phrase"

def defaultFieldsMatch (s : Search) (kind : TextMatch) (text : String) : Json :=
  single "multi_match" (record
    ([("query", .string text), ("type", .string kind.word)] ++ fieldsMembers s ++
      (s.tieBreaker.map fun tie => ("tie_breaker", ofScalar tie)).toList ++
      (if kind = .phrase then [] else minimumMembers s)))

/-- The default fields match a text, with the preferences of the search. -/
def textMatch (s : Search) (kind : TextMatch) (text : String) : Json :=
  match phrasePreferences s text with
  | [] => defaultFieldsMatch s kind text
  | preferences => preferring (defaultFieldsMatch s kind text) preferences

/-! ### Expressions -/

def scopedLeaf (s : Search) (field : String) : Query → Except Failure Json
  | .term values _ => .ok (valuesMatch field values)
  | .phrase value _ => .ok (phraseMatch field value)
  | .words value _ => .ok (wordsMatch s field value)
  | .range low high => do
    let low ← rangeEnd low
    let high ← rangeEnd high
    pure (rangeMatch field low high)
  | q => .error (.unsupported (.matchedFunction q field))

def unscopedLeaf (s : Search) : Query → Except Failure Json
  | .words value _ => .ok (textMatch s .words value)
  | .term values _ => .ok (textMatch s .words (String.intercalate " " values))
  | .phrase value _ => .ok (textMatch s .phrase value)
  | q => .error (.unsupported (.unscopedMatch q))

mutual

/-- An expression matches, given what the match of a leaf is. -/
def expressionMatch (leaf : Query → Except Failure Json) : Query → Except Failure Json
  | .splat => .ok matchAll
  | .group q => expressionMatch leaf q
  | .boost q w => do pure (weighted (← expressionMatch leaf q) w)
  | .allOf qs => do pure (every (← expressionMatches leaf qs))
  | .anyOf qs => do pure (atLeastOne (← expressionMatches leaf qs))
  | q => leaf q

/-- The expressions of a list match, one by one. -/
def expressionMatches (leaf : Query → Except Failure Json) :
    List Query → Except Failure (List Json)
  | [] => .ok []
  | q :: qs => do
    let condition ← expressionMatch leaf q
    let conditions ← expressionMatches leaf qs
    pure (condition :: conditions)

end

def scopedMatch (s : Search) (field : String) (query : Query) : Except Failure Json :=
  expressionMatch (scopedLeaf s field) query

/-- The default fields match an expression. -/
def unscopedMatch (s : Search) (query : Query) : Except Failure Json :=
  expressionMatch (unscopedLeaf s) query

/-! ### Clauses -/

def fieldMatch (s : Search) (clause : FieldClause) : Except Failure Json := do
  let condition ←
    if clause.isUnscoped then unscopedMatch s clause.query
    else scopedMatch s clause.fieldName clause.query
  pure (if clause.included then condition else negated condition)

mutual

def clauseMatch (s : Search) : Clause → Except Failure Json
  | .field clause => fieldMatch s clause
  | .allOf clauses => do pure (every (← clauseMatches s clauses))
  | .anyOf clauses => do pure (atLeastOne (← clauseMatches s clauses))

/-- The conditions of the clauses of a list, one by one. -/
def clauseMatches (s : Search) : List Clause → Except Failure (List Json)
  | [] => .ok []
  | c :: cs => do
    let condition ← clauseMatch s c
    let conditions ← clauseMatches s cs
    pure (condition :: conditions)

end

end Retrieval.Structured

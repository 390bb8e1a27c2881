/-
  Retrieval/Structured/Body.lean
  ==============================
  **The structured request: one JSON body.**

  The query section is built from the inside out.  The clause of the search decides
  what matches.  Boost queries and boost functions wrap it and change scores alone.
  The filters stand outermost and restrict the matches once more.

  A boost query with a negated condition cannot be a preference, since a preference
  only ever raises scores.  Its complement is used to lower the score of the documents
  that fail it.
-/
import Retrieval.Json.Printer
import Retrieval.Structured.Matching
import Retrieval.Structured.Script

namespace Retrieval.Structured

open Json

/-- The factor for the score of a document that fails a boost query with a negation: one
    tenth. -/
def demotion : Scalar := ⟨0x3FB999999999999A⟩

/-- The condition, where documents that satisfy one of the others are demoted. -/
def demoting (condition : Json) (others : List Json) : Json :=
  single "boosting" (record
    [("positive", condition), ("negative", atLeastOne others), ("negative_boost", ofScalar demotion)])

/-- The conditions of boost queries: those that are preferred, and those that demote. -/
def boostConditions (s : Search) : List Clause → Except Failure (List Json × List Json)
  | [] => .ok ([], [])
  | boost :: rest =>
    if boost.hasNegation then do
      let condition ← clauseMatch s boost.complement
      let (preferred, demoted) ← boostConditions s rest
      pure (preferred, condition :: demoted)
    else do
      let condition ← clauseMatch s boost
      let (preferred, demoted) ← boostConditions s rest
      pure (condition :: preferred, demoted)

/-- A condition with the boost queries of the search around it. -/
def withBoostQueries (s : Search) (condition : Json) : Except Failure Json := do
  let (preferred, demoted) ← boostConditions s s.boostQueries
  let raised := if preferred.isEmpty then condition else preferring condition preferred
  pure (if demoted.isEmpty then raised else demoting raised demoted)

/-- The condition, where a script computes the scores. -/
def scored (condition : Json) (script : Script) : Json :=
  single "function_score" (record
    [("query", condition),
     ("functions", .array [single "script_score" (single "script" script.toJson)]),
     ("boost_mode", .string "replace")])

/-- A condition with the boost functions of the search around it. -/
def withBoostFunctions (s : Search) (condition : Json) : Except Failure Json := do
  match ← Script.ofBoosts s.activeBoostFunctions with
  | none => pure condition
  | some script => pure (scored condition script)

def circleFilter (circle : Spatial) : Json :=
  single "geo_distance" (record
    [("distance", .string (circle.distanceKm.plain ++ "km")),
     (circle.field, record [("lat", ofScalar circle.lat), ("lon", ofScalar circle.lng)])])

def filterConditions (s : Search) : Except Failure (List Json) := do
  let filters ← clauseMatches s s.filters
  pure (filters ++ (s.spatial.map circleFilter).toList)

def querySection (s : Search) : Except Failure Json := do
  let clause ← match s.clause with
    | some clause => clauseMatch s clause
    | none => pure matchAll
  let raised ← withBoostQueries s clause
  let scored ← withBoostFunctions s raised
  let filters ← filterConditions s
  pure (if filters.isEmpty then scored else filtered scored filters)

def sortEntry (order : SortOrder) : Except Failure Json :=
  let direction := Json.string order.direction.word
  match order.target with
  | .field name => .ok (single name (single "order" direction))
  | .function query =>
    if query.isFunction then do
      let script ← Script.ofFunction query
      pure (single "_script" (record
        [("type", .string "number"), ("script", script.toJson), ("order", direction)]))
    else .error (.unsupported (.sortTarget query))

def sortMembers (s : Search) : Except Failure (List (String × Json)) :=
  match s.sort with
  | none => .ok []
  | some order => do pure [("sort", .array [← sortEntry order])]

def sourceMembers (s : Search) : List (String × Json) :=
  if s.fields.isEmpty then [] else [("_source", texts s.fields)]

def facetEntry (facets : FacetSettings) (field : String) : Json :=
  single "terms" (record ([("field", .string field)] ++
    (facets.limit.map fun n => ("size", natural n)).toList ++
    (facets.minCount.map fun n => ("min_doc_count", natural n)).toList))

/-- The counts of field values, as a member. -/
def facetMembers (facets : FacetSettings) : List (String × Json) :=
  if facets.isEnabled then
    [("aggs", record (facets.fields.map fun field => (field, facetEntry facets field)))]
  else []

/-- The highlighted fields, as a member.  Without any field to name, all are meant. -/
def highlightMembers (s : Search) : List (String × Json) :=
  if s.highlighting then
    let names := if s.highlightFields.isEmpty then ["*"] else s.highlightFields
    [("highlight", single "fields" (record (names.map fun name => (name, .object []))))]
  else []

def body (s : Search) : Except Failure Json := do
  let query ← querySection s
  let sorting ← sortMembers s
  pure (record ([("query", query), ("from", natural s.start), ("size", natural s.limit)] ++
    sorting ++ sourceMembers s ++ facetMembers s.facets ++ highlightMembers s))

end Retrieval.Structured

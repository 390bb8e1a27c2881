/-
  Retrieval/Search/Setting.lean
  =============================
  **The settings from which a search is put together.**

  A search starts as the one that matches everything in an index and takes settings one
  by one.  Settings of three sorts exist:

  * some *accumulate*: clauses, filters, boosts and fields are added to the earlier ones;
  * some *replace* what was set before: the start, the tie breaker, the circle, …;
  * some are *one-shot*: they may be made once.  Moreover a selection of fields may not
    follow an order, and highlighting may not follow a selection.

  `Setting.apply` says what a setting does and never refuses; which settings may follow
  which is said by `Setting.isPermitted`.
-/
import Retrieval.Schema.Field
import Retrieval.Search.Basic

namespace Retrieval

/-- One setting of a search. -/
inductive Setting where
  /-- The clause has to match as well. -/
  | and (clause : Clause)
  /-- The clause matches instead. -/
  | or (clause : Clause)
  | filter (clause : Clause)
  /-- The clause may hold instead of the last filter. -/
  | orFilter (clause : Clause)
  | boostQuery (clause : Clause)
  | boostField (function : Query) (weight : Scalar)
  | queryField (field : String) (weight : Scalar)
  | phraseBoost (field : String) (weight : Scalar) (whole pairs triples : Bool)
  | tieBreaker (tie : Scalar)
  | queryType (name : String)
  | start (n : UInt64)
  | facetField (field : String)
  | facetMinCount (n : UInt64)
  | spatial (circle : Spatial)
  | sort (order : SortOrder)
  | limit (n : UInt64)
  | minimumMatch (m : MinimumMatch)
  /-- Only these fields are returned. -/
  | select (fields : List String)
  | highlighting
  | qualityFilter (filter : QualityFilter)
  | facetLimit (n : UInt64)
deriving DecidableEq

/-- The settings that may be made once. -/
inductive OneShot where
  | sort
  | limit
  | minimumMatch
  | selection
  | highlighting
  | qualityFilter
  | facetLimit
deriving DecidableEq, Repr

namespace Setting

/-! ### What a setting does -/

def conjoin (clause : Option Clause) (other : Clause) : Clause :=
  match clause with
  | none => other
  | some clause => clause.and other

def disjoin (clause : Option Clause) (other : Clause) : Clause :=
  match clause with
  | none => other
  | some clause => clause.or other

/-- Offer a clause as an alternative to the last filter.  Without a filter it becomes one. -/
def relaxLast (filters : List Clause) (clause : Clause) : List Clause :=
  match filters.getLast? with
  | some last => filters.dropLast ++ [.anyOf [clause, last]]
  | none => [clause]

def apply (s : Search) : Setting → Search
  | .and clause => { s with clause := some (conjoin s.clause clause) }
  | .or clause => { s with clause := some (disjoin s.clause clause) }
  | .filter clause => { s with filters := s.filters ++ [clause] }
  | .orFilter clause => { s with filters := relaxLast s.filters clause }
  | .boostQuery clause => { s with boostQueries := s.boostQueries ++ [clause] }
  | .boostField function weight =>
    { s with boostFunctions := s.boostFunctions ++ [⟨function, weight⟩] }
  | .queryField field weight => { s with queryFields := s.queryFields ++ [⟨field, weight⟩] }
  | .phraseBoost field weight whole pairs triples =>
    { s with phraseBoosts := s.phraseBoosts ++ [⟨⟨field, weight⟩, whole, pairs, triples⟩] }
  | .tieBreaker tie => { s with tieBreaker := some tie }
  | .queryType name => { s with queryType := some name }
  | .start n => { s with start := n }
  | .facetField field => { s with facets.fields := s.facets.fields ++ [field] }
  | .facetMinCount n => { s with facets.minCount := some n }
  | .spatial circle => { s with spatial := some circle }
  | .sort order => { s with sort := some order }
  | .limit n => { s with limit := n }
  | .minimumMatch m => { s with minimumMatch := some m }
  | .select fields => { s with fields := fields }
  | .highlighting => { s with highlighting := true }
  | .qualityFilter f => { s with qualityFilter := some f }
  | .facetLimit n => { s with facets.limit := some n }

/-- The search with all settings made, the first one first. -/
def applyAll (s : Search) (settings : List Setting) : Search := settings.foldl apply s

/-! ### Which settings may follow which -/

/-- The one-shot setting that this is, if it is one. -/
def oneShot? : Setting → Option OneShot
  | .sort _ => some .sort
  | .limit _ => some .limit
  | .minimumMatch _ => some .minimumMatch
  | .select _ => some .selection
  | .highlighting => some .highlighting
  | .qualityFilter _ => some .qualityFilter
  | .facetLimit _ => some .facetLimit
  | _ => none

/-- The one-shot settings after which this one may not be made. -/
def excludedBy (s : Setting) : List OneShot :=
  match s with
  | .select _ => [.sort, .selection]
  | .highlighting => [.selection, .highlighting]
  | s => s.oneShot?.toList

/-- Whether the setting may be made after the given one-shot settings. -/
def isPermitted (used : List OneShot) (s : Setting) : Bool :=
  !(s.excludedBy.any fun o => used.contains o)

/-- The one-shot settings made once this one is made too. -/
def note (used : List OneShot) (s : Setting) : List OneShot := used ++ s.oneShot?.toList

/-- Whether the settings may be made one after the other, the first one first. -/
def allPermitted (used : List OneShot) : List Setting → Bool
  | [] => true
  | s :: rest => s.isPermitted used && allPermitted (s.note used) rest

end Setting

/-! ### Settings of fields -/

namespace Field

variable {α : Type}

def searched (f : Field α) (weight : Scalar) : Setting := .queryField f.queryName weight

def boosted (f : Field α) (weight : Scalar) (whole pairs triples : Bool) : Setting :=
  .phraseBoost f.queryName weight whole pairs triples

def counted (f : Field α) : Setting := .facetField f.queryName

def sorted (f : Field α) (direction : SortDirection) : Setting :=
  .sort ⟨.field f.queryName, direction⟩

/-- Restrict the field to a circle around a point. -/
def within (f : Field GeoPoint) (center : GeoPoint) (distanceKm : Scalar) : Setting :=
  .spatial ⟨f.queryName, center.lat, center.lng, distanceKm⟩

end Field

end Retrieval

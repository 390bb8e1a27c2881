/-
  Retrieval/Search/Basic.lean
  ===========================
  **Searches: everything a request says, in neither request syntax.**

  A search is plain data.  It names an index, says what has to match (`clause`,
  `filters`, `spatial`), what only changes the order of the matches (`boostQueries`,
  `boostFunctions`, `phraseBoosts`, `sort`), which part of them is wanted (`start`,
  `limit`) and what comes with them (`fields`, `facets`, `highlighting`).

  A field or function of weight zero is *inactive*: it stays in the search and reaches
  no request.
-/
import Retrieval.Clause.Basic

namespace Retrieval

/-- A field with its weight. -/
structure WeightedField where
  field : String
  weight : Scalar
deriving DecidableEq, Repr

def WeightedField.isActive (f : WeightedField) : Bool := !f.weight.isZero

/-- A field with its weight, where a weight of one is left out. -/
def WeightedField.text (f : WeightedField) : String :=
  if f.weight = .one then f.field else f.field ++ "^" ++ f.weight.display

/-- A field whose phrases raise the score of a document.  The flags say which phrases:
    the whole text, its word pairs, its word triples. -/
structure PhraseBoost where
  field : WeightedField
  whole : Bool
  pairs : Bool
  triples : Bool
deriving DecidableEq, Repr

/-- A scoring function with its weight. -/
structure BoostFunction where
  function : Query
  weight : Scalar
deriving DecidableEq

def BoostFunction.isActive (f : BoostFunction) : Bool := !f.weight.isZero

/-- The direction of an order. -/
inductive SortDirection where
  | ascending
  | descending
deriving DecidableEq, Repr

def SortDirection.word : SortDirection → String
  | .ascending => "asc"
  | .descending => "desc"

/-- What the matches are ordered by. -/
inductive SortKey where
  | field (name : String)
  | function (query : Query)
deriving DecidableEq

/-- An order of the matches. -/
structure SortOrder where
  target : SortKey
  direction : SortDirection
deriving DecidableEq

/-- How many of the words of a text must match. -/
inductive MinimumMatch where
  | percent (n : UInt32)
  | absolute (n : UInt32)
deriving DecidableEq, Repr

/-- The form of a minimum match in requests. -/
def MinimumMatch.param : MinimumMatch → String
  | .percent n => Decimal.naturalText n.toNat ++ "%"
  | .absolute n => Decimal.naturalText n.toNat

/-- When a document is too far behind the ones before it. -/
structure QualityFilter where
  /-- The share of the average score that a document has to exceed. -/
  fallOff : Scalar
  /-- So many documents are kept in any case. -/
  minResults : UInt64
deriving DecidableEq, Repr

/-- For which fields the values are counted, and how. -/
structure FacetSettings where
  fields : List String
  limit : Option UInt64
  minCount : Option UInt64
deriving DecidableEq, Repr

/-- Whether the values of some field are counted. -/
def FacetSettings.isEnabled (f : FacetSettings) : Bool := !f.fields.isEmpty

/-- A circle that the point in a field has to lie in. -/
structure Spatial where
  field : String
  lat : Scalar
  lng : Scalar
  distanceKm : Scalar
deriving DecidableEq, Repr

/-- Everything a request says. -/
structure Search where
  /-- The index that the request is sent to. -/
  index : String
  /-- What has to match and decides the score. -/
  clause : Option Clause
  /-- What has to match and leaves the score alone. -/
  filters : List Clause
  boostQueries : List Clause
  boostFunctions : List BoostFunction
  /-- The fields that a clause without a field name is about. -/
  queryFields : List WeightedField
  phraseBoosts : List PhraseBoost
  /-- The share of the lesser fields in the score. -/
  tieBreaker : Option Scalar
  /-- The reader that the flat backend is asked to use. -/
  queryType : Option String
  facets : FacetSettings
  sort : Option SortOrder
  /-- The number of matches to leave out at the beginning. -/
  start : UInt64
  /-- The greatest number of matches to return. -/
  limit : UInt64
  minimumMatch : Option MinimumMatch
  qualityFilter : Option QualityFilter
  highlighting : Bool
  /-- The fields to return.  An empty list stands for all of them. -/
  fields : List String
  spatial : Option Spatial
deriving DecidableEq

namespace Search

/-- The number of matches that is returned unless the search says otherwise. -/
def defaultLimit : UInt64 := 10

/-- The search that matches everything in an index. -/
def ofIndex (index : String) : Search where
  index := index
  clause := none
  filters := []
  boostQueries := []
  boostFunctions := []
  queryFields := []
  phraseBoosts := []
  tieBreaker := none
  queryType := none
  facets := ⟨[], none, none⟩
  sort := none
  start := 0
  limit := defaultLimit
  minimumMatch := none
  qualityFilter := none
  highlighting := false
  fields := []
  spatial := none

/-- The default fields whose weight is not zero. -/
def activeQueryFields (s : Search) : List WeightedField :=
  s.queryFields.filter WeightedField.isActive

/-- The phrase boosts whose weight is not zero. -/
def activePhraseBoosts (s : Search) : List PhraseBoost :=
  s.phraseBoosts.filter fun boost => boost.field.isActive

/-- The boost functions whose weight is not zero. -/
def activeBoostFunctions (s : Search) : List BoostFunction :=
  s.boostFunctions.filter BoostFunction.isActive

/-- The fields whose matches are highlighted: the ones that the clause names, or else
    the default fields. -/
def highlightFields (s : Search) : List String :=
  let named := match s.clause with
    | some clause => clause.fieldNames
    | none => []
  if named.isEmpty then s.activeQueryFields.map (·.field) else named

/-- The same search for another window of its matches. -/
def page (s : Search) (start limit : UInt64) : Search := { s with start, limit }

end Search

end Retrieval

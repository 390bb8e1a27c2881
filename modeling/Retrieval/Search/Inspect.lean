/-
  Retrieval/Search/Inspect.lean
  =============================
  **The inspection form of searches.**

  All parts of a search are shown in the order of their declaration.
-/
import Retrieval.Clause.Inspect
import Retrieval.Search.Basic

namespace Retrieval

open Decimal Text

def WeightedField.inspect (f : WeightedField) : String :=
  Inspect.record "WeightedField"
    [("field", Inspect.quoted f.field), ("weight", f.weight.inspect)]

def PhraseBoost.inspect (b : PhraseBoost) : String :=
  Inspect.record "PhraseBoost"
    [("field", b.field.inspect), ("pf", Inspect.flag b.whole), ("pf2", Inspect.flag b.pairs),
     ("pf3", Inspect.flag b.triples)]

def BoostFunction.inspect (f : BoostFunction) : String :=
  Inspect.record "BoostFunction" [("function", f.function.inspect), ("weight", f.weight.inspect)]

def SortDirection.name : SortDirection → String
  | .ascending => "Asc"
  | .descending => "Desc"

def SortKey.inspect : SortKey → String
  | .field name => Inspect.variant "Field" (Inspect.quoted name)
  | .function query => Inspect.variant "Function" query.inspect

def SortOrder.inspect (s : SortOrder) : String :=
  Inspect.record "Sort" [("target", s.target.inspect), ("direction", s.direction.name)]

def MinimumMatch.inspect : MinimumMatch → String
  | .percent n => Inspect.variant "Percent" (naturalText n.toNat)
  | .absolute n => Inspect.variant "Absolute" (naturalText n.toNat)

def QualityFilter.inspect (f : QualityFilter) : String :=
  Inspect.record "QualityFilter"
    [("fall_off", f.fallOff.inspect), ("min_results", naturalText f.minResults.toNat)]

def FacetSettings.inspect (f : FacetSettings) : String :=
  Inspect.record "FacetSettings"
    [("fields", Inspect.quotedList f.fields),
     ("limit", Inspect.option (f.limit.map fun n => naturalText n.toNat)),
     ("min_count", Inspect.option (f.minCount.map fun n => naturalText n.toNat))]

def Spatial.inspect (s : Spatial) : String :=
  Inspect.record "Spatial"
    [("field", Inspect.quoted s.field), ("lat", s.lat.inspect), ("lng", s.lng.inspect),
     ("distance_km", s.distanceKm.inspect)]

def Search.inspect (s : Search) : String :=
  Inspect.record "QueryState"
    [("index", Inspect.quoted s.index),
     ("clause", Inspect.option (s.clause.map Clause.inspect)),
     ("filters", Inspect.list (s.filters.map Clause.inspect)),
     ("boost_queries", Inspect.list (s.boostQueries.map Clause.inspect)),
     ("boost_functions", Inspect.list (s.boostFunctions.map BoostFunction.inspect)),
     ("query_fields", Inspect.list (s.queryFields.map WeightedField.inspect)),
     ("phrase_boosts", Inspect.list (s.phraseBoosts.map PhraseBoost.inspect)),
     ("tie_breaker", Inspect.option (s.tieBreaker.map Scalar.inspect)),
     ("query_type", Inspect.option (s.queryType.map Inspect.quoted)),
     ("facets", s.facets.inspect),
     ("sort", Inspect.option (s.sort.map SortOrder.inspect)),
     ("start", naturalText s.start.toNat),
     ("limit", naturalText s.limit.toNat),
     ("minimum_match", Inspect.option (s.minimumMatch.map MinimumMatch.inspect)),
     ("quality_filter", Inspect.option (s.qualityFilter.map QualityFilter.inspect)),
     ("highlighting", Inspect.flag s.highlighting),
     ("fields", Inspect.quotedList s.fields),
     ("spatial", Inspect.option (s.spatial.map Spatial.inspect))]

end Retrieval

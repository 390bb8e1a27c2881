/-
  Retrieval/Search/Serial.lean
  ============================
  **Searches as JSON.**

  A search is stored as a record with a part for each of its settings.  A setting that
  is absent is `null`.  Reading checks shapes and ranges of numbers and nothing else.
-/
import Retrieval.Clause.Serial
import Retrieval.Search.Inspect

namespace Retrieval

open Json

/-! ### Settings -/

namespace WeightedField

def toJson (f : WeightedField) : Json :=
  record [("field", .string f.field), ("weight", ofScalar f.weight)]

def decoder : Decoder WeightedField := fun levels source => do
  let r ← Record.ofSource? ["field", "weight"] levels source
  pure ⟨← r.required "field" Decode.text, ← r.required "weight" Decode.scalar⟩

end WeightedField

namespace PhraseBoost

def toJson (b : PhraseBoost) : Json :=
  record [("field", b.field.toJson), ("pf", .bool b.whole), ("pf2", .bool b.pairs),
    ("pf3", .bool b.triples)]

def decoder : Decoder PhraseBoost := fun levels source => do
  let r ← Record.ofSource? ["field", "pf", "pf2", "pf3"] levels source
  pure ⟨← r.required "field" WeightedField.decoder, ← r.required "pf" Decode.flag,
    ← r.required "pf2" Decode.flag, ← r.required "pf3" Decode.flag⟩

end PhraseBoost

namespace BoostFunction

def toJson (f : BoostFunction) : Json :=
  record [("function", f.function.toJson), ("weight", ofScalar f.weight)]

def decoder : Decoder BoostFunction := fun levels source => do
  let r ← Record.ofSource? ["function", "weight"] levels source
  pure ⟨← r.required "function" Query.decoder, ← r.required "weight" Decode.scalar⟩

end BoostFunction

namespace SortDirection

def ofName? : String → Option SortDirection
  | "Asc" => some .ascending
  | "Desc" => some .descending
  | _ => none

def decoder : Decoder SortDirection := Decode.choice ofName?

end SortDirection

namespace SortKey

def toJson : SortKey → Json
  | .field name => single "Field" (.string name)
  | .function query => single "Function" query.toJson

def decoder : Decoder SortKey
  | 0, _ => none
  | levels + 1, source =>
    match variant? source with
    | some ("Field", some content) => (Decode.text levels content).map .field
    | some ("Function", some content) => (Query.decoder levels content).map .function
    | _ => none

end SortKey

namespace SortOrder

def toJson (s : SortOrder) : Json :=
  record [("target", s.target.toJson), ("direction", .string s.direction.name)]

def decoder : Decoder SortOrder := fun levels source => do
  let r ← Record.ofSource? ["target", "direction"] levels source
  pure ⟨← r.required "target" SortKey.decoder, ← r.required "direction" SortDirection.decoder⟩

end SortOrder

namespace MinimumMatch

def toJson : MinimumMatch → Json
  | .percent n => single "Percent" (natural n.toUInt64)
  | .absolute n => single "Absolute" (natural n.toUInt64)

def decoder : Decoder MinimumMatch
  | 0, _ => none
  | levels + 1, source =>
    match variant? source with
    | some ("Percent", some content) => (Decode.natural32 levels content).map .percent
    | some ("Absolute", some content) => (Decode.natural32 levels content).map .absolute
    | _ => none

end MinimumMatch

namespace QualityFilter

def toJson (f : QualityFilter) : Json :=
  record [("fall_off", ofScalar f.fallOff), ("min_results", natural f.minResults)]

def decoder : Decoder QualityFilter := fun levels source => do
  let r ← Record.ofSource? ["fall_off", "min_results"] levels source
  pure ⟨← r.required "fall_off" Decode.scalar, ← r.required "min_results" Decode.natural64⟩

end QualityFilter

namespace FacetSettings

def toJson (f : FacetSettings) : Json :=
  record [("fields", texts f.fields), ("limit", ofOption natural f.limit),
    ("min_count", ofOption natural f.minCount)]

def decoder : Decoder FacetSettings := fun levels source => do
  let r ← Record.ofSource? ["fields", "limit", "min_count"] levels source
  pure ⟨← r.required "fields" (Decode.list Decode.text), ← r.optional "limit" Decode.natural64,
    ← r.optional "min_count" Decode.natural64⟩

end FacetSettings

namespace Spatial

def toJson (s : Spatial) : Json :=
  record [("field", .string s.field), ("lat", ofScalar s.lat), ("lng", ofScalar s.lng),
    ("distance_km", ofScalar s.distanceKm)]

def decoder : Decoder Spatial := fun levels source => do
  let r ← Record.ofSource? ["field", "lat", "lng", "distance_km"] levels source
  pure ⟨← r.required "field" Decode.text, ← r.required "lat" Decode.scalar,
    ← r.required "lng" Decode.scalar, ← r.required "distance_km" Decode.scalar⟩

end Spatial

/-! ### Searches -/

namespace Search

def toJson (s : Search) : Json :=
  record
    [("index", .string s.index),
     ("clause", ofOption Clause.toJson s.clause),
     ("filters", .array (s.filters.map Clause.toJson)),
     ("boost_queries", .array (s.boostQueries.map Clause.toJson)),
     ("boost_functions", .array (s.boostFunctions.map BoostFunction.toJson)),
     ("query_fields", .array (s.queryFields.map WeightedField.toJson)),
     ("phrase_boosts", .array (s.phraseBoosts.map PhraseBoost.toJson)),
     ("tie_breaker", ofOption ofScalar s.tieBreaker),
     ("query_type", ofOption .string s.queryType),
     ("facets", s.facets.toJson),
     ("sort", ofOption SortOrder.toJson s.sort),
     ("start", natural s.start),
     ("limit", natural s.limit),
     ("minimum_match", ofOption MinimumMatch.toJson s.minimumMatch),
     ("quality_filter", ofOption QualityFilter.toJson s.qualityFilter),
     ("highlighting", .bool s.highlighting),
     ("fields", texts s.fields),
     ("spatial", ofOption Spatial.toJson s.spatial)]

def partNames : List String :=
  ["index", "clause", "filters", "boost_queries", "boost_functions", "query_fields",
   "phrase_boosts", "tie_breaker", "query_type", "facets", "sort", "start", "limit",
   "minimum_match", "quality_filter", "highlighting", "fields", "spatial"]

def decoder : Decoder Search := fun levels source => do
  let r ← Record.ofSource? partNames levels source
  pure
    { index := ← r.required "index" Decode.text
      clause := ← r.optional "clause" Clause.decoder
      filters := ← r.required "filters" (Decode.list Clause.decoder)
      boostQueries := ← r.required "boost_queries" (Decode.list Clause.decoder)
      boostFunctions := ← r.required "boost_functions" (Decode.list BoostFunction.decoder)
      queryFields := ← r.required "query_fields" (Decode.list WeightedField.decoder)
      phraseBoosts := ← r.required "phrase_boosts" (Decode.list PhraseBoost.decoder)
      tieBreaker := ← r.optional "tie_breaker" Decode.scalar
      queryType := ← r.optional "query_type" Decode.text
      facets := ← r.required "facets" FacetSettings.decoder
      sort := ← r.optional "sort" SortOrder.decoder
      start := ← r.required "start" Decode.natural64
      limit := ← r.required "limit" Decode.natural64
      minimumMatch := ← r.optional "minimum_match" MinimumMatch.decoder
      qualityFilter := ← r.optional "quality_filter" QualityFilter.decoder
      highlighting := ← r.required "highlighting" Decode.flag
      fields := ← r.required "fields" (Decode.list Decode.text)
      spatial := ← r.optional "spatial" Spatial.decoder }

end Search

end Retrieval

/-
  Retrieval/Flat/Params.lean
  ==========================
  **The flat request: key/value parameters.**

  A search becomes a list of pairs.  Each setting writes its own keys; a key may occur
  several times, and its values keep the order in which the search holds them.

  The sections below follow one another in a fixed order.  Only the order of the
  matches can be refused: the syntax sorts by a field or a scoring function, not by an
  expression that computes no score.
-/
import Retrieval.Failure
import Retrieval.Flat.Expression
import Retrieval.Search.Basic
import Retrieval.Text.FormEncoded

namespace Retrieval.Flat

open Decimal Text

/-- The parameters of a request. -/
structure Params where
  /-- The pairs in the order of emission. -/
  pairs : List (String × String)
deriving DecidableEq, Repr

/-! ### Sections -/

def mainPairs (s : Search) : List (String × String) :=
  [("q", match s.clause with
    | some clause => clauseText clause
    | none => "*:*")]

def readerPairs (s : Search) : List (String × String) :=
  (s.queryType.map fun name => ("defType", name)).toList ++
    (s.minimumMatch.map fun m => ("mm", m.param)).toList

def queryFieldPairs (s : Search) : List (String × String) :=
  s.activeQueryFields.map fun field => ("qf", field.text)

def phraseBoostPairs (boost : PhraseBoost) : List (String × String) :=
  (if boost.whole then [("pf", boost.field.text)] else []) ++
    (if boost.pairs then [("pf2", boost.field.text)] else []) ++
    (if boost.triples then [("pf3", boost.field.text)] else [])

/-- Everything that changes scores and nothing else. -/
def scorePairs (s : Search) : List (String × String) :=
  s.activePhraseBoosts.flatMap phraseBoostPairs ++
    (s.tieBreaker.map fun tie => ("tie", tie.display)).toList ++
    s.boostQueries.map (fun clause => ("bq", clauseText clause)) ++
    s.activeBoostFunctions.map fun f => ("bf", queryText f.function ++ "^" ++ f.weight.display)

def spatialPairs (circle : Spatial) : List (String × String) :=
  [("fq", "\x7b!geofilt\x7d"), ("sfield", circle.field),
   ("pt", circle.lat.plain ++ "," ++ circle.lng.plain), ("d", circle.distanceKm.plain)]

def filterPairs (s : Search) : List (String × String) :=
  s.filters.map (fun clause => ("fq", clauseText clause)) ++
    match s.spatial with
    | some circle => spatialPairs circle
    | none => []

def sortKeyText : SortKey → Except Failure String
  | .field name => .ok name
  | .function query =>
    if query.isFunction then .ok (queryText query)
    else .error (.unsupported (.sortTarget query))

def sortPairs (s : Search) : Except Failure (List (String × String)) :=
  match s.sort with
  | none => .ok []
  | some order => do
    let key ← sortKeyText order.target
    pure [("sort", key ++ " " ++ order.direction.word)]

def windowPairs (s : Search) : List (String × String) :=
  [("start", naturalText s.start.toNat), ("rows", naturalText s.limit.toNat)]

/-- The fields that are asked for where a circle is set and no fields are chosen. -/
def spatialFieldList : String := "*,_dist_:geodist()"

/-- The fields that are asked for before scores are considered.  Without a reason to
    name any, nothing is said. -/
def baseFields (s : Search) : List String :=
  if !s.fields.isEmpty then s.fields
  else if s.spatial.isSome then [spatialFieldList]
  else if s.qualityFilter.isSome then ["*"]
  else []

/-- The fields to return.  A quality filter needs the scores. -/
def fieldListPairs (s : Search) : List (String × String) :=
  match baseFields s with
  | [] => []
  | base =>
    let fields :=
      if s.qualityFilter.isSome && !base.contains "score" then base ++ ["score"] else base
    [("fl", String.intercalate "," fields)]

def facetPairs (facets : FacetSettings) : List (String × String) :=
  if facets.isEnabled then
    ("facet", "true") :: facets.fields.map (fun field => ("facet.field", field)) ++
      (facets.limit.map fun n => ("facet.limit", naturalText n.toNat)).toList ++
      (facets.minCount.map fun n => ("facet.mincount", naturalText n.toNat)).toList
  else []

/-- The fields whose matches are highlighted. -/
def highlightFieldPairs : List String → List (String × String)
  | [] => []
  | fields => [("hl.fl", String.intercalate "," fields)]

def highlightPairs (s : Search) : List (String × String) :=
  if s.highlighting then ("hl", "true") :: highlightFieldPairs s.highlightFields else []

namespace Params

def ofSearch (s : Search) : Except Failure Params := do
  let sorting ← sortPairs s
  pure ⟨mainPairs s ++ readerPairs s ++ queryFieldPairs s ++ scorePairs s ++ filterPairs s ++
    sorting ++ windowPairs s ++ fieldListPairs s ++ facetPairs s.facets ++ highlightPairs s⟩

/-! ### Access -/

def getAll (p : Params) (key : String) : List String :=
  (p.pairs.filter fun pair => pair.1 == key).map (·.2)

def get? (p : Params) (key : String) : Option String := (p.getAll key).head?

def contains (p : Params) (key : String) : Bool := p.pairs.any fun pair => pair.1 == key

def queryString (p : Params) : String := (p.get? "q").getD "*:*"

/-- The order of pairs by key, then by value. -/
def pairLE (a b : String × String) : Bool := a.1 < b.1 || (a.1 == b.1 && a.2 ≤ b.2)

/-- The pairs in ascending order, which forgets the order of emission. -/
def toMultiset (p : Params) : List (String × String) := p.pairs.mergeSort pairLE

def formBody (p : Params) : String := FormEncoded.encodePairs p.pairs

end Params

end Retrieval.Flat

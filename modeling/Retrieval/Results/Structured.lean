/-
  Retrieval/Results/Structured.lean
  =================================
  **Answers of the structured backend.**

  The body is a JSON value.  Each match is an object of its own with the attributes,
  the score, the identity and the highlighted fragments of one document.  The backend
  does not repeat which window was asked for, so the caller says where it began.
-/
import Retrieval.Json.Printer
import Retrieval.Results.Basic

namespace Retrieval.Structured

open Json

/-! ### The shape of a body -/

/-- One match. -/
structure Hit where
  id : Option Json
  score : Option Scalar
  attributes : Dict Json
  highlights : Option (Dict (List String))

/-- The section of matches. -/
structure HitSection where
  total : Option UInt64
  hits : List Hit

/-- A value of a facet field with its count. -/
structure Bucket where
  key : Json
  count : UInt64

/-- A body with its sections. -/
structure Envelope where
  hits : Option HitSection
  facets : Dict (List Bucket)
  error : Option Json
  status : Option UInt16

def Hit.decoder : Decoder Hit := fun levels source => do
  let r ← Record.ofSource? ["_id", "_score", "_source", "highlight"] levels source
  pure ⟨← r.optional "_id" Decode.json, ← r.optional "_score" Decode.scalar,
    ← r.orDefault "_source" Decode.members [], ← r.optional "highlight" Document.fragmentsDecoder⟩

/-- Read a total, which is a number or an object with a number. -/
def totalDecoder : Decoder UInt64 := fun levels source =>
  match source with
  | .object _ => do (← Record.ofSource? ["value"] levels source).required "value" Decode.natural64
  | source => Decode.natural64 levels source

def HitSection.decoder : Decoder HitSection := fun levels source => do
  let r ← Record.ofSource? ["total", "hits"] levels source
  pure ⟨← r.optional "total" totalDecoder, ← r.orDefault "hits" (Decode.list Hit.decoder) []⟩

def Bucket.decoder : Decoder Bucket := fun levels source => do
  let r ← Record.ofSource? ["key", "doc_count"] levels source
  pure ⟨← r.required "key" Decode.json, ← r.required "doc_count" Decode.natural64⟩

def bucketsDecoder : Decoder (List Bucket) := fun levels source => do
  let r ← Record.ofSource? ["buckets"] levels source
  r.orDefault "buckets" (Decode.list Bucket.decoder) []

def Envelope.decoder : Decoder Envelope := fun levels source => do
  let r ← Record.ofSource? ["hits", "aggregations", "error", "status"] levels source
  pure ⟨← r.optional "hits" HitSection.decoder,
    ← r.orDefault "aggregations" (Decode.dict bucketsDecoder) [],
    ← r.optional "error" Decode.json, ← r.optional "status" Decode.natural16⟩

/-! ### Documents and counts -/

/-- The document of a match.  Its score is the reported one and no other; its identity
    is the reported one, or else that of the attributes. -/
def Hit.document (hit : Hit) : Document :=
  let doc := (Document.ofAttributes hit.attributes).withScore hit.score
  let doc := match hit.id.bind identity? with
    | some id => doc.withId id
    | none => doc
  match hit.highlights with
  | some fragments => doc.withHighlights fragments
  | none => doc

/-- The value and the count of a bucket, if the value has a text. -/
def Bucket.entry? (bucket : Bucket) : Option (String × UInt64) :=
  bucket.key.identity?.map (·, bucket.count)

/-- The counts of a facet field.  The last count of a repeated value stays. -/
def bucketCounts (buckets : List Bucket) : Dict UInt64 :=
  Dict.ofEntries (buckets.filterMap Bucket.entry?)

/-- The explanation in a reported error: its text or its reason, or else all of it. -/
def errorReason : Json → String
  | .string reason => reason
  | error =>
    match (error.member? "reason").bind text? with
    | some reason => reason
    | none => error.print

/-! ### Reading -/

def HitSection.results (s : HitSection) (start : UInt64) (facets : Dict (List Bucket)) : Results where
  totalFound := s.total.getD s.hits.length.toUInt64
  startOffset := start
  docs := s.hits.map Hit.document
  facets := facets.mapValues bucketCounts

/-- The answer in a body.  The request is only needed for failures. -/
def readResults (body : Json) (start : UInt64) (request : String) : Except Failure Results :=
  match Envelope.decoder.ofJson? body with
  | none => .error (.response .unreadable body.print request)
  | some e =>
    match e.error with
    | some error => .error (.transport e.status (errorReason error) request)
    | none =>
      match e.hits with
      | none => .error (.response (.missingSection "hits") body.print request)
      | some found => .ok (found.results start e.facets)

end Retrieval.Structured

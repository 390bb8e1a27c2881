/-
  Retrieval/Results/Basic.lean
  ============================
  **The answer to a search, independent of the backend.**
-/
import Retrieval.Document

namespace Retrieval

open Json

/-- The counts of the values of each facet field. -/
abbrev Facets := Dict (Dict UInt64)

/-- A window of the matches of a search. -/
structure Results where
  /-- The number of all matches. -/
  totalFound : UInt64
  /-- The number of matches before the first document. -/
  startOffset : UInt64
  docs : List Document
  facets : Facets
deriving DecidableEq

def Facets.toJson (facets : Facets) : Json :=
  .object (facets.mapValues fun counts => .object (counts.mapValues natural))

namespace Results

def toJson (r : Results) : Json :=
  record [("total_found", natural r.totalFound), ("start_offset", natural r.startOffset),
    ("docs", .array (r.docs.map Document.toJson)), ("facets", r.facets.toJson)]

/-- Read an answer that was stored in this form. -/
def decoder : Decoder Results := fun levels source => do
  let r ← Record.ofSource? ["total_found", "start_offset", "docs", "facets"] levels source
  pure ⟨← r.required "total_found" Decode.natural64, ← r.required "start_offset" Decode.natural64,
    ← r.required "docs" (Decode.list Document.decoder),
    ← r.required "facets" (Decode.dict (Decode.dict Decode.natural64))⟩

end Results

end Retrieval

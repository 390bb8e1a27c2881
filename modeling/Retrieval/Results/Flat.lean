/-
  Retrieval/Results/Flat.lean
  ===========================
  **Answers of the flat backend.**

  The body is JSON text with sections, all of which are decoded before anything is made
  of them.  A body in which one of them has another shape is a failure of the response, also
  where another one reports an error.  A decoded body that reports an error is a failure of
  the transport.

  Otherwise the documents are in one section, the highlighted fragments in another under the
  identities of the documents, and the facet counts in a third, where each field has one list
  of values and counts in turn.
-/
import Retrieval.Results.Basic

namespace Retrieval.Flat

open Json

/-! ### The shape of a body -/

/-- The section of documents. -/
structure DocumentSection where
  found : UInt64
  start : UInt64
  docs : List (Dict Json)

/-- An error as the backend reports it. -/
structure ReportedError where
  text : Option String
  code : Option UInt16

/-- A body with its sections. -/
structure Envelope where
  documents : Option DocumentSection
  highlighting : Dict (Dict (List String))
  /-- The lists of values and counts of the facet fields. -/
  facets : Option (Dict (List Json))
  error : Option ReportedError

def DocumentSection.decoder : Decoder DocumentSection := fun levels source => do
  let r ← Record.ofSource? ["numFound", "start", "docs"] levels source
  pure ⟨← r.required "numFound" Decode.natural64, ← r.orDefault "start" Decode.natural64 0,
    ← r.orDefault "docs" (Decode.list Decode.members) []⟩

def ReportedError.decoder : Decoder ReportedError := fun levels source => do
  let r ← Record.ofSource? ["msg", "code"] levels source
  pure ⟨← r.optional "msg" Decode.text, ← r.optional "code" Decode.natural16⟩

def facetSection : Decoder (Dict (List Json)) := fun levels source => do
  let r ← Record.ofSource? ["facet_fields"] levels source
  r.orDefault "facet_fields" (Decode.dict (Decode.list Decode.json)) []

def Envelope.decoder : Decoder Envelope := fun levels source => do
  let r ← Record.ofSource? ["response", "highlighting", "facet_counts", "error"] levels source
  pure ⟨← r.optional "response" DocumentSection.decoder,
    ← r.orDefault "highlighting" (Decode.dict Document.fragmentsDecoder) [],
    ← r.optional "facet_counts" facetSection, ← r.optional "error" ReportedError.decoder⟩

/-! ### Documents and counts -/

/-- The documents with their highlighted fragments.  The fragments of an identity go to
    the first document that has it. -/
def documents (fragments : Dict (Dict (List String))) : List (Dict Json) → List Document
  | [] => []
  | attributes :: rest =>
    let doc := Document.ofAttributes attributes
    match doc.id.bind fun id => (fragments.get? id).map (id, ·) with
    | some (id, found) => doc.withHighlights found :: documents (fragments.erase id) rest
    | none => doc :: documents fragments rest

/-- The counts in a list of values and counts in turn. -/
def facetCounts : List Json → Except ResponseFault (List (String × UInt64))
  | [] => .ok []
  | [_] => .error .facetLength
  | value :: count :: rest =>
    match value.identity?, count.natural? with
    | none, _ => .error .facetValue
    | _, none => .error .facetCount
    | some value, some count => (facetCounts rest).map ((value, count) :: ·)

/-- The counts of all facet fields.  The last count of a repeated value stays. -/
def allFacetCounts : Dict (List Json) → Except ResponseFault Facets
  | [] => .ok []
  | (field, items) :: rest => do
    let counts ← facetCounts items
    let others ← allFacetCounts rest
    pure ((field, Dict.ofEntries counts) :: others)

/-! ### Reading -/

/-- What is said about an error that the backend does not explain. -/
def unexplained : String := "backend reported an error"

/-- The answer in a body without a reported error. -/
def Envelope.results (e : Envelope) : Except ResponseFault Results :=
  match e.documents with
  | none => .error (.missingSection "response")
  | some found => do
    let facets ← allFacetCounts (e.facets.getD [])
    pure ⟨found.found, found.start, Flat.documents e.highlighting found.docs, facets⟩

/-- The answer in the text of a body.  The request is only needed for failures. -/
def readResults (body request : String) : Except Failure Results :=
  match Envelope.decoder.ofText? body with
  | none => .error (.response .unreadable body request)
  | some e =>
    match e.error with
    | some error => .error (.transport error.code (error.text.getD unexplained) request)
    | none => e.results.mapError fun fault => .response fault body request

end Retrieval.Flat

/-
  Retrieval/Results/Processing.lean
  =================================
  **From an answer to what the caller asked for.**

  Three steps follow one another: the quality filter of the search cuts the ranked
  list, the caller's transformation may change it, and the caller's projection turns
  each remaining document into a value.  A projection may fail; the first failure is
  the outcome of the whole.
-/
import Retrieval.Results.Basic
import Retrieval.Results.Cutoff

namespace Retrieval

abbrev Transform := List Document → List Document

abbrev Projection (α : Type) := Document → Except Failure α

/-- What the caller gets. -/
structure Response (α : Type) where
  /-- The number of all matches. -/
  totalFound : UInt64
  /-- The number of matches before the first document of the answer. -/
  startOffset : UInt64
  /-- The projected documents. -/
  results : List α
  /-- The documents that were projected. -/
  raw : List Document
  facets : Facets

namespace Response

variable {α : Type}

def size (r : Response α) : Nat := r.results.length

def isEmpty (r : Response α) : Bool := r.results.isEmpty

/-- The identities of the documents that have one. -/
def ids (r : Response α) : List String := r.raw.filterMap (·.id)

def facet? (r : Response α) (field : String) : Option (Dict UInt64) := r.facets.get? field

end Response

/-- Something worth a note, but no reason to stop. -/
inductive Notice where
  /-- A quality filter met scores that do not descend. -/
  | unordered (docs : Nat)
deriving DecidableEq, Repr

namespace Search

variable {α : Type}

/-- The documents that are left to project. -/
def retained (s : Search) (transform : Option Transform) (docs : List Document) : List Document :=
  let kept := match s.qualityFilter with
    | some filter => filter.kept docs
    | none => docs
  match transform with
  | some change => change kept
  | none => kept

/-- What there is to note about the documents of an answer. -/
def notices (s : Search) (docs : List Document) : List Notice :=
  if s.qualityFilter.isSome && !isDescending (scoresOf docs) then [.unordered docs.length] else []

def processDocuments (s : Search) (projection : Projection α) (transform : Option Transform)
    (docs : List Document) : Except Failure (List α) :=
  (s.retained transform docs).mapM projection

def processResults (s : Search) (projection : Projection α) (transform : Option Transform)
    (results : Results) : Except Failure (Response α) := do
  let raw := s.retained transform results.docs
  let projected ← raw.mapM projection
  pure ⟨results.totalFound, results.startOffset, projected, raw, results.facets⟩

end Search

end Retrieval

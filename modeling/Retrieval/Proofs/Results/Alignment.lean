/-
  Retrieval/Proofs/Results/Alignment.lean
  =======================================
  **Projected values and the documents that they come from.**

  The quality filter, the transformation and the projection follow one another, and the
  projection is handed the transformed documents before the cutoff (`Search.handed`).  The
  projected values stand beside these documents, one for each, in the same order (`Aligned`).
  If the projection fails, the outcome is its failure at the first of them where it does
  (`FailsFirst`), and a list of documents fails in the same way as an answer.

  What a step does elsewhere does not matter: two transformations that agree at the documents
  before the cutoff, and two projections that agree at the documents handed to them, have the
  same outcome.
-/
import Retrieval.Proofs.Outcome
import Retrieval.Proofs.Results.CutoffPoint

namespace Retrieval

variable {α : Type}

/-! ### The documents that are projected -/

namespace Search

/-- How many documents of a ranked list come before its cutoff: all of them without a filter. -/
def leadingCount (s : Search) (docs : List Document) : Nat :=
  match s.qualityFilter with
  | some filter => cutoff (scoresOf docs) filter.fallOff filter.minResults.toNat
  | none => docs.length

def leading (s : Search) (docs : List Document) : List Document := docs.take (s.leadingCount docs)

/-- The documents that are handed to the projection. -/
def handed (s : Search) (transform : Option Transform) (docs : List Document) : List Document :=
  transform.getD id (s.leading docs)

theorem retained_eq_handed (s : Search) (transform : Option Transform) (docs : List Document) :
    s.retained transform docs = s.handed transform docs := by
  unfold retained handed leading leadingCount
  cases s.qualityFilter with
  | none =>
    rw [List.take_length]
    cases transform <;> rfl
  | some filter => cases transform <;> rfl

end Search

/-! ### Outcomes -/

/-- The values stand beside the documents that they come from, and all else is as in the answer
    of the backend. -/
structure Aligned (projection : Projection α) (docs : List Document) (answer : Results)
    (response : Response α) : Prop where
  raw : response.raw = docs
  results : List.Forall₂ (fun doc value => projection doc = .ok value) response.raw response.results
  totalFound : response.totalFound = answer.totalFound
  startOffset : response.startOffset = answer.startOffset
  facets : response.facets = answer.facets

/-- The failure is that of the first document at which the projection fails. -/
def FailsFirst (projection : Projection α) (docs : List Document) (failure : Failure) : Prop :=
  ∃ before doc after, docs = before ++ doc :: after ∧
    (∀ earlier ∈ before, ∃ value, projection earlier = .ok value) ∧
    projection doc = .error failure

section Processing

variable {s : Search} {projection : Projection α} {transform : Option Transform}
  {answer : Results}

theorem processResults_eq :
    s.processResults projection transform answer =
      ((s.handed transform answer.docs).mapM projection).map fun values =>
        ⟨answer.totalFound, answer.startOffset, values, s.handed transform answer.docs,
          answer.facets⟩ := by
  rw [← Search.retained_eq_handed, Search.processResults]
  cases (s.retained transform answer.docs).mapM projection <;> rfl

theorem processDocuments_eq :
    s.processDocuments projection transform answer.docs
      = (s.processResults projection transform answer).map Response.results := by
  rw [processResults_eq, Search.processDocuments, Search.retained_eq_handed]
  cases (s.handed transform answer.docs).mapM projection <;> rfl

theorem processResults_eq_ok_iff {response : Response α} :
    s.processResults projection transform answer = .ok response ↔
      Aligned projection (s.handed transform answer.docs) answer response := by
  rw [processResults_eq, map_eq_ok_iff]
  simp only [mapM_eq_ok_iff]
  constructor
  · rintro ⟨values, hvalues, rfl⟩
    exact ⟨rfl, hvalues, rfl, rfl, rfl⟩
  · rintro ⟨hraw, hvalues, htotal, hstart, hfacets⟩
    refine ⟨response.results, hraw ▸ hvalues, ?_⟩
    rw [← hraw, ← htotal, ← hstart, ← hfacets]

theorem processResults_eq_error_iff {failure : Failure} :
    s.processResults projection transform answer = .error failure ↔
      FailsFirst projection (s.handed transform answer.docs) failure := by
  rw [processResults_eq, map_eq_error_iff, mapM_eq_error_iff]
  rfl

theorem exists_processResults_iff :
    (∃ response, s.processResults projection transform answer = .ok response) ↔
      ∀ doc ∈ s.handed transform answer.docs, ∃ value, projection doc = .ok value := by
  rw [← exists_forall₂_iff]
  simp only [processResults_eq_ok_iff]
  constructor
  · rintro ⟨response, hraw, hvalues, -⟩
    exact ⟨response.results, hraw ▸ hvalues⟩
  · rintro ⟨values, hvalues⟩
    exact ⟨⟨_, _, values, _, _⟩, rfl, hvalues, rfl, rfl, rfl⟩

/-- The projection is not asked about other documents. -/
theorem processResults_congr {projection' : Projection α}
    (h : ∀ doc ∈ s.handed transform answer.docs, projection' doc = projection doc) :
    s.processResults projection' transform answer
      = s.processResults projection transform answer := by
  rw [processResults_eq, processResults_eq, mapM_congr h]

/-- The transformation is not asked about other lists of documents. -/
theorem processResults_transform_congr {change change' : Transform}
    (h : change' (s.leading answer.docs) = change (s.leading answer.docs)) :
    s.processResults projection (some change') answer
      = s.processResults projection (some change) answer := by
  have hhanded : s.handed (some change') answer.docs = s.handed (some change) answer.docs := h
  rw [processResults_eq, processResults_eq, hhanded]

end Processing

/-- **Processed answers.**  A response has the transformed documents before the cutoff with the
    value of each, and the totals, the start and the facets of the answer.  There is one exactly if
    the projection succeeds at all of these documents, and otherwise the outcome is the first
    failure among them.  A list of documents is processed with the same outcome.  Other documents
    reach neither the transformation nor the projection. -/
theorem processed_answer_aligned (s : Search) (projection : Projection α)
    (transform : Option Transform) (answer : Results) :
    (∀ response, s.processResults projection transform answer = .ok response ↔
      Aligned projection (s.handed transform answer.docs) answer response) ∧
    ((∃ response, s.processResults projection transform answer = .ok response) ↔
      ∀ doc ∈ s.handed transform answer.docs, ∃ value, projection doc = .ok value) ∧
    (∀ failure, s.processResults projection transform answer = .error failure ↔
      FailsFirst projection (s.handed transform answer.docs) failure) ∧
    s.processDocuments projection transform answer.docs
      = (s.processResults projection transform answer).map Response.results ∧
    (∀ change change' : Transform,
      change' (s.leading answer.docs) = change (s.leading answer.docs) →
        s.processResults projection (some change') answer
          = s.processResults projection (some change) answer) ∧
    (∀ projection' : Projection α,
      (∀ doc ∈ s.handed transform answer.docs, projection' doc = projection doc) →
        s.processResults projection' transform answer
          = s.processResults projection transform answer) := by
  refine ⟨?_, exists_processResults_iff, ?_, processDocuments_eq, ?_, ?_⟩
  · intro response
    exact processResults_eq_ok_iff
  · intro failure
    exact processResults_eq_error_iff
  · intro change change' h
    exact processResults_transform_congr h
  · intro projection' h
    exact processResults_congr h

/-- Ranked documents, of which the last two have no identity. -/
def rankedDocs : List Document :=
  [some "a", some "b", some "c", none, none].zipWith (fun id score => ⟨[], none, some score, id⟩)
    decayedScores

def documentId : Projection String := fun doc =>
  match doc.id with
  | some id => .ok id
  | none => .error (.query (.missingAttribute "id"))

/-- The search that cuts off the documents without an identity. -/
def cutSearch : Search := { Search.ofIndex "venues" with qualityFilter := some ⟨oneHalf, 2⟩ }

theorem processed_answer_aligned_rankedDocs :
    (∀ doc ∈ cutSearch.handed (some List.reverse) rankedDocs, ∃ id, documentId doc = .ok id) ∧
    (∃ response, cutSearch.processResults documentId (some List.reverse) ⟨42, 0, rankedDocs, []⟩
        = .ok response ∧ response.raw = (rankedDocs.take 3).reverse ∧
      response.results = ["c", "b", "a"]) ∧
    cutSearch.processResults documentId (some fun docs => (docs.take 3).reverse)
        ⟨42, 0, rankedDocs, []⟩
      = cutSearch.processResults documentId (some List.reverse) ⟨42, 0, rankedDocs, []⟩ ∧
    cutSearch.processResults (fun doc => .ok (doc.id.getD "")) (some List.reverse)
        ⟨42, 0, rankedDocs, []⟩
      = cutSearch.processResults documentId (some List.reverse) ⟨42, 0, rankedDocs, []⟩ := by
  have hleading : cutSearch.leading rankedDocs = rankedDocs.take 3 := by decide +kernel
  have hhanded : cutSearch.handed (some List.reverse) rankedDocs = (rankedDocs.take 3).reverse := by
    rw [Search.handed, hleading]
    rfl
  have hids : ∀ doc ∈ (rankedDocs.take 3).reverse, documentId doc = .ok (doc.id.getD "") := by
    decide +kernel
  obtain ⟨hok, hsome, -, -, htransform, hprojection⟩ :=
    processed_answer_aligned cutSearch documentId (some List.reverse) ⟨42, 0, rankedDocs, []⟩
  have hvalues : ∀ doc ∈ cutSearch.handed (some List.reverse) rankedDocs,
      ∃ id, documentId doc = .ok id := by
    intro doc hdoc
    exact ⟨_, hids doc (hhanded ▸ hdoc)⟩
  obtain ⟨response, hresponse⟩ := hsome.mpr hvalues
  have haligned := (hok response).mp hresponse
  have hraw : response.raw = (rankedDocs.take 3).reverse := haligned.raw.trans hhanded
  have hresults : response.raw.mapM documentId = .ok response.results :=
    mapM_eq_ok_iff.mpr haligned.results
  refine ⟨hvalues, ⟨response, hresponse, hraw, ?_⟩, ?_, ?_⟩
  · rw [hraw] at hresults
    exact (Except.ok.inj hresults).symm
  · apply htransform
    rw [hleading]
    rfl
  · apply hprojection
    intro doc hdoc
    exact (hids doc (hhanded ▸ hdoc)).symm

end Retrieval

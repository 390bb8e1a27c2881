/-
  Retrieval/Proofs/Results/Highlights.lean
  ========================================
  **Highlighted fragments and the documents that they belong to.**

  A flat answer lists its highlighted fragments apart from the documents, under their
  identities.  The documents are walked in their order, and each takes what is listed under its
  identity *out* of the list.  What is left for a document therefore depends on the ones before
  it: nothing, if one of them has the same identity (`documents_eq_mapIdx`).

  So every document has the fragments that are listed for it exactly if the documents for which
  some are listed have identities of their own (`highlights_listed_iff`).  A text and a number
  that is written like this text are one identity.
-/
import Retrieval.Proofs.Dict
import Retrieval.Results.Flat

namespace Retrieval.Flat

open Json

/-! ### Walking the documents -/

/-- The identity of the document with the given attributes. -/
def identityOf (attributes : Dict Json) : Option String := (Document.ofAttributes attributes).id

/-- The fragments that remain listed behind a document with the given identity. -/
def remaining (fragments : Dict (Dict (List String))) : Option String → Dict (Dict (List String))
  | none => fragments
  | some id => fragments.erase id

/-- The fragments for a document behind other documents. -/
def fragmentsLeft (fragments : Dict (Dict (List String))) (before : List (Dict Json))
    (attributes : Dict Json) : Option (Dict (List String)) :=
  if identityOf attributes ∈ before.map identityOf then none
  else (identityOf attributes).bind fragments.get?

variable (fragments : Dict (Dict (List String)))

/-- One step of the walk. -/
theorem documents_cons (attributes : Dict Json) (rest : List (Dict Json)) :
    documents fragments (attributes :: rest)
      = { Document.ofAttributes attributes with
          highlights := (identityOf attributes).bind fragments.get? } ::
        documents (remaining fragments (identityOf attributes)) rest := by
  rw [documents, identityOf]
  cases hid : (Document.ofAttributes attributes).id with
  | none => rfl
  | some id =>
    cases hlisted : fragments.get? id with
    | none => simp [hlisted, remaining, Dict.erase_eq_self hlisted, Document.ofAttributes]
    | some found => simp [hlisted, remaining, Document.withHighlights]

/-- A document takes from the later ones what it has taken from the list. -/
theorem fragmentsLeft_cons (first : Dict Json) (before : List (Dict Json))
    (attributes : Dict Json) :
    fragmentsLeft fragments (first :: before) attributes
      = fragmentsLeft (remaining fragments (identityOf first)) before attributes := by
  unfold fragmentsLeft
  rw [List.map_cons]
  by_cases hbefore : identityOf attributes ∈ before.map identityOf
  · rw [if_pos hbefore, if_pos (List.mem_cons_of_mem _ hbefore)]
  rw [if_neg hbefore]
  by_cases hfirst : identityOf attributes = identityOf first
  · rw [if_pos (hfirst ▸ List.mem_cons_self ..), hfirst]
    cases identityOf first with
    | none => rfl
    | some id => exact (Dict.get?_erase_self fragments id).symm
  · rw [if_neg fun h => (List.mem_cons.mp h).elim hfirst hbefore]
    cases hother : identityOf attributes with
    | none => rfl
    | some other =>
      cases hid : identityOf first with
      | none => rfl
      | some id =>
        have hne : other ≠ id := fun h => hfirst (by rw [hother, hid, h])
        exact (Dict.get?_erase_of_ne hne fragments).symm

/-- What every document is given, by the documents before it. -/
theorem documents_eq_mapIdx (docs : List (Dict Json)) :
    documents fragments docs = docs.mapIdx fun i attributes =>
      { Document.ofAttributes attributes with
        highlights := fragmentsLeft fragments (docs.take i) attributes } := by
  -- Each step leaves a shorter list of fragments, so the induction is for all of them.
  induction docs generalizing fragments with
  | nil => rfl
  | cons first rest ih =>
    rw [documents_cons, ih, List.mapIdx_cons]
    simp only [List.take_succ_cons, fragmentsLeft_cons]
    rfl

/-! ### Identities of their own -/

/-- The identities under which fragments are listed are not shared by two documents. -/
def Separated (docs : List Document) : Prop :=
  docs.Pairwise fun doc doc' =>
    ∀ id, doc.id = some id → doc'.id = some id → fragments.get? id = none

/-- A document goes without its fragments exactly if an earlier one has its identity. -/
theorem fragmentsLeft_eq_iff (before : List (Dict Json)) (attributes : Dict Json) :
    fragmentsLeft fragments before attributes = (identityOf attributes).bind fragments.get? ↔
      ∀ other ∈ before, ∀ id, identityOf other = some id → identityOf attributes = some id →
        fragments.get? id = none := by
  unfold fragmentsLeft
  split
  · rename_i hmem
    obtain ⟨other, hother, hsame⟩ := List.mem_map.mp hmem
    constructor
    · intro h _ _ id _ hid
      rw [hid] at h
      exact h.symm
    · intro h
      cases hid : identityOf attributes with
      | none => rfl
      | some id => exact (h other hother id (hsame.trans hid) hid).symm
  · rename_i hmem
    refine iff_of_true rfl ?_
    intro other hother id hid hid'
    exact absurd (List.mem_map.mpr ⟨other, hother, hid.trans hid'.symm⟩) hmem

theorem highlights_listed_iff (docs : List (Dict Json)) :
    (∀ doc ∈ documents fragments docs, doc.highlights = doc.id.bind fragments.get?) ↔
      Separated fragments (documents fragments docs) := by
  rw [Separated, documents_eq_mapIdx, List.pairwise_iff_getElem, List.forall_mem_iff_getElem]
  simp only [List.length_mapIdx, List.getElem_mapIdx]
  constructor
  · intro h i j hi hj hij
    exact (fragmentsLeft_eq_iff ..).mp (h j hj) docs[i]
      (List.mem_take_iff_getElem.mpr ⟨i, by omega, rfl⟩)
  · intro h j hj
    refine (fragmentsLeft_eq_iff ..).mpr ?_
    intro other hother
    obtain ⟨i, hi, rfl⟩ := List.mem_take_iff_getElem.mp hother
    exact h i j (by omega) hj (by omega)

/-! ### Answers -/

theorem Envelope.results_eq_ok_iff {e : Envelope} {r : Results} :
    e.results = .ok r ↔
      ∃ found facets, e.documents = some found ∧ allFacetCounts (e.facets.getD []) = .ok facets ∧
        r = ⟨found.found, found.start, Flat.documents e.highlighting found.docs, facets⟩ := by
  unfold Envelope.results
  cases e.documents with
  | none => simp
  | some found =>
    cases allFacetCounts (e.facets.getD []) with
    | error fault => simp [bind, Except.bind]
    | ok facets => simp [bind, Except.bind, pure, Except.pure, eq_comm]

/-- An answer comes about from a body that can be read, reports no error, and has documents and
    proper counts. -/
theorem readResults_eq_ok_iff {body request : String} {r : Results} :
    readResults body request = .ok r ↔
      ∃ e, Envelope.decoder.ofText? body = some e ∧ e.error = none ∧ e.results = .ok r := by
  unfold readResults
  cases Envelope.decoder.ofText? body with
  | none => simp
  | some e =>
    cases herror : e.error with
    | some error => simp [herror]
    | none => cases hresults : e.results <;> simp [herror, hresults, Except.mapError]

/-- **Highlights of a flat answer.**  The documents are those of the body, in their order, and
    each has the fragments that are listed under its identity, unless an earlier document has this
    identity: then it has none.  All documents have what is listed for them exactly if
    no two of them share an identity under which fragments are listed. -/
theorem highlights_reach_documents_iff {body request : String} {r : Results}
    (h : readResults body request = .ok r) :
    ∃ e found, Envelope.decoder.ofText? body = some e ∧ e.documents = some found ∧
      (r.docs = found.docs.mapIdx fun i attributes =>
        { Document.ofAttributes attributes with
          highlights := fragmentsLeft e.highlighting (found.docs.take i) attributes }) ∧
      ((∀ doc ∈ r.docs, doc.highlights = doc.id.bind e.highlighting.get?) ↔
        Separated e.highlighting r.docs) := by
  obtain ⟨e, he, -, hresults⟩ := readResults_eq_ok_iff.mp h
  obtain ⟨found, facets, hfound, -, rfl⟩ := Envelope.results_eq_ok_iff.mp hresults
  exact ⟨e, found, he, hfound, documents_eq_mapIdx _ _, highlights_listed_iff _ _⟩

/-- An answer with a document for each kind of identity, and one that has none. -/
def highlightedAnswer : String :=
  "\x7b\"response\":\x7b\"numFound\":3," ++
    "\"docs\":[\x7b\"id\":\"a\"\x7d,\x7b\x7d,\x7b\"id\":7\x7d]\x7d," ++
    "\"highlighting\":\x7b\"7\":\x7b\"name\":[\"<em>x</em>\"]\x7d,\"a\":\x7b\x7d\x7d\x7d"

theorem highlights_reach_documents_iff_highlightedAnswer :
    ∃ r e, readResults highlightedAnswer "q=*:*" = .ok r ∧
      Envelope.decoder.ofText? highlightedAnswer = some e ∧
      r.docs.map Document.id = [some "a", none, some "7"] ∧
      ∀ doc ∈ r.docs, doc.highlights = doc.id.bind e.highlighting.get? := by
  have hids : (readResults highlightedAnswer "q=*:*").toOption.map (·.docs.map Document.id)
      = some [some "a", none, some "7"] := by
    decide +kernel
  cases h : readResults highlightedAnswer "q=*:*" with
  | error failure =>
    rw [h] at hids
    cases hids
  | ok r =>
    rw [h] at hids
    have hids : r.docs.map Document.id = [some "a", none, some "7"] := Option.some.inj hids
    obtain ⟨e, -, he, -, -, hlisted⟩ := highlights_reach_documents_iff h
    refine ⟨r, e, rfl, he, hids, hlisted.mpr ?_⟩
    have hseparated : (r.docs.map Document.id).Pairwise fun id id' => ∀ name, id = some name →
        id' = some name → e.highlighting.get? name = none := by
      rw [hids]
      simp
    exact List.pairwise_map.mp hseparated

/-- An answer with the same document twice, as joined indexes give it. -/
def repeatedAnswer : String :=
  "\x7b\"response\":\x7b\"numFound\":2,\"docs\":[\x7b\"id\":\"a\"\x7d,\x7b\"id\":\"a\"\x7d]\x7d," ++
    "\"highlighting\":\x7b\"a\":\x7b\"name\":[\"x\"]\x7d\x7d\x7d"

/-- The second of the two documents goes without the fragments. -/
theorem repeated_document_unhighlighted :
    (Envelope.decoder.ofText? repeatedAnswer).bind (·.highlighting.get? "a")
        = some [("name", ["x"])] ∧
      (readResults repeatedAnswer "q=*:*").toOption.map
          (·.docs.map fun doc => (doc.id, doc.highlights))
        = some [(some "a", some [("name", ["x"])]), (some "a", none)] := by
  decide +kernel

end Retrieval.Flat

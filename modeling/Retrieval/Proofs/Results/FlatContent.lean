/-
  Retrieval/Proofs/Results/FlatContent.lean
  =========================================
  **What a flat answer takes from its body.**

  A body that has the expected shape and reports no error can still be refused, for two reasons
  only: it has no section of documents, or one of its facet fields has no proper list.  A
  proper list has values and counts in turn (`IsListing`), and the reader of the lists accepts
  these and no others (`facetCounts_eq_ok_iff`).

  Whatever is accepted arrives whole (`Conveys`): the number of all matches, the start, every
  document in its place with its attributes, and for each facet field the last count of each
  value.
-/
import Retrieval.Proofs.Json.Content
import Retrieval.Proofs.Outcome
import Retrieval.Proofs.Results.Highlights
import Retrieval.Proofs.Results.ReportedErrors

namespace Retrieval.Flat

open Json

/-! ### The sections of a body -/

def bodyNames : List String := ["response", "highlighting", "facet_counts", "error"]

def documentsNames : List String := ["numFound", "start", "docs"]

/-- The list of values and counts of each facet field. -/
def facetLists (body : Json) : Dict Json :=
  ((body.part bodyNames "facet_counts").part ["facet_fields"] "facet_fields").members

/-- The section of documents is what a value says. -/
structure DocumentSection.SaidBy (found : DocumentSection) (j : Json) : Prop where
  total : j.part documentsNames "numFound" = natural found.found
  start : (j.part documentsNames "start").natural?.getD 0 = found.start
  docs : (j.part documentsNames "docs").items = found.docs.map .object

/-- The sections are what the value of a body says. -/
structure Envelope.SaidBy (e : Envelope) (body : Json) : Prop where
  documents : (e.documents = none ∧ body.part bodyNames "response" = .null) ∨
    ∃ found, e.documents = some found ∧ found.SaidBy (body.part bodyNames "response")
  facets : facetLists body = (e.facets.getD []).mapValues .array
  error : (e.error = none ∧ body.part bodyNames "error" = .null) ∨
    ∃ error, e.error = some error ∧ body.part bodyNames "error" ≠ .null

theorem yields_documents : DocumentSection.decoder.Yields fun j found => found.SaidBy j := by
  have hstart : Decode.natural64.Yields fun j n => j.natural?.getD 0 = n :=
    Decoder.Yields.natural64.mono fun j n h => by rw [h]; rfl
  have hdocs : (Decode.list Decode.members).Yields fun j docs => j.items = docs.map .object :=
    Decoder.Yields.members.array.mono fun j docs h => by rw [h]; rfl
  intro levels s found h
  obtain ⟨r, hr, h⟩ := bind_eq_some_iff.mp h
  obtain ⟨total, htotal, h⟩ := bind_eq_some_iff.mp h
  obtain ⟨start, hs, h⟩ := bind_eq_some_iff.mp h
  obtain ⟨docs, hd, h⟩ := bind_eq_some_iff.mp h
  obtain rfl := Option.some.inj h
  constructor
  · exact Decoder.Yields.natural64.required hr (by decide) htotal
  · exact hstart.orDefault hr (by decide) rfl hs
  · exact hdocs.orDefault hr (by decide) rfl hd

theorem yields_facets : facetSection.Yields fun j lists =>
    (j.part ["facet_fields"] "facet_fields").members = lists.mapValues .array := by
  have hlists : (Decode.dict (Decode.list Decode.json)).Yields fun j lists =>
      j.members = lists.mapValues .array := by
    refine (Decoder.Yields.object (f := .array) ?_).mono fun j lists h => by rw [h]; rfl
    exact (Decoder.Yields.array (f := id) Decoder.Yields.json).mono fun j items h => by
      rw [h, List.map_id]
  intro levels s lists h
  obtain ⟨r, hr, h⟩ := bind_eq_some_iff.mp h
  exact hlists.orDefault hr (by decide) rfl h

theorem yields_error : ReportedError.decoder.Yields fun j _ => j ≠ .null := by
  intro levels s error h
  obtain ⟨r, hr, -⟩ := bind_eq_some_iff.mp h
  exact Record.value_ne_null hr

theorem yields_body : Envelope.decoder.Yields fun j e => e.SaidBy j := by
  have hfacets : (Decode.option facetSection).Yields fun j facets =>
      (j.part ["facet_fields"] "facet_fields").members = (facets.getD []).mapValues .array := by
    refine yields_facets.option.mono ?_
    rintro j facets (⟨rfl, rfl⟩ | ⟨lists, rfl, hlists⟩)
    · rfl
    · exact hlists
  intro levels s e h
  obtain ⟨r, hr, h⟩ := bind_eq_some_iff.mp h
  obtain ⟨documents, hd, h⟩ := bind_eq_some_iff.mp h
  obtain ⟨fragments, -, h⟩ := bind_eq_some_iff.mp h
  obtain ⟨facets, hf, h⟩ := bind_eq_some_iff.mp h
  obtain ⟨error, he, h⟩ := bind_eq_some_iff.mp h
  obtain rfl := Option.some.inj h
  constructor
  · exact yields_documents.option.optional hr (by decide) hd
  · exact hfacets.optional hr (by decide) hf
  · exact yields_error.option.optional hr (by decide) he

/-! ### Identities and scores -/

/-- The value identifies something by the given text: it is this text, or a number that is
    written like this. -/
inductive IsIdentity : Json → String → Prop
  | text (s : String) : IsIdentity (.string s) s
  | natural (n : UInt64) : IsIdentity (.number (.natural n)) (Decimal.naturalText n.toNat)
  | negative (n : Int64) : IsIdentity (.number (.negative n)) (Decimal.integerText n.toInt)
  | real (x : Scalar) : IsIdentity (.number (.real x)) x.jsonText

/-- The value is a number, and the scalar is the nearest one to it. -/
inductive IsScore : Json → Scalar → Prop
  | natural (n : UInt64) : IsScore (.number (.natural n)) (.ofUInt64 n)
  | negative (n : Int64) : IsScore (.number (.negative n)) (.ofInt64 n)
  | real (x : Scalar) : IsScore (.number (.real x)) x

theorem identity?_eq_some_iff {value : Json} {text : String} :
    value.identity? = some text ↔ IsIdentity value text := by
  constructor
  · intro h
    cases value with
    | string s =>
      cases h
      exact .text _
    | number n =>
      cases h
      cases n with
      | natural n => exact .natural n
      | negative n => exact .negative n
      | real x => exact .real x
    | _ => cases h
  · intro h
    cases h <;> rfl

theorem scalar?_eq_some_iff {value : Json} {x : Scalar} :
    value.scalar? = some x ↔ IsScore value x := by
  constructor
  · intro h
    cases value with
    | number n =>
      cases h
      cases n with
      | natural n => exact .natural n
      | negative n => exact .negative n
      | real x => exact .real x
    | _ => cases h
  · intro h
    cases h <;> rfl

/-! ### Lists of values and counts -/

/-- The items are values that have a text, each followed by its count. -/
inductive IsListing : List Json → List (String × UInt64) → Prop
  | nil : IsListing [] []
  | cons {value : Json} {text : String} (count : UInt64) {items : List Json}
      {counts : List (String × UInt64)} :
    IsIdentity value text → IsListing items counts →
      IsListing (value :: natural count :: items) ((text, count) :: counts)

theorem natural?_eq_some_iff {j : Json} {n : UInt64} : j.natural? = some n ↔ j = natural n := by
  constructor
  · intro h
    cases j with
    | number m =>
      cases m with
      | natural m =>
        obtain rfl := Option.some.inj h
        rfl
      | _ => cases h
    | _ => cases h
  · rintro rfl
    rfl

theorem facetCounts_eq_ok_iff {items : List Json} {counts : List (String × UInt64)} :
    facetCounts items = .ok counts ↔ IsListing items counts := by
  constructor
  · intro h
    fun_induction facetCounts items generalizing counts with
    | case1 =>
      cases h
      exact .nil
    | case2 => cases h
    | case3 => cases h
    | case4 => cases h
    | case5 value count rest text n hcount hvalue ih =>
      obtain rfl := natural?_eq_some_iff.mp hcount
      cases hrest : facetCounts rest with
      | error fault =>
        rw [hrest] at h
        cases h
      | ok counts =>
        rw [hrest] at h
        obtain rfl := Except.ok.inj h
        exact .cons n (identity?_eq_some_iff.mp hvalue) (ih hrest)
  · intro h
    induction h with
    | nil => rfl
    | cons count hvalue _ ih =>
      rw [facetCounts, identity?_eq_some_iff.mpr hvalue, ih]
      rfl

/-- The last counts of the values that the items list. -/
def IsCounted (items : List Json) (counts : Dict UInt64) : Prop :=
  ∃ entries, IsListing items entries ∧ ∀ text, counts.get? text = Dict.lastOf text entries

theorem allFacetCounts_eq_ok_iff {lists : Dict (List Json)} {facets : Facets} :
    allFacetCounts lists = .ok facets ↔ Dict.Related
      (fun items counts => ∃ entries, IsListing items entries ∧ counts = Dict.ofEntries entries)
      lists facets := by
  induction lists generalizing facets with
  | nil => rw [Dict.Related, List.forall₂_nil_left_iff, allFacetCounts, Except.ok.injEq, eq_comm]
  | cons list rest ih =>
    obtain ⟨field, items⟩ := list
    rw [allFacetCounts, Dict.Related, List.forall₂_cons_left_iff]
    simp only [bind_eq_ok_iff, pure_eq_ok_iff, facetCounts_eq_ok_iff, ih]
    constructor
    · rintro ⟨entries, hentries, others, hothers, rfl⟩
      exact ⟨_, others, ⟨rfl, entries, hentries, rfl⟩, hothers, rfl⟩
    · rintro ⟨⟨_, _⟩, others, ⟨rfl, entries, hentries, rfl⟩, hothers, rfl⟩
      exact ⟨entries, hentries, others, hothers, rfl⟩

theorem exists_allFacetCounts_iff {lists : Dict (List Json)} :
    (∃ facets, allFacetCounts lists = .ok facets) ↔
      ∀ list ∈ lists, ∃ entries, IsListing list.2 entries := by
  simp only [allFacetCounts_eq_ok_iff]
  rw [exists_forall₂_iff]
  refine forall₂_congr fun list _ => ?_
  constructor
  · rintro ⟨_, -, entries, hentries, -⟩
    exact ⟨entries, hentries⟩
  · rintro ⟨entries, hentries⟩
    exact ⟨(list.1, Dict.ofEntries entries), rfl, entries, hentries, rfl⟩

/-! ### Answers -/

/-- A returned document has the attributes of an object, and its score and identity are those
    of the attributes, where these have a suitable form. -/
structure Depicts (item : Json) (doc : Document) : Prop where
  attributes : item = .object doc.attributes
  score : ∀ x, doc.score = some x ↔
    ∃ value, doc.attributes.get? "score" = some value ∧ IsScore value x
  id : ∀ text, doc.id = some text ↔
    ∃ value, doc.attributes.get? "id" = some value ∧ IsIdentity value text

theorem Depicts.of_attributes {attributes : Dict Json} {doc : Document}
    (hattributes : doc.attributes = attributes)
    (hscore : doc.score = (attributes.get? "score").bind Json.scalar?)
    (hid : doc.id = (attributes.get? "id").bind Json.identity?) :
    Depicts (.object attributes) doc := by
  subst hattributes
  refine ⟨rfl, fun x => ?_, fun text => ?_⟩
  · rw [hscore, Option.bind_eq_some_iff]
    simp only [scalar?_eq_some_iff]
  · rw [hid, Option.bind_eq_some_iff]
    simp only [identity?_eq_some_iff]

theorem depicts_documents (fragments : Dict (Dict (List String))) (docs : List (Dict Json)) :
    List.Forall₂ Depicts (docs.map .object) (documents fragments docs) := by
  induction docs generalizing fragments with
  | nil => exact .nil
  | cons attributes rest ih =>
    rw [List.map_cons, documents_cons]
    exact .cons (.of_attributes rfl rfl rfl) (ih _)

/-- What the answer to a search has is what the body says. -/
structure Conveys (body : Json) (r : Results) : Prop where
  total : (body.part bodyNames "response").part documentsNames "numFound" = natural r.totalFound
  start : ((body.part bodyNames "response").part documentsNames "start").natural?.getD 0
    = r.startOffset
  docs : List.Forall₂ Depicts
    ((body.part bodyNames "response").part documentsNames "docs").items r.docs
  facets : Dict.Related (fun list => IsCounted list.items) (facetLists body) r.facets

theorem Envelope.SaidBy.documents_eq_none {e : Envelope} {body : Json} (he : e.SaidBy body)
    (hmissing : body.part bodyNames "response" = .null) : e.documents = none := by
  rcases he.documents with ⟨hnone, -⟩ | ⟨found, -, hfound⟩
  · exact hnone
  · have htotal := hfound.total
    rw [hmissing] at htotal
    cases htotal

theorem Envelope.SaidBy.error_eq_none {e : Envelope} {body : Json} (he : e.SaidBy body)
    (herror : body.part bodyNames "error" = .null) : e.error = none := by
  rcases he.error with ⟨hnone, -⟩ | ⟨_, -, hpart⟩
  · exact hnone
  · exact absurd herror hpart

theorem conveys_results {e : Envelope} {body : Json} (he : e.SaidBy body) {r : Results}
    (h : e.results = .ok r) : Conveys body r := by
  obtain ⟨found, facets, hfound, hfacets, rfl⟩ := Envelope.results_eq_ok_iff.mp h
  obtain ⟨found', hfound', hsaid⟩ : ∃ found, e.documents = some found ∧
      found.SaidBy (body.part bodyNames "response") := by
    rcases he.documents with ⟨hnone, -⟩ | hsome
    · rw [hfound] at hnone
      cases hnone
    · exact hsome
  obtain rfl : found = found' := Option.some.inj (hfound.symm.trans hfound')
  constructor
  · exact hsaid.total
  · exact hsaid.start
  · rw [hsaid.docs]
    exact depicts_documents e.highlighting found.docs
  · rw [he.facets, Dict.Related, Dict.mapValues, List.forall₂_map_left_iff]
    refine (allFacetCounts_eq_ok_iff.mp hfacets).imp ?_
    rintro ⟨field, items⟩ ⟨_, _⟩ ⟨rfl, entries, hentries, rfl⟩
    exact ⟨rfl, entries, hentries, Dict.get?_ofEntries entries⟩

theorem exists_results_iff {e : Envelope} {body : Json} (he : e.SaidBy body)
    (hdocuments : body.part bodyNames "response" ≠ .null) :
    (∃ r, e.results = .ok r) ↔
      ∀ list ∈ facetLists body, ∃ entries, IsListing list.2.items entries := by
  obtain ⟨found, hfound, -⟩ := he.documents.resolve_left fun h => hdocuments h.2
  rw [he.facets, Dict.mapValues, List.forall_mem_map]
  refine Iff.trans ?_ exists_allFacetCounts_iff
  simp only [Envelope.results_eq_ok_iff, hfound]
  constructor
  · rintro ⟨r, _, facets, -, hfacets, -⟩
    exact ⟨facets, hfacets⟩
  · rintro ⟨facets, hfacets⟩
    exact ⟨_, found, facets, rfl, hfacets, rfl⟩

theorem readResults_eq_mapError {body request : String} {e : Envelope}
    (he : Envelope.decoder.ofText? body = some e) (herror : e.error = none) :
    readResults body request = e.results.mapError fun fault => .response fault body request := by
  unfold readResults
  rw [he]
  simp only [herror]

/-- A refused body is reported as it came, with the request that it answers. -/
theorem readResults_response {body request body' request' : String} {fault : ResponseFault}
    (h : readResults body request = .error (.response fault body' request')) :
    body' = body ∧ request' = request := by
  cases he : Envelope.decoder.ofText? body with
  | none =>
    rw [readResults, he] at h
    cases h
    exact ⟨rfl, rfl⟩
  | some e =>
    cases herror : e.error with
    | some error => simp [readResults, he, herror] at h
    | none =>
      rw [readResults_eq_mapError he herror] at h
      obtain ⟨fault, -, h⟩ := mapError_eq_error_iff.mp h
      cases h
      exact ⟨rfl, rfl⟩

/-- **Flat answers.**  A refused body is reported as it came, with the request that it answers.  Of
    the bodies that have the expected shape and report no error, one without documents is refused
    for that reason, and any other is accepted exactly if all of its facet fields have proper
    lists.  An accepted body arrives whole. -/
theorem flat_body_conveyed (body request : String) :
    (∀ fault body' request', readResults body request = .error (.response fault body' request') →
      body' = body ∧ request' = request) ∧
    ∀ source, Source.ofText? body = some source → bodyShape Source.nestingLimit source →
      source.value.part bodyNames "error" = .null →
      (source.value.part bodyNames "response" = .null →
        ∃ fault, fault.message = "missing 'response' section" ∧
          readResults body request = .error (.response fault body request)) ∧
      (source.value.part bodyNames "response" ≠ .null →
        ((∃ r, readResults body request = .ok r) ↔
          ∀ list ∈ facetLists source.value, ∃ counts, IsListing list.2.items counts)) ∧
      (∀ r, readResults body request = .ok r → Conveys source.value r) ∧
      (∀ failure, readResults body request = .error failure →
        ∃ fault, failure = .response fault body request) := by
  refine ⟨fun fault body' request' h => readResults_response h, ?_⟩
  intro source hbody hshape herror
  obtain ⟨e, he⟩ := Option.isSome_iff_exists.mp ((reads_body _ _).mpr hshape)
  have hsaid : e.SaidBy source.value := yields_body _ _ _ he
  have hread : readResults body request
      = e.results.mapError fun fault => .response fault body request := by
    refine readResults_eq_mapError ?_ (hsaid.error_eq_none herror)
    rw [Decoder.ofText?, hbody]
    exact he
  simp only [hread, mapError_eq_ok_iff, mapError_eq_error_iff]
  refine ⟨?_, ?_, ?_, ?_⟩
  · intro hmissing
    refine ⟨.missingSection "response", rfl, .missingSection "response", ?_, rfl⟩
    rw [Envelope.results, hsaid.documents_eq_none hmissing]
  · intro hdocuments
    exact exists_results_iff hsaid hdocuments
  · intro r hr
    exact conveys_results hsaid hr
  · rintro failure ⟨fault, -, rfl⟩
    exact ⟨fault, rfl⟩

/-- An answer with a numeric identity and a score, a document without either, and a value that
    is listed as a number and as a text. -/
def facetedAnswer : String :=
  "\x7b\"response\":\x7b\"numFound\":3,\"start\":1,\"docs\":" ++
    "[\x7b\"id\":7,\"score\":1.5\x7d,\x7b\"name\":\"x\"\x7d]\x7d,\"error\":null," ++
    "\"facet_counts\":\x7b\"facet_fields\":\x7b\"city\":[\"a\",1,7,2,\"7\",3]\x7d\x7d\x7d"

theorem flat_body_conveyed_facetedAnswer :
    ∃ source r, Source.ofText? facetedAnswer = some source ∧
      bodyShape Source.nestingLimit source ∧ source.value.part bodyNames "error" = .null ∧
      readResults facetedAnswer "q=*:*" = .ok r ∧ Conveys source.value r ∧
      r.docs.map (fun doc => (doc.id, doc.score)) =
        [(some "7", some ⟨0x3FF8000000000000⟩), (none, none)] ∧
      r.facets.map (fun counts => counts.2.get? "7") = [some 3] := by
  obtain ⟨source, hsource, hread, herror⟩ : ∃ source ∈ Source.ofText? facetedAnswer,
      (Envelope.decoder Source.nestingLimit source).isSome = true ∧
        source.value.part bodyNames "error" = .null := by
    decide +kernel
  have hshape := (reads_body _ _).mp hread
  obtain ⟨-, hbody⟩ := flat_body_conveyed facetedAnswer "q=*:*"
  obtain ⟨-, -, hconveyed, -⟩ := hbody source hsource hshape herror
  have hanswer : (readResults facetedAnswer "q=*:*").toOption.map (fun r =>
      (r.docs.map (fun doc => (doc.id, doc.score)), r.facets.map fun counts => counts.2.get? "7"))
        = some ([(some "7", some ⟨0x3FF8000000000000⟩), (none, none)], [some 3]) := by
    decide +kernel
  cases h : readResults facetedAnswer "q=*:*" with
  | error failure =>
    rw [h] at hanswer
    cases hanswer
  | ok r =>
    rw [h] at hanswer
    obtain ⟨hdocs, hcounts⟩ := Prod.mk.inj (Option.some.inj hanswer)
    exact ⟨source, r, hsource, hshape, herror, rfl, hconveyed r h, hdocs, hcounts⟩

end Retrieval.Flat

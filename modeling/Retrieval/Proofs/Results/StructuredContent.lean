/-
  Retrieval/Proofs/Results/StructuredContent.lean
  ===============================================
  **What a structured answer takes from its body.**

  A body that has the expected shape and reports no error is an answer as soon as it has a
  section of matches; nothing else in it can be wrong.  Each match becomes one document, in its
  place.  What the match says of itself comes before what its attributes say, but only for the
  identity: a match without a score leaves its document without one, whatever the attributes
  hold (`Depicts`).

  The body is a JSON value, and what it says is the value of its source.  This is the body
  itself, as all objects list their members in ascending order (`Json.value_ofJson`).
-/
import Retrieval.Proofs.Json.Content
import Retrieval.Proofs.Results.ReportedErrors

namespace Retrieval

open Json

theorem Document.yields_fragments :
    Document.fragmentsDecoder.Yields fun j fragments => j = Document.fragmentsJson fragments :=
  Decoder.Yields.object (Decoder.Yields.array Decoder.Yields.text)

namespace Structured

/-! ### The sections of a body -/

def bodyNames : List String := ["hits", "aggregations", "error", "status"]

def hitsNames : List String := ["total", "hits"]

def hitNames : List String := ["_id", "_score", "_source", "highlight"]

def bucketNames : List String := ["key", "doc_count"]

/-- The matches of a section. -/
def matchesOf (hits : Json) : List Json := (hits.part hitsNames "hits").items

/-- The buckets of a facet field. -/
def bucketsOf (aggregation : Json) : List Json := (aggregation.part ["buckets"] "buckets").items

/-- A total is a number, or an object with a number. -/
def SaysTotal (j : Json) (total : UInt64) : Prop :=
  j = natural total ∨ j.part ["value"] "value" = natural total

structure Hit.SaidBy (hit : Hit) (j : Json) : Prop where
  id : hit.id.bind identity? = (j.part hitNames "_id").identity?
  score : hit.score = (j.part hitNames "_score").scalar?
  attributes : hit.attributes = (j.part hitNames "_source").members
  highlights : j.part hitNames "highlight" = ofOption Document.fragmentsJson hit.highlights

structure HitSection.SaidBy (found : HitSection) (j : Json) : Prop where
  total : (found.total = none ∧ j.part hitsNames "total" = .null) ∨
    ∃ total, found.total = some total ∧ SaysTotal (j.part hitsNames "total") total
  hits : List.Forall₂ (fun j (hit : Hit) => hit.SaidBy j) (matchesOf j) found.hits

structure Bucket.SaidBy (bucket : Bucket) (j : Json) : Prop where
  key : j.part bucketNames "key" = bucket.key
  count : j.part bucketNames "doc_count" = natural bucket.count

/-- The facet field has these buckets. -/
abbrev HasBuckets (aggregation : Json) (buckets : List Bucket) : Prop :=
  List.Forall₂ (fun j (bucket : Bucket) => bucket.SaidBy j) (bucketsOf aggregation) buckets

structure Envelope.SaidBy (e : Envelope) (body : Json) : Prop where
  hits : (e.hits = none ∧ body.part bodyNames "hits" = .null) ∨
    ∃ found, e.hits = some found ∧ body.part bodyNames "hits" ≠ .null ∧
      found.SaidBy (body.part bodyNames "hits")
  facets : Dict.Related HasBuckets (body.part bodyNames "aggregations").members e.facets
  error : (e.error = none ∧ body.part bodyNames "error" = .null) ∨
    (e.error = some (body.part bodyNames "error") ∧ body.part bodyNames "error" ≠ .null)

theorem yields_hit : Hit.decoder.Yields fun j hit => hit.SaidBy j := by
  have hid : (Decode.option Decode.json).Yields fun j id => id.bind identity? = j.identity? := by
    refine Decoder.Yields.json.option.mono ?_
    rintro j id (⟨rfl, rfl⟩ | ⟨_, rfl, rfl⟩) <;> rfl
  have hscore : (Decode.option Decode.scalar).Yields fun j score => score = j.scalar? := by
    refine Decoder.Yields.scalar.option.mono ?_
    rintro j score (⟨rfl, rfl⟩ | ⟨x, rfl, hx⟩)
    · rfl
    · exact hx.symm
  have hattributes : Decode.members.Yields fun j attributes => attributes = j.members := by
    refine Decoder.Yields.members.mono ?_
    rintro j attributes rfl
    rfl
  have hhighlights : (Decode.option Document.fragmentsDecoder).Yields fun j highlights =>
      j = ofOption Document.fragmentsJson highlights := by
    refine Document.yields_fragments.option.mono ?_
    rintro j highlights (⟨rfl, rfl⟩ | ⟨fragments, rfl, rfl⟩) <;> rfl
  intro levels s hit h
  obtain ⟨r, hr, h⟩ := bind_eq_some_iff.mp h
  obtain ⟨id, hi, h⟩ := bind_eq_some_iff.mp h
  obtain ⟨score, hs, h⟩ := bind_eq_some_iff.mp h
  obtain ⟨attributes, ha, h⟩ := bind_eq_some_iff.mp h
  obtain ⟨highlights, hh, h⟩ := bind_eq_some_iff.mp h
  obtain rfl := Option.some.inj h
  constructor
  · exact hid.optional hr (by decide) hi
  · exact hscore.optional hr (by decide) hs
  · exact hattributes.orDefault hr (by decide) rfl ha
  · exact hhighlights.optional hr (by decide) hh

theorem yields_total : totalDecoder.Yields SaysTotal := by
  intro levels s total h
  unfold totalDecoder at h
  split at h
  · obtain ⟨r, hr, h⟩ := bind_eq_some_iff.mp h
    exact .inr (Decoder.Yields.natural64.required hr (by decide) h)
  · exact .inl (Decoder.Yields.natural64 _ _ _ h)

theorem yields_hits : HitSection.decoder.Yields fun j found => j ≠ .null ∧ found.SaidBy j := by
  have hhits : (Decode.list Hit.decoder).Yields fun j hits =>
      List.Forall₂ (fun j (hit : Hit) => hit.SaidBy j) j.items hits := by
    refine yields_hit.list.mono ?_
    rintro j hits ⟨items, rfl, hitems⟩
    exact hitems
  intro levels s found h
  obtain ⟨r, hr, h⟩ := bind_eq_some_iff.mp h
  obtain ⟨total, ht, h⟩ := bind_eq_some_iff.mp h
  obtain ⟨hits, hh, h⟩ := bind_eq_some_iff.mp h
  obtain rfl := Option.some.inj h
  refine ⟨Record.value_ne_null hr, ?_, ?_⟩
  · exact yields_total.option.optional hr (by decide) ht
  · exact hhits.orDefault hr (by decide) .nil hh

theorem yields_bucket : Bucket.decoder.Yields fun j bucket => bucket.SaidBy j := by
  intro levels s bucket h
  obtain ⟨r, hr, h⟩ := bind_eq_some_iff.mp h
  obtain ⟨key, hk, h⟩ := bind_eq_some_iff.mp h
  obtain ⟨count, hc, h⟩ := bind_eq_some_iff.mp h
  obtain rfl := Option.some.inj h
  constructor
  · exact Decoder.Yields.json.required hr (by decide) hk
  · exact Decoder.Yields.natural64.required hr (by decide) hc

theorem yields_buckets : bucketsDecoder.Yields HasBuckets := by
  have hbuckets : (Decode.list Bucket.decoder).Yields fun j buckets =>
      List.Forall₂ (fun j (bucket : Bucket) => bucket.SaidBy j) j.items buckets := by
    refine yields_bucket.list.mono ?_
    rintro j buckets ⟨items, rfl, hitems⟩
    exact hitems
  intro levels s buckets h
  obtain ⟨r, hr, h⟩ := bind_eq_some_iff.mp h
  exact hbuckets.orDefault hr (by decide) .nil h

theorem yields_body : Envelope.decoder.Yields fun j e => e.SaidBy j := by
  have hfacets : (Decode.dict bucketsDecoder).Yields fun j facets =>
      Dict.Related HasBuckets j.members facets := by
    refine yields_buckets.dict.mono ?_
    rintro j facets ⟨members, rfl, hmembers⟩
    exact hmembers
  intro levels s e h
  obtain ⟨r, hr, h⟩ := bind_eq_some_iff.mp h
  obtain ⟨hits, hh, h⟩ := bind_eq_some_iff.mp h
  obtain ⟨facets, hf, h⟩ := bind_eq_some_iff.mp h
  obtain ⟨error, he, h⟩ := bind_eq_some_iff.mp h
  obtain ⟨status, -, h⟩ := bind_eq_some_iff.mp h
  obtain rfl := Option.some.inj h
  constructor
  · exact yields_hits.option.optional hr (by decide) hh
  · exact hfacets.orDefault hr (by decide) .nil hf
  · exact Decoder.Yields.optionalJson.optional hr (by decide) he

/-! ### Answers -/

/-- A document is what its match says.  The score is that of the match and no other.  The
    identity is that of the match, or else that of the attributes. -/
structure Depicts (hit : Json) (doc : Document) : Prop where
  attributes : doc.attributes = (hit.part hitNames "_source").members
  score : doc.score = (hit.part hitNames "_score").scalar?
  id : doc.id = (hit.part hitNames "_id").identity?.or
    ((doc.attributes.get? "id").bind Json.identity?)
  highlights : hit.part hitNames "highlight" = ofOption Document.fragmentsJson doc.highlights

theorem Hit.document_eq (hit : Hit) :
    hit.document = ⟨hit.attributes, hit.highlights, hit.score,
      (hit.id.bind identity?).or ((hit.attributes.get? "id").bind Json.identity?)⟩ := by
  unfold Hit.document
  cases hit.id.bind identity? <;> cases hit.highlights <;> rfl

theorem depicts_document {hit : Hit} {j : Json} (h : hit.SaidBy j) : Depicts j hit.document := by
  rw [Hit.document_eq, h.id]
  exact ⟨h.attributes, h.score, rfl, h.highlights⟩

/-- The text and the count of a bucket, if its key has a text. -/
def countOf? (bucket : Json) : Option (String × UInt64) := do
  let text ← (bucket.part bucketNames "key").identity?
  let count ← (bucket.part bucketNames "doc_count").natural?
  pure (text, count)

/-- The last counts of the keys that have a text. -/
def IsCounted (buckets : List Json) (counts : Dict UInt64) : Prop :=
  ∀ text, counts.get? text = Dict.lastOf text (buckets.filterMap countOf?)

/-- What the answer to a search has is what the body says. -/
structure Conveys (body : Json) (start : UInt64) (r : Results) : Prop where
  start : r.startOffset = start
  total : ((body.part bodyNames "hits").part hitsNames "total" = .null ∧
      r.totalFound = (matchesOf (body.part bodyNames "hits")).length.toUInt64) ∨
    SaysTotal ((body.part bodyNames "hits").part hitsNames "total") r.totalFound
  docs : List.Forall₂ Depicts (matchesOf (body.part bodyNames "hits")) r.docs
  facets : Dict.Related (fun aggregation => IsCounted (bucketsOf aggregation))
    (body.part bodyNames "aggregations").members r.facets

theorem countOf?_eq_entry? {bucket : Bucket} {j : Json} (h : bucket.SaidBy j) :
    countOf? j = bucket.entry? := by
  unfold countOf? Bucket.entry?
  rw [h.key, h.count]
  cases bucket.key.identity? <;> rfl

theorem isCounted_bucketCounts {js : List Json} {buckets : List Bucket}
    (h : List.Forall₂ (fun j (bucket : Bucket) => bucket.SaidBy j) js buckets) :
    IsCounted js (bucketCounts buckets) := by
  have hcounts : js.filterMap countOf? = buckets.filterMap Bucket.entry? := by
    induction h with
    | nil => rfl
    | cons hbucket _ ih =>
      rw [List.filterMap_cons, List.filterMap_cons, countOf?_eq_entry? hbucket, ih]
  intro text
  rw [bucketCounts, Dict.get?_ofEntries, hcounts]

theorem conveys_results {e : Envelope} {body : Json} (he : e.SaidBy body) {found : HitSection}
    (hfound : found.SaidBy (body.part bodyNames "hits")) (start : UInt64) :
    Conveys body start (found.results start e.facets) := by
  constructor
  · rfl
  · rcases hfound.total with ⟨hnone, hpart⟩ | ⟨total, hsome, htotal⟩
    · refine .inl ⟨hpart, ?_⟩
      rw [hfound.hits.length_eq, HitSection.results, hnone]
      rfl
    · right
      rw [HitSection.results, hsome]
      exact htotal
  · rw [HitSection.results, List.forall₂_map_right_iff]
    exact hfound.hits.imp fun _ _ => depicts_document
  · rw [HitSection.results, Dict.Related, Dict.mapValues, List.forall₂_map_right_iff]
    exact he.facets.imp fun _ _ h => ⟨h.1, isCounted_bucketCounts h.2⟩

/-- **Structured answers.**  Of the bodies that have the expected shape and report no error, one
    without a section of matches is refused for that reason, and any other is an answer that has
    all that the body says.  A body in order says what it is. -/
theorem structured_body_conveyed {body : Json} (start : UInt64) (request : String)
    (hshape : bodyShape (Source.levelsOf body) (Source.ofJson body))
    (herror : (Source.ofJson body).value.part bodyNames "error" = .null) :
    ((Source.ofJson body).value.part bodyNames "hits" = .null →
      ∃ fault, fault.message = "missing 'hits' section" ∧
        readResults body start request = .error (.response fault body.print request)) ∧
    ((Source.ofJson body).value.part bodyNames "hits" ≠ .null →
      ∃ r, readResults body start request = .ok r ∧
        Conveys (Source.ofJson body).value start r) ∧
    (body.Ordered → (Source.ofJson body).value = body) := by
  obtain ⟨e, he⟩ := Option.isSome_iff_exists.mp ((reads_body _ _).mpr hshape)
  have hsaid : e.SaidBy (Source.ofJson body).value := yields_body _ _ _ he
  have hunreported : e.error = none := by
    rcases hsaid.error with ⟨hnone, -⟩ | ⟨-, hpart⟩
    · exact hnone
    · exact absurd herror hpart
  unfold readResults Decoder.ofJson?
  simp only [he, hunreported]
  rcases hsaid.hits with ⟨hnone, hmissing⟩ | ⟨found, hsome, hpresent, hfound⟩
  · simp only [hnone]
    refine ⟨?_, fun hpart => absurd hmissing hpart, value_ofJson⟩
    intro _
    exact ⟨.missingSection "hits", rfl, rfl⟩
  · simp only [hsome]
    refine ⟨fun hpart => absurd hpart hpresent, ?_, value_ofJson⟩
    intro _
    exact ⟨_, rfl, conveys_results hsaid hfound start⟩

/-- A body with two matches, one of which has no score but an attribute of that name.  A value of
    the facet field is there as a text and as a number. -/
def matchedBody : Json :=
  record [
    ("hits", record [("total", record [("value", natural 57)]), ("hits", .array [
      record [("_id", natural 7), ("_score", .null),
        ("_source", record [("id", .string "a"), ("score", natural 3)])],
      record [("_id", .bool true), ("_source", record [("id", .string "b")])]])]),
    ("aggregations", record [("city", record [("buckets", .array [
      record [("key", .string "7"), ("doc_count", natural 1)],
      record [("key", natural 7), ("doc_count", natural 2)]])])])]

theorem structured_body_conveyed_matchedBody :
    bodyShape (Source.levelsOf matchedBody) (Source.ofJson matchedBody) ∧
    matchedBody.part bodyNames "error" = .null ∧ matchedBody.part bodyNames "hits" ≠ .null ∧
    ∃ r, readResults matchedBody 20 "q" = .ok r ∧ Conveys matchedBody 20 r ∧
      r.docs.map (fun doc => (doc.id, doc.score)) = [(some "7", none), (some "b", none)] ∧
      r.facets.map (fun counts => counts.2.get? "7") = [some 2] := by
  have hshape : bodyShape (Source.levelsOf matchedBody) (Source.ofJson matchedBody) :=
    (reads_body _ _).mp (by decide +kernel)
  have hvalue : (Source.ofJson matchedBody).value = matchedBody := by decide +kernel
  have herror : matchedBody.part bodyNames "error" = .null := by decide +kernel
  have hhits : matchedBody.part bodyNames "hits" ≠ .null := by decide +kernel
  obtain ⟨-, hread, -⟩ := structured_body_conveyed 20 "q" hshape (hvalue ▸ herror)
  obtain ⟨r, hr, hconveyed⟩ := hread (hvalue ▸ hhits)
  have hanswer : (readResults matchedBody 20 "q").toOption.map (fun r =>
      (r.docs.map (fun doc => (doc.id, doc.score)), r.facets.map fun counts => counts.2.get? "7"))
        = some ([(some "7", none), (some "b", none)], [some 2]) := by
    decide +kernel
  rw [hr] at hanswer
  obtain ⟨hdocs, hfacets⟩ := Prod.mk.inj (Option.some.inj hanswer)
  exact ⟨hshape, herror, hhits, r, hr, hvalue ▸ hconveyed, hdocs, hfacets⟩

end Structured

end Retrieval

/-
  Retrieval/Proofs/Results/ReportedErrors.lean
  ============================================
  **Errors that a backend reports.**

  A body can report an error, and the error is looked at before everything else in the
  answer.  But it is looked at only once the whole body has been read, and the whole body
  is refused as soon as one section of it does not have the shape that is expected there:
  the section of the error itself, or one that has nothing to do with it.

  The two tables `Flat.bodyShape` and `Structured.bodyShape` give the expected shapes.  A
  reported error becomes a failure of the transport where the body has the shape of its
  table, and an unreadable body otherwise.  In no case does it become an answer.
-/
import Retrieval.Proofs.Json.Shape
import Retrieval.Results.Flat
import Retrieval.Results.Structured

namespace Retrieval

open Json

/-- An object that says something other than `null` under the name of the error. -/
def Json.Source.ReportsError (source : Source) : Prop :=
  ∃ members error, source = .object members ∧ (some "error", error) ∈ members ∧ error ≠ .null

theorem Json.Source.reportsError_object_iff (members : List (Option String × Source)) :
    (Source.object members).ReportsError ↔
      ∃ entry ∈ members, entry.1 = some "error" ∧ entry.2 ≠ .null := by
  constructor
  · rintro ⟨_, error, ⟨⟩, hmem, hnull⟩
    exact ⟨_, hmem, rfl, hnull⟩
  · rintro ⟨⟨_, error⟩, hmem, rfl, hnull⟩
    exact ⟨members, error, rfl, hmem, hnull⟩

instance (source : Source) : Decidable (source = .null) :=
  match source with
  | .null => isTrue rfl
  | .bool _ | .number _ | .string _ | .array _ | .object _ => isFalse nofun

instance (source : Source) : Decidable source.ReportsError :=
  match source with
  | .object members => decidable_of_iff _ (Source.reportsError_object_iff members).symm
  | .null | .bool _ | .number _ | .string _ | .array _ => isFalse fun ⟨_, _, h, _⟩ => nomatch h

/-- The error counts as the failure of the request that it answers. -/
def FailsTransport (request : String) (outcome : Except Failure Results) : Prop :=
  ∃ status reason, outcome = .error (.transport status reason request)

/-- A reported error is not passed over where the body has been read. -/
theorem Json.Source.ReportsError.optional_ne_none {α : Type} {source : Source}
    (hsource : source.ReportsError) {names : List String} {levels : Nat} {r : Record}
    (hr : Record.ofSource? names levels source = some r) (hname : "error" ∈ names)
    (d : Decoder α) : r.optional "error" d ≠ some none := by
  obtain ⟨members, error, rfl, hmem, hnull⟩ := hsource
  unfold Record.optional
  rw [part?_of_mem hr hname hmem]
  cases error with
  | null => exact absurd rfl hnull
  | _ => simp [Decode.option]

/-! ### Flat answers -/

namespace Flat

def documentsShape : Shape :=
  .record [⟨"numFound", .required, .natural UInt64.size⟩,
    ⟨"start", .defaulted, .natural UInt64.size⟩, ⟨"docs", .defaulted, .list (.dict .value)⟩]

def errorShape : Shape :=
  .record [⟨"msg", .optional, .text⟩, ⟨"code", .optional, .natural UInt16.size⟩]

def facetsShape : Shape := .record [⟨"facet_fields", .defaulted, .dict (.list .value)⟩]

/-- The shape of the body of a flat answer. -/
def bodyShape : Shape :=
  .record [⟨"response", .optional, documentsShape⟩,
    ⟨"highlighting", .defaulted, .dict (.dict (.list .text))⟩,
    ⟨"facet_counts", .optional, facetsShape⟩, ⟨"error", .optional, errorShape⟩]

theorem reads_documents : DocumentSection.decoder.Reads documentsShape := by
  refine .record rfl (by decide) fun r => ?_
  refine .cons (Decoder.Reads.natural64.required "numFound") fun found => ?_
  refine .cons (Decoder.Reads.natural64.orDefault "start" 0) fun start => ?_
  refine .cons (Decoder.Reads.json.dict.list.orDefault "docs" []) fun docs => ?_
  exact .nil _

theorem reads_error : ReportedError.decoder.Reads errorShape := by
  refine .record rfl (by decide) fun r => ?_
  refine .cons (Decoder.Reads.text.optional "msg") fun text => ?_
  refine .cons (Decoder.Reads.natural16.optional "code") fun code => ?_
  exact .nil _

theorem reads_facets : facetSection.Reads facetsShape :=
  .record rfl (by decide) fun _ => Decoder.Reads.json.list.dict.orDefault "facet_fields" []

theorem reads_body : Envelope.decoder.Reads bodyShape := by
  refine .record rfl (by decide) fun r => ?_
  refine .cons (reads_documents.optional "response") fun documents => ?_
  refine .cons (Decoder.Reads.text.list.dict.dict.orDefault "highlighting" []) fun fragments => ?_
  refine .cons (reads_facets.optional "facet_counts") fun facets => ?_
  refine .cons (reads_error.optional "error") fun error => ?_
  exact .nil _

theorem Envelope.error_ne_none {levels : Nat} {source : Source} {e : Envelope}
    (h : Envelope.decoder levels source = some e) (hsource : source.ReportsError) :
    e.error ≠ none := by
  simp only [Envelope.decoder, Option.bind_eq_bind, Option.bind_eq_some_iff, Option.pure_def,
    Option.some.injEq] at h
  obtain ⟨r, hr, documents, -, fragments, -, facets, -, error, herror, rfl⟩ := h
  rintro rfl
  exact hsource.optional_ne_none hr (by decide) _ herror

/-- What becomes of an error that a flat answer reports. -/
theorem readResults_of_reportsError {body : String} {source : Source} (request : String)
    (hbody : Source.ofText? body = some source) (hsource : source.ReportsError) :
    (FailsTransport request (readResults body request) ↔
      bodyShape Source.nestingLimit source) ∧
    (¬ bodyShape Source.nestingLimit source →
      readResults body request = .error (.response .unreadable body request)) := by
  rw [← reads_body]
  unfold readResults Decoder.ofText?
  rw [hbody, Option.bind_some]
  cases he : Envelope.decoder Source.nestingLimit source with
  | none => simp [FailsTransport]
  | some e =>
    obtain ⟨error, herror⟩ := Option.ne_none_iff_exists'.mp (Envelope.error_ne_none he hsource)
    simp [FailsTransport, herror]

end Flat

/-! ### Structured answers -/

namespace Structured

def hitShape : Shape :=
  .record [⟨"_id", .optional, .value⟩, ⟨"_score", .optional, .number⟩,
    ⟨"_source", .defaulted, .dict .value⟩, ⟨"highlight", .optional, .dict (.list .text)⟩]

/-- A number, or an object with a number. -/
def totalShape : Shape
  | levels, .object members =>
    Shape.record [⟨"value", .required, .natural UInt64.size⟩] levels (.object members)
  | levels, s => Shape.natural UInt64.size levels s

def hitsShape : Shape :=
  .record [⟨"total", .optional, totalShape⟩, ⟨"hits", .defaulted, .list hitShape⟩]

def bucketShape : Shape :=
  .record [⟨"key", .required, .value⟩, ⟨"doc_count", .required, .natural UInt64.size⟩]

def bucketsShape : Shape := .record [⟨"buckets", .defaulted, .list bucketShape⟩]

/-- The shape of the body of a structured answer. -/
def bodyShape : Shape :=
  .record [⟨"hits", .optional, hitsShape⟩, ⟨"aggregations", .defaulted, .dict bucketsShape⟩,
    ⟨"error", .optional, .value⟩, ⟨"status", .optional, .natural UInt16.size⟩]

theorem reads_hit : Hit.decoder.Reads hitShape := by
  refine .record rfl (by decide) fun r => ?_
  refine .cons (Decoder.Reads.json.optional "_id") fun id => ?_
  refine .cons (Decoder.Reads.scalar.optional "_score") fun score => ?_
  refine .cons (Decoder.Reads.json.dict.orDefault "_source" []) fun attributes => ?_
  refine .cons (Decoder.Reads.text.list.dict.optional "highlight") fun highlights => ?_
  exact .nil _

theorem reads_total : totalDecoder.Reads totalShape := by
  have hvalue : Decoder.Reads
      (fun levels source => Record.ofSource? ["value"] levels source >>= fun r =>
        r.required "value" Decode.natural64)
      (.record [⟨"value", .required, .natural UInt64.size⟩]) :=
    .record rfl (by decide) fun _ => Decoder.Reads.natural64.required "value"
  intro levels s
  -- A record may be an array elsewhere, but a total may not.
  cases s with
  | object members => exact hvalue levels (.object members)
  | _ => exact Decoder.Reads.natural64 levels _

theorem reads_hits : HitSection.decoder.Reads hitsShape := by
  refine .record rfl (by decide) fun r => ?_
  refine .cons (reads_total.optional "total") fun total => ?_
  refine .cons (reads_hit.list.orDefault "hits" []) fun hits => ?_
  exact .nil _

theorem reads_bucket : Bucket.decoder.Reads bucketShape := by
  refine .record rfl (by decide) fun r => ?_
  refine .cons (Decoder.Reads.json.required "key") fun key => ?_
  refine .cons (Decoder.Reads.natural64.required "doc_count") fun count => ?_
  exact .nil _

theorem reads_buckets : bucketsDecoder.Reads bucketsShape :=
  .record rfl (by decide) fun _ => reads_bucket.list.orDefault "buckets" []

theorem reads_body : Envelope.decoder.Reads bodyShape := by
  refine .record rfl (by decide) fun r => ?_
  refine .cons (reads_hits.optional "hits") fun hits => ?_
  refine .cons (reads_buckets.dict.orDefault "aggregations" []) fun facets => ?_
  refine .cons (Decoder.Reads.json.optional "error") fun error => ?_
  refine .cons (Decoder.Reads.natural16.optional "status") fun status => ?_
  exact .nil _

theorem Envelope.error_ne_none {levels : Nat} {source : Source} {e : Envelope}
    (h : Envelope.decoder levels source = some e) (hsource : source.ReportsError) :
    e.error ≠ none := by
  simp only [Envelope.decoder, Option.bind_eq_bind, Option.bind_eq_some_iff, Option.pure_def,
    Option.some.injEq] at h
  obtain ⟨r, hr, hits, -, facets, -, error, herror, status, -, rfl⟩ := h
  rintro rfl
  exact hsource.optional_ne_none hr (by decide) _ herror

/-- What becomes of an error that a structured answer reports. -/
theorem readResults_of_reportsError {body : Json} (start : UInt64) (request : String)
    (hbody : (Source.ofJson body).ReportsError) :
    (FailsTransport request (readResults body start request) ↔
      bodyShape (Source.levelsOf body) (Source.ofJson body)) ∧
    (¬ bodyShape (Source.levelsOf body) (Source.ofJson body) →
      readResults body start request = .error (.response .unreadable body.print request)) := by
  rw [← reads_body]
  unfold readResults Decoder.ofJson?
  cases he : Envelope.decoder (Source.levelsOf body) (Source.ofJson body) with
  | none => simp [FailsTransport]
  | some e =>
    obtain ⟨error, herror⟩ := Option.ne_none_iff_exists'.mp (Envelope.error_ne_none he hbody)
    simp [FailsTransport, herror]

end Structured

/-! ### Both backends -/

/-- **Reported errors.**  An error that a body reports is the failure of the request exactly
    where the body has the shape of its table.  Otherwise the body counts as unreadable. -/
theorem reported_error_counts_iff (text : String) (body : Json) (start : UInt64)
    (request : String) :
    (∀ source, Source.ofText? text = some source → source.ReportsError →
      (FailsTransport request (Flat.readResults text request) ↔
        Flat.bodyShape Source.nestingLimit source) ∧
      (¬ Flat.bodyShape Source.nestingLimit source →
        Flat.readResults text request = .error (.response .unreadable text request))) ∧
    ((Source.ofJson body).ReportsError →
      (FailsTransport request (Structured.readResults body start request) ↔
        Structured.bodyShape (Source.levelsOf body) (Source.ofJson body)) ∧
      (¬ Structured.bodyShape (Source.levelsOf body) (Source.ofJson body) →
        Structured.readResults body start request =
          .error (.response .unreadable body.print request))) := by
  constructor
  · intro source htext hsource
    exact Flat.readResults_of_reportsError request htext hsource
  · intro hbody
    exact Structured.readResults_of_reportsError start request hbody

/-- The body of a flat answer to a request for an unknown field. -/
def explainedError : String :=
  "\x7b\"error\":\x7b\"msg\":\"undefined field foo\",\"code\":400\x7d\x7d"

theorem reported_error_counts_iff_undefinedField :
    FailsTransport "q=foo:bar" (Flat.readResults explainedError "q=foo:bar") ∧
    FailsTransport "q=foo:bar" (Structured.readResults
      (.object [("error", .string "all shards failed"), ("status", .number (.natural 400))]) 0
      "q=foo:bar") := by
  obtain ⟨hflat, hstructured⟩ := reported_error_counts_iff explainedError
    (.object [("error", .string "all shards failed"), ("status", .number (.natural 400))]) 0
    "q=foo:bar"
  constructor
  · obtain ⟨source, hsource, hreports, hread⟩ : ∃ source ∈ Source.ofText? explainedError,
        source.ReportsError ∧
          (Flat.Envelope.decoder Source.nestingLimit source).isSome = true := by
      decide +kernel
    exact (hflat source hsource hreports).1.mpr ((Flat.reads_body _ _).mp hread)
  · exact (hstructured (by decide)).1.mpr ((Structured.reads_body _ _).mp rfl)

/-- The same error beside a section that is `null` where it should be absent. -/
def errorBesideNull : String :=
  "\x7b\"error\":\x7b\"msg\":\"undefined field foo\",\"code\":400\x7d,\"highlighting\":null\x7d"

theorem reported_error_unreadable :
    (∃ source ∈ Source.ofText? errorBesideNull, source.ReportsError) ∧
    Flat.readResults errorBesideNull "q=foo:bar" =
      .error (.response .unreadable errorBesideNull "q=foo:bar") := by
  have hnone : (Flat.Envelope.decoder.ofText? errorBesideNull).isNone = true := by
    decide +kernel
  constructor
  · decide +kernel
  · unfold Flat.readResults
    rw [Option.isNone_iff_eq_none.mp hnone]

end Retrieval

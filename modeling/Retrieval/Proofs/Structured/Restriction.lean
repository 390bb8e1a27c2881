/-
  Retrieval/Proofs/Structured/Restriction.lean
  ============================================
  **The spatial restriction of a structured request.**

  The circle of a search becomes a `geo_distance` object, which is the last of the filters.  This
  object holds the radius under the name `distance`, and the center under the name of the field.
  An object has one member of a name, and the later one stays.  For a field of the name `distance`
  the center therefore takes the place of the radius (`radius_iff`).

  No clause becomes a `geo_distance` object (`isCondition_clauseMatch`).  So what the filters of
  a request say about a circle is what this one object says.
-/
import Retrieval.Proofs.Structured.Preservation

namespace Retrieval.Structured

open Json

/-! ### The object of a circle -/

/-- The center of a circle. -/
def center (circle : Spatial) : Json :=
  record [("lat", ofScalar circle.lat), ("lon", ofScalar circle.lng)]

/-- What stands in the object of a circle. -/
def restriction (circle : Spatial) : Json :=
  record [("distance", .string (circle.distanceKm.plain ++ "km")), (circle.field, center circle)]

/-- The object restricts the results to the circle: it has the radius, and it has the center with
    its two numbers. -/
structure Restricts (circle : Spatial) (object : Json) : Prop where
  radius : object.member? "distance" = some (.string (circle.distanceKm.plain ++ "km"))
  center : ∃ point, object.member? circle.field = some point ∧
    point.member? "lat" = some (.number (.real circle.lat)) ∧
    point.member? "lon" = some (.number (.real circle.lng))

theorem circleFilter_eq (circle : Spatial) :
    circleFilter circle = single "geo_distance" (restriction circle) := rfl

theorem ofScalar_eq_real_iff (x : Scalar) : ofScalar x = .number (.real x) ↔ x.isFinite = true := by
  unfold ofScalar
  split
  · exact iff_of_true rfl ‹_›
  · exact iff_of_false nofun ‹_›

theorem member?_center (circle : Spatial) :
    (center circle).member? "lat" = some (ofScalar circle.lat) ∧
      (center circle).member? "lon" = some (ofScalar circle.lng) :=
  ⟨member?_record [] (by simp), member?_record [_] (by simp)⟩

theorem member?_restriction_field (circle : Spatial) :
    (restriction circle).member? circle.field = some (center circle) :=
  member?_record [_] (by simp)

/-- The radius stays unless the field has its name. -/
theorem radius_iff (circle : Spatial) :
    (restriction circle).member? "distance"
        = some (.string (circle.distanceKm.plain ++ "km")) ↔ circle.field ≠ "distance" := by
  constructor
  · intro hradius hfield
    -- The center is found at the same name, and it is no text.
    have hcenter := member?_restriction_field circle
    rw [hfield, hradius] at hcenter
    cases hcenter
  · intro hfield
    exact member?_record [] (by simpa using hfield)

/-- The object of a circle is whole exactly if the field has another name than the radius, and
    the coordinates have a form in JSON. -/
theorem restricts_restriction_iff (circle : Spatial) :
    Restricts circle (restriction circle) ↔
      circle.field ≠ "distance" ∧ circle.lat.isFinite = true ∧ circle.lng.isFinite = true := by
  obtain ⟨hlat, hlon⟩ := member?_center circle
  rw [← radius_iff, ← ofScalar_eq_real_iff, ← ofScalar_eq_real_iff]
  constructor
  · rintro ⟨hradius, point, hpoint, hlat', hlon'⟩
    obtain rfl := Option.some.inj ((member?_restriction_field circle).symm.trans hpoint)
    exact ⟨hradius, Option.some.inj (hlat.symm.trans hlat'),
      Option.some.inj (hlon.symm.trans hlon')⟩
  · rintro ⟨hradius, hlat', hlon'⟩
    exact ⟨hradius, center circle, member?_restriction_field circle, hlat' ▸ hlat, hlon' ▸ hlon⟩

/-! ### The objects of clauses -/

/-- The kinds of objects that clauses become. -/
def conditionKinds : List String :=
  ["match_all", "bool", "term", "terms", "match", "match_phrase", "multi_match", "range", "exists"]

/-- The object is of a kind that clauses become. -/
def IsCondition (j : Json) : Prop := ∃ kind ∈ conditionKinds, ∃ value, j = single kind value

theorem isCondition_single {kind : String} (h : kind ∈ conditionKinds) (value : Json) :
    IsCondition (single kind value) := ⟨kind, h, value, rfl⟩

theorem isCondition_combination (members : List (String × Json)) :
    IsCondition (combination members) := isCondition_single (by decide) _

theorem IsCondition.member?_geo_distance {j : Json} (h : IsCondition j) :
    j.member? "geo_distance" = none := by
  obtain ⟨kind, hkind, value, rfl⟩ := h
  refine member?_single_of_ne ?_ value
  rintro rfl
  exact absurd hkind (by decide)

theorem isCondition_scopedLeaf {s : Search} {field : String} {q : Query} {j : Json}
    (h : scopedLeaf s field q = .ok j) : IsCondition j := by
  cases q with
  | term values escaped =>
    obtain rfl := Except.ok.inj h
    unfold valuesMatch
    split <;> exact isCondition_single (by decide) _
  | phrase value escaped | words value escaped =>
    obtain rfl := Except.ok.inj h
    exact isCondition_single (by decide) _
  | range low high =>
    obtain ⟨lower, -, h⟩ := bind_eq_ok_iff.mp h
    obtain ⟨upper, -, h⟩ := bind_eq_ok_iff.mp h
    obtain rfl := pure_eq_ok_iff.mp h
    unfold rangeMatch
    split <;> exact isCondition_single (by decide) _
  | _ => cases h

theorem isCondition_textMatch (s : Search) (kind : TextMatch) (text : String) :
    IsCondition (textMatch s kind text) := by
  unfold textMatch
  split
  · exact isCondition_single (by decide) _
  · exact isCondition_combination _

theorem isCondition_unscopedLeaf {s : Search} {q : Query} {j : Json}
    (h : unscopedLeaf s q = .ok j) : IsCondition j := by
  cases q with
  | term values escaped | phrase value escaped | words value escaped =>
    obtain rfl := Except.ok.inj h
    exact isCondition_textMatch ..
  | _ => cases h

/-- A combination is a `bool` whatever its parts are, so only groups need the induction. -/
theorem isCondition_expressionMatch {leaf : Query → Except Failure Json}
    (hleaf : ∀ q j, leaf q = .ok j → IsCondition j) (q : Query) :
    ∀ j, expressionMatch leaf q = .ok j → IsCondition j := by
  induction q with
  | splat =>
    intro j h
    obtain rfl := Except.ok.inj h
    exact isCondition_single (by decide) _
  | group q ih => exact ih
  | boost q w =>
    intro j h
    obtain ⟨inner, -, rfl⟩ := expressionMatch_boost_eq_ok_iff.mp h
    exact isCondition_combination _
  | allOf qs =>
    intro j h
    obtain ⟨js, -, rfl⟩ := expressionMatch_allOf_eq_ok_iff.mp h
    exact isCondition_combination _
  | anyOf qs =>
    intro j h
    obtain ⟨js, -, rfl⟩ := expressionMatch_anyOf_eq_ok_iff.mp h
    exact isCondition_combination _
  | _ => intro j h; exact hleaf _ j h

theorem isCondition_clauseMatch {s : Search} {c : Clause} {j : Json}
    (h : clauseMatch s c = .ok j) : IsCondition j := by
  cases c with
  | field clause =>
    obtain ⟨condition, hcondition, rfl⟩ := fieldMatch_eq_ok_iff.mp h
    split
    · split at hcondition
      · exact isCondition_expressionMatch (fun _ _ => isCondition_unscopedLeaf) _ _ hcondition
      · exact isCondition_expressionMatch (fun _ _ => isCondition_scopedLeaf) _ _ hcondition
    · exact isCondition_combination _
  | allOf cs =>
    obtain ⟨js, -, rfl⟩ := clauseMatch_allOf_eq_ok_iff.mp h
    exact isCondition_combination _
  | anyOf cs =>
    obtain ⟨js, -, rfl⟩ := clauseMatch_anyOf_eq_ok_iff.mp h
    exact isCondition_combination _

theorem isCondition_clauses {s : Search} {cs : List Clause} {js : List Json}
    (h : List.Forall₂ (fun c j => clauseMatch s c = .ok j) cs js) : ∀ j ∈ js, IsCondition j := by
  induction h with
  | nil => exact List.forall_mem_nil _
  | cons hj _ ih => exact List.forall_mem_cons.mpr ⟨isCondition_clauseMatch hj, ih⟩

/-! ### The filters of a request -/

/-- What the filters say about circles is what the object of the circle says. -/
theorem exists_geo_distance_iff {s : Search} {filters : List Json}
    (h : List.Forall₂ (fun c j => clauseMatch s c = .ok j) s.filters filters)
    (circle : Spatial) (P : Json → Prop) :
    (∃ condition ∈ filters ++ [circleFilter circle], ∃ object,
        condition.member? "geo_distance" = some object ∧ P object) ↔ P (restriction circle) := by
  constructor
  · rintro ⟨condition, hmem, object, hobject, hP⟩
    rcases List.mem_append.mp hmem with hfilter | hcircle
    · rw [(isCondition_clauses h condition hfilter).member?_geo_distance] at hobject
      cases hobject
    · rw [List.mem_singleton.mp hcircle, circleFilter_eq, member?_single_self] at hobject
      obtain rfl := Option.some.inj hobject
      exact hP
  · intro hP
    exact ⟨circleFilter circle, by simp, _, member?_single_self _ _, hP⟩

/-- **The spatial restriction of a structured request.**  The filters of the search stand in the
    query in their order, and behind them the object of the circle, always with its center at
    the name of the field.  The radius stands beside it exactly if the field is not
    called `distance`.  The filters have an object that is whole, with the radius and with
    both coordinates as numbers, exactly if moreover the coordinates are finite. -/
theorem spatial_restriction_whole_iff {s : Search} {circle : Spatial} {b : Json}
    (hspatial : s.spatial = some circle) (h : body s = .ok b) :
    ∃ condition filters object,
      b.member? "query" = some (single "bool" (record
        [("must", .array [condition]),
         ("filter", .array (filters ++ [single "geo_distance" object]))])) ∧
      List.Forall₂ (fun c j => clauseMatch s c = .ok j) s.filters filters ∧
      object.member? circle.field
        = some (record [("lat", ofScalar circle.lat), ("lon", ofScalar circle.lng)]) ∧
      (object.member? "distance" = some (.string (circle.distanceKm.plain ++ "km")) ↔
        circle.field ≠ "distance") ∧
      ((∃ filter ∈ filters ++ [single "geo_distance" object], ∃ object',
          filter.member? "geo_distance" = some object' ∧ Restricts circle object') ↔
        circle.field ≠ "distance" ∧ circle.lat.isFinite = true ∧ circle.lng.isFinite = true) := by
  obtain ⟨query, hquery, hmember⟩ := body_eq_ok h
  obtain ⟨_, _, condition, _, -, -, -, hfilters, rfl⟩ := querySection_eq_ok_iff.mp hquery
  obtain ⟨filters, hclauses, rfl⟩ := filterConditions_eq_ok_iff.mp hfilters
  rw [hspatial] at hmember
  refine ⟨condition, filters, restriction circle, ?_, hclauses, member?_restriction_field circle,
    radius_iff circle, ?_⟩
  · rw [hmember, if_neg (by simp)]
    rfl
  · rw [← circleFilter_eq, exists_geo_distance_iff hclauses, restricts_restriction_iff]

/-- A circle in the midst of everything else. -/
theorem spatial_restriction_whole_iff_layeredSearch :
    layeredSearch.spatial = some ⟨"geo", .zero, .zero, .one⟩ ∧
      ∃ b condition filters, body layeredSearch = .ok b ∧
        b.member? "query" = some (single "bool" (record
          [("must", .array [condition]), ("filter", .array filters)])) ∧
        ∃ filter ∈ filters, ∃ object, filter.member? "geo_distance" = some object ∧
          Restricts ⟨"geo", .zero, .zero, .one⟩ object := by
  have hok : (body layeredSearch).toOption.isSome = true := by decide +kernel
  refine ⟨rfl, ?_⟩
  cases h : body layeredSearch with
  | error e =>
    rw [h] at hok
    cases hok
  | ok b =>
    obtain ⟨condition, filters, object, hquery, -, -, -, hwhole⟩ :=
      spatial_restriction_whole_iff rfl h
    exact ⟨b, condition, _, rfl, hquery, hwhole.mpr ⟨by decide, by decide, by decide⟩⟩

/-- Five kilometres around a place, for a field of the name `distance`. -/
def circleAtDistance : Spatial :=
  ⟨"distance", ⟨0x404459999999999A⟩, ⟨0xC052800000000000⟩, ⟨0x4014000000000000⟩⟩

/-- The request has the center alone, at the name of the radius. -/
theorem distance_field_hides_radius :
    circleAtDistance.distanceKm.plain ++ "km" = "5km" ∧
      (body { Search.ofIndex "venues" with spatial := some circleAtDistance }).toOption.bind
          (member? "query")
        = some (single "bool" (record
          [("must", .array [matchAll]),
           ("filter", .array [single "geo_distance" (restriction circleAtDistance)])])) ∧
      restriction circleAtDistance
        = single "distance" (record
          [("lat", .number (.real circleAtDistance.lat)),
           ("lon", .number (.real circleAtDistance.lng))]) ∧
      ¬ Restricts circleAtDistance (restriction circleAtDistance) := by
  refine ⟨by decide +kernel, by decide +kernel, by decide +kernel, ?_⟩
  rw [restricts_restriction_iff]
  decide

end Retrieval.Structured

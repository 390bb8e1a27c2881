/-
  Retrieval/Proofs/Structured/Assembly.lean
  =========================================
  **What a structured request is put together from.**

  Each part of the structured request can be refused, and the first refusal ends the
  whole.  A request that came about therefore had every part, and these lemmas name the
  parts: one lemma for each function that puts objects together.
-/
import Retrieval.Proofs.Outcome
import Retrieval.Structured.Body

namespace Retrieval.Structured

open Json

/-! ### Expressions and clauses -/

/-- The members of a list match one by one. -/
theorem expressionMatches_eq_ok_iff {leaf : Query → Except Failure Json} {qs : List Query}
    {js : List Json} :
    expressionMatches leaf qs = .ok js ↔
      List.Forall₂ (fun q j => expressionMatch leaf q = .ok j) qs js := by
  induction qs generalizing js with
  | nil =>
    rw [expressionMatches, List.forall₂_nil_left_iff, Except.ok.injEq, eq_comm]
  | cons q qs ih =>
    simp only [expressionMatches, bind_eq_ok_iff, pure_eq_ok_iff, List.forall₂_cons_left_iff, ih]
    constructor
    · rintro ⟨j, hj, js', hjs, rfl⟩
      exact ⟨j, js', hj, hjs, rfl⟩
    · rintro ⟨j, js', hj, hjs, rfl⟩
      exact ⟨j, hj, js', hjs, rfl⟩

theorem expressionMatch_boost_eq_ok_iff {leaf : Query → Except Failure Json} {q : Query}
    {w : Scalar} {j : Json} :
    expressionMatch leaf (.boost q w) = .ok j ↔
      ∃ inner, expressionMatch leaf q = .ok inner ∧ weighted inner w = j := by
  rw [expressionMatch, bind_eq_ok_iff]
  simp only [pure_eq_ok_iff]

theorem expressionMatch_allOf_eq_ok_iff {leaf : Query → Except Failure Json} {qs : List Query}
    {j : Json} :
    expressionMatch leaf (.allOf qs) = .ok j ↔
      ∃ js, List.Forall₂ (fun q j => expressionMatch leaf q = .ok j) qs js ∧ every js = j := by
  rw [expressionMatch, bind_eq_ok_iff]
  simp only [pure_eq_ok_iff, expressionMatches_eq_ok_iff]

theorem expressionMatch_anyOf_eq_ok_iff {leaf : Query → Except Failure Json} {qs : List Query}
    {j : Json} :
    expressionMatch leaf (.anyOf qs) = .ok j ↔
      ∃ js, List.Forall₂ (fun q j => expressionMatch leaf q = .ok j) qs js ∧ atLeastOne js = j := by
  rw [expressionMatch, bind_eq_ok_iff]
  simp only [pure_eq_ok_iff, expressionMatches_eq_ok_iff]

theorem rangeEnd_group (q : Query) : rangeEnd (.group q) = rangeEnd q := by
  rw [rangeEnd, Query.ungrouped, rangeEnd]

/-- The members of a list match one by one. -/
theorem clauseMatches_eq_ok_iff {s : Search} {cs : List Clause} {js : List Json} :
    clauseMatches s cs = .ok js ↔ List.Forall₂ (fun c j => clauseMatch s c = .ok j) cs js := by
  induction cs generalizing js with
  | nil =>
    rw [clauseMatches, List.forall₂_nil_left_iff, Except.ok.injEq, eq_comm]
  | cons c cs ih =>
    simp only [clauseMatches, bind_eq_ok_iff, pure_eq_ok_iff, List.forall₂_cons_left_iff, ih]
    constructor
    · rintro ⟨j, hj, js', hjs, rfl⟩
      exact ⟨j, js', hj, hjs, rfl⟩
    · rintro ⟨j, js', hj, hjs, rfl⟩
      exact ⟨j, hj, js', hjs, rfl⟩

theorem fieldMatch_eq_ok_iff {s : Search} {clause : FieldClause} {j : Json} :
    fieldMatch s clause = .ok j ↔
      ∃ condition,
        (if clause.isUnscoped then unscopedMatch s clause.query
          else scopedMatch s clause.fieldName clause.query) = .ok condition ∧
        (if clause.included then condition else negated condition) = j := by
  unfold fieldMatch
  cases clause.isUnscoped <;> exact bind_eq_ok_iff.trans (by simp only [pure_eq_ok_iff]; rfl)

theorem clauseMatch_allOf_eq_ok_iff {s : Search} {cs : List Clause} {j : Json} :
    clauseMatch s (.allOf cs) = .ok j ↔
      ∃ js, List.Forall₂ (fun c j => clauseMatch s c = .ok j) cs js ∧ every js = j := by
  rw [clauseMatch, bind_eq_ok_iff]
  simp only [pure_eq_ok_iff, clauseMatches_eq_ok_iff]

theorem clauseMatch_anyOf_eq_ok_iff {s : Search} {cs : List Clause} {j : Json} :
    clauseMatch s (.anyOf cs) = .ok j ↔
      ∃ js, List.Forall₂ (fun c j => clauseMatch s c = .ok j) cs js ∧ atLeastOne js = j := by
  rw [clauseMatch, bind_eq_ok_iff]
  simp only [pure_eq_ok_iff, clauseMatches_eq_ok_iff]

/-! ### The wrappings -/

/-- A boost query is preferred as it stands, or demotes by its complement. -/
theorem boostConditions_eq_ok_iff {s : Search} {boosts : List Clause}
    {preferred demoted : List Json} :
    boostConditions s boosts = .ok (preferred, demoted) ↔
      List.Forall₂ (fun c j => clauseMatch s c = .ok j)
        (boosts.filter fun c => !c.hasNegation) preferred ∧
      List.Forall₂ (fun c j => clauseMatch s c.complement = .ok j)
        (boosts.filter Clause.hasNegation) demoted := by
  induction boosts generalizing preferred demoted with
  | nil => simp [boostConditions, eq_comm]
  | cons boost rest ih =>
    unfold boostConditions
    by_cases hboost : boost.hasNegation = true
    · rw [if_pos hboost, List.filter_cons_of_neg (by simp [hboost]),
        List.filter_cons_of_pos hboost, List.forall₂_cons_left_iff]
      simp only [bind_eq_ok_iff, pure_eq_ok_iff, Prod.exists, Prod.mk.injEq, ih]
      constructor
      · rintro ⟨j, hj, _, js, ⟨hpreferred, hdemoted⟩, rfl, rfl⟩
        exact ⟨hpreferred, j, js, hj, hdemoted, rfl⟩
      · rintro ⟨hpreferred, j, js, hj, hdemoted, rfl⟩
        exact ⟨j, hj, preferred, js, ⟨hpreferred, hdemoted⟩, rfl, rfl⟩
    · rw [if_neg hboost, List.filter_cons_of_pos (by simpa using hboost),
        List.filter_cons_of_neg hboost, List.forall₂_cons_left_iff]
      simp only [bind_eq_ok_iff, pure_eq_ok_iff, Prod.exists, Prod.mk.injEq, ih]
      constructor
      · rintro ⟨j, hj, js, _, ⟨hpreferred, hdemoted⟩, rfl, rfl⟩
        exact ⟨⟨j, js, hj, hpreferred, rfl⟩, hdemoted⟩
      · rintro ⟨⟨j, js, hj, hpreferred, rfl⟩, hdemoted⟩
        exact ⟨j, hj, js, demoted, ⟨hpreferred, hdemoted⟩, rfl, rfl⟩

theorem withBoostQueries_eq_ok_iff {s : Search} {condition j : Json} :
    withBoostQueries s condition = .ok j ↔
      ∃ preferred demoted, boostConditions s s.boostQueries = .ok (preferred, demoted) ∧
        (let raised := if preferred.isEmpty then condition else preferring condition preferred
         if demoted.isEmpty then raised else demoting raised demoted) = j := by
  rw [withBoostQueries, bind_eq_ok_iff]
  simp only [pure_eq_ok_iff, Prod.exists]

theorem withBoostFunctions_eq_ok_iff {s : Search} {condition j : Json} :
    withBoostFunctions s condition = .ok j ↔
      ∃ script, Script.ofBoosts s.activeBoostFunctions = .ok script ∧
        script.elim condition (scored condition) = j := by
  rw [withBoostFunctions, bind_eq_ok_iff]
  refine exists_congr fun script => and_congr_right fun _ => ?_
  cases script <;> exact pure_eq_ok_iff

theorem sortEntry_function_eq_ok_iff {q : Query} {direction : SortDirection} {entry : Json} :
    sortEntry ⟨.function q, direction⟩ = .ok entry ↔
      q.isFunction = true ∧ ∃ script, Script.ofFunction q = .ok script ∧
        single "_script" (record [("type", .string "number"), ("script", script.toJson),
          ("order", .string direction.word)]) = entry := by
  unfold sortEntry
  dsimp only
  by_cases hfunction : q.isFunction = true
  · rw [if_pos hfunction, bind_eq_ok_iff, and_iff_right hfunction]
    simp only [pure_eq_ok_iff]
  · rw [if_neg hfunction]
    exact iff_of_false (by simp) fun h => hfunction h.1

theorem filterConditions_eq_ok_iff {s : Search} {js : List Json} :
    filterConditions s = .ok js ↔
      ∃ filters, List.Forall₂ (fun c j => clauseMatch s c = .ok j) s.filters filters ∧
        filters ++ (s.spatial.map circleFilter).toList = js := by
  rw [filterConditions, bind_eq_ok_iff]
  simp only [pure_eq_ok_iff, clauseMatches_eq_ok_iff]

/-- The object of the clause of a search. -/
def clauseCondition (s : Search) : Except Failure Json :=
  match s.clause with
  | some clause => clauseMatch s clause
  | none => pure matchAll

theorem querySection_eq (s : Search) : querySection s = (do
    let clause ← clauseCondition s
    let raised ← withBoostQueries s clause
    let scored ← withBoostFunctions s raised
    let filters ← filterConditions s
    pure (if filters.isEmpty then scored else filtered scored filters)) := by
  unfold querySection clauseCondition
  cases s.clause <;> rfl

theorem querySection_eq_ok_iff {s : Search} {j : Json} :
    querySection s = .ok j ↔
      ∃ clause raised scored filters,
        clauseCondition s = .ok clause ∧ withBoostQueries s clause = .ok raised ∧
        withBoostFunctions s raised = .ok scored ∧ filterConditions s = .ok filters ∧
        (if filters.isEmpty then scored else filtered scored filters) = j := by
  rw [querySection_eq]
  simp only [bind_eq_ok_iff, pure_eq_ok_iff]
  constructor
  · rintro ⟨clause, hc, raised, hr, scored, hs, filters, hf, hj⟩
    exact ⟨clause, raised, scored, filters, hc, hr, hs, hf, hj⟩
  · rintro ⟨clause, raised, scored, filters, hc, hr, hs, hf, hj⟩
    exact ⟨clause, hc, raised, hr, scored, hs, filters, hf, hj⟩

/-! ### Members -/

/-- A later member of another name does not hide a member. -/
theorem member?_record (before : List (String × Json)) {name : String} {value : Json}
    {after : List (String × Json)} (h : ∀ entry ∈ after, entry.1 ≠ name) :
    (record (before ++ (name, value) :: after)).member? name = some value := by
  have hsplit : Dict.ofEntries (before ++ (name, value) :: after)
      = Dict.insertAll (Dict.insert name value (Dict.ofEntries before)) after := by
    simp [Dict.ofEntries, Dict.insertAll]
  rw [record, member?, hsplit, Dict.get?_insertAll_of_forall_ne h, Dict.get?_insert_self]

theorem member?_record_eq_none {name : String} {members : List (String × Json)}
    (h : ∀ entry ∈ members, entry.1 ≠ name) : (record members).member? name = none :=
  Dict.get?_insertAll_of_forall_ne h []

theorem member?_single_self (name : String) (value : Json) :
    (single name value).member? name = some value := by
  simp [single, member?, Dict.get?]

theorem member?_single_of_ne {kind name : String} (h : kind ≠ name) (value : Json) :
    (single kind value).member? name = none := by
  simp [single, member?, Dict.get?, h]

/-! ### The body -/

/-- The members behind the order have names of their own. -/
theorem trailing_ne {name : String} (hname : name ∉ ["_source", "aggs", "highlight"]) (s : Search) :
    ∀ entry ∈ sourceMembers s ++ facetMembers s.facets ++ highlightMembers s, entry.1 ≠ name := by
  simp only [List.mem_cons, List.not_mem_nil, or_false, not_or] at hname
  obtain ⟨hsource, hfacets, hhighlight⟩ := hname
  have hsource : ∀ entry ∈ sourceMembers s, entry.1 ≠ name := by
    unfold sourceMembers
    split <;> simp [Ne.symm hsource]
  have hfacets : ∀ entry ∈ facetMembers s.facets, entry.1 ≠ name := by
    unfold facetMembers
    split <;> simp [Ne.symm hfacets]
  have hhighlight : ∀ entry ∈ highlightMembers s, entry.1 ≠ name := by
    unfold highlightMembers
    split <;> simp [Ne.symm hhighlight]
  simp only [List.forall_mem_append]
  exact ⟨⟨hsource, hfacets⟩, hhighlight⟩

/-- The query section and the order are not touched by the other sections. -/
theorem body_sections {s : Search} {b : Json} (h : body s = .ok b) :
    ∃ query sorting, querySection s = .ok query ∧ sortMembers s = .ok sorting ∧
      b.member? "query" = some query ∧
      ∀ entries, sorting = [("sort", entries)] → b.member? "sort" = some entries := by
  obtain ⟨query, hquery, h⟩ := bind_eq_ok_iff.mp h
  obtain ⟨sorting, hsorting, h⟩ := bind_eq_ok_iff.mp h
  obtain rfl := pure_eq_ok_iff.mp h
  refine ⟨query, sorting, hquery, hsorting, ?_, ?_⟩
  · have hsort : ∀ entry ∈ sorting, entry.1 ≠ "query" := by
      unfold sortMembers at hsorting
      split at hsorting
      · obtain rfl := Except.ok.inj hsorting
        simp
      · obtain ⟨entry, -, hentry⟩ := bind_eq_ok_iff.mp hsorting
        obtain rfl := pure_eq_ok_iff.mp hentry
        simp
    have hrest : ∀ entry ∈ [("from", natural s.start), ("size", natural s.limit)] ++ sorting ++
        (sourceMembers s ++ facetMembers s.facets ++ highlightMembers s), entry.1 ≠ "query" := by
      rw [List.forall_mem_append, List.forall_mem_append]
      exact ⟨⟨by simp, hsort⟩, trailing_ne (by decide) s⟩
    rw [List.append_assoc, List.append_assoc, ← List.append_assoc (sourceMembers s)]
    exact member?_record [] hrest
  · rintro entries rfl
    rw [List.append_assoc, List.append_assoc, ← List.append_assoc (sourceMembers s)]
    exact member?_record [_, _, _] (trailing_ne (by decide) s)

theorem body_eq_ok {s : Search} {b : Json} (h : body s = .ok b) :
    ∃ query, querySection s = .ok query ∧ b.member? "query" = some query := by
  obtain ⟨query, sorting, hquery, -, hmember, -⟩ := body_sections h
  exact ⟨query, hquery, hmember⟩

/-- The order of a body is the one of its search. -/
theorem body_sort_eq_ok {s : Search} {b : Json} (h : body s = .ok b) {order : SortOrder}
    (hsort : s.sort = some order) :
    ∃ entry, sortEntry order = .ok entry ∧ b.member? "sort" = some (.array [entry]) := by
  obtain ⟨query, sorting, -, hsorting, -, hmember⟩ := body_sections h
  unfold sortMembers at hsorting
  rw [hsort] at hsorting
  obtain ⟨entry, hentry, hsorting⟩ := bind_eq_ok_iff.mp hsorting
  obtain rfl := pure_eq_ok_iff.mp hsorting
  exact ⟨entry, hentry, hmember _ rfl⟩

end Retrieval.Structured

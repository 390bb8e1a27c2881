/-
  Retrieval/Proofs/Structured/Preservation.lean
  =============================================
  **The structured request matches what the search asks for.**

  The query section of the body is built in layers: the object of the clause, the boost
  queries around it, the script of the boost functions, the filters.  The boosts of
  phrases stand inside, beside each text for the default fields.  `matches_querySection`
  reads the layers from the outside in, and what remains is the meaning of the clause,
  the meaning of every filter, and the circle.  The boosts of every sort are gone.

  A leaf of an expression has one object that looks into documents (`leafObject?`).  What
  such an object matches is left open, so the result holds of every backend that follows
  the rules for combinations.
-/
import Retrieval.Proofs.Denotation
import Retrieval.Proofs.Structured.Assembly
import Retrieval.Proofs.Structured.QueryObject

namespace Retrieval.Structured

open Json

/-! ### What a search asks for -/

/-- The object that looks into documents for a leaf, in the named field or, without a
    name, in the default fields. -/
def leafObject? (s : Search) (field : String) : Query → Option Json
  | .term values _ =>
    some (if field.isEmpty then defaultFieldsMatch s .words (String.intercalate " " values)
      else valuesMatch field values)
  | .phrase value _ =>
    some (if field.isEmpty then defaultFieldsMatch s .phrase value else phraseMatch field value)
  | .words value _ =>
    some (if field.isEmpty then defaultFieldsMatch s .words value else wordsMatch s field value)
  | .range low high =>
    if field.isEmpty then none
    else
      match rangeEnd low, rangeEnd high with
      | .ok low, .ok high => some (rangeMatch field low high)
      | _, _ => none
  | _ => none

/-- A field matches an expression when the expression holds of the objects of its leaves. -/
def FieldMatches (leaf : Json → Prop) (s : Search) (field : String) (query : Query) : Prop :=
  query.Holds fun q => ∃ object ∈ leafObject? s field q, leaf object

/-- What a search asks for: its clause, each of its filters, and its circle. -/
def SearchHolds (leaf : Json → Prop) (s : Search) : Prop :=
  (∀ clause ∈ s.clause, clause.Holds (FieldMatches leaf s)) ∧
  (∀ filter ∈ s.filters, filter.Holds (FieldMatches leaf s)) ∧
  ∀ circle ∈ s.spatial, leaf (circleFilter circle)

variable (leaf : Json → Prop)

/-! ### Leaves -/

theorem matches_valuesMatch (field : String) (values : List String) :
    Matches leaf (valuesMatch field values) ↔ leaf (valuesMatch field values) := by
  unfold valuesMatch
  split <;> exact matches_single_leaf leaf (by decide) _

theorem matches_phraseMatch (field value : String) :
    Matches leaf (phraseMatch field value) ↔ leaf (phraseMatch field value) :=
  matches_single_leaf leaf (by decide) _

theorem matches_wordsMatch (s : Search) (field value : String) :
    Matches leaf (wordsMatch s field value) ↔ leaf (wordsMatch s field value) :=
  matches_single_leaf leaf (by decide) _

theorem matches_rangeMatch (field : String) (low high : Option String) :
    Matches leaf (rangeMatch field low high) ↔ leaf (rangeMatch field low high) := by
  unfold rangeMatch
  split <;> exact matches_single_leaf leaf (by decide) _

theorem matches_circleFilter (circle : Spatial) :
    Matches leaf (circleFilter circle) ↔ leaf (circleFilter circle) :=
  matches_single_leaf leaf (by decide) _

theorem matches_textMatch (s : Search) (kind : TextMatch) (text : String) :
    Matches leaf (textMatch s kind text) ↔ leaf (defaultFieldsMatch s kind text) := by
  have hleaf : Matches leaf (defaultFieldsMatch s kind text) ↔
      leaf (defaultFieldsMatch s kind text) := matches_single_leaf leaf (by decide) _
  unfold textMatch
  split
  · exact hleaf
  · rw [matches_preferring, hleaf]

theorem matches_scopedLeaf {s : Search} {field : String} (hfield : field.isEmpty = false)
    {q : Query} {j : Json} (h : scopedLeaf s field q = .ok j) :
    Matches leaf j ↔ ∃ object ∈ leafObject? s field q, leaf object := by
  cases q with
  | term values escaped =>
    obtain rfl := Except.ok.inj h
    simp [leafObject?, hfield, matches_valuesMatch]
  | phrase value escaped =>
    obtain rfl := Except.ok.inj h
    simp [leafObject?, hfield, matches_phraseMatch]
  | words value escaped =>
    obtain rfl := Except.ok.inj h
    simp [leafObject?, hfield, matches_wordsMatch]
  | range low high =>
    obtain ⟨lowEnd, hlow, h⟩ := bind_eq_ok_iff.mp h
    obtain ⟨highEnd, hhigh, h⟩ := bind_eq_ok_iff.mp h
    obtain rfl := pure_eq_ok_iff.mp h
    simp [leafObject?, hfield, hlow, hhigh, matches_rangeMatch]
  | _ => cases h

theorem matches_unscopedLeaf {s : Search} {field : String} (hfield : field.isEmpty = true)
    {q : Query} {j : Json} (h : unscopedLeaf s q = .ok j) :
    Matches leaf j ↔ ∃ object ∈ leafObject? s field q, leaf object := by
  cases q with
  | term values escaped | phrase value escaped | words value escaped =>
    obtain rfl := Except.ok.inj h
    simp [leafObject?, hfield, matches_textMatch]
  | _ => cases h

/-! ### Expressions and clauses -/

/-- The objects of the parts of a combination match as the parts hold. -/
theorem matches_parts {α : Type} {produce : α → Except Failure Json} {holds : α → Prop}
    {parts : List α} {js : List Json}
    (h : List.Forall₂ (fun part j => produce part = .ok j) parts js)
    (hparts : ∀ part ∈ parts, ∀ j, produce part = .ok j → (Matches leaf j ↔ holds part)) :
    ((∀ j ∈ js, Matches leaf j) ↔ ∀ part ∈ parts, holds part) ∧
      ((∃ j ∈ js, Matches leaf j) ↔ ∃ part ∈ parts, holds part) := by
  induction h with
  | nil => simp
  | @cons part j parts js hj _ ih =>
    obtain ⟨hhead, htail⟩ := List.forall_mem_cons.mp hparts
    obtain ⟨hall, hsome⟩ := ih htail
    have hiff : Matches leaf j ↔ holds part := hhead j hj
    constructor
    · rw [List.forall_mem_cons, List.forall_mem_cons, hiff, hall]
    · rw [List.exists_mem_cons_iff, List.exists_mem_cons_iff, hiff, hsome]

/-- The match of an expression has the meaning of the expression, if the matches of the
    leaves have theirs. -/
theorem matches_expressionMatch {leafMatch : Query → Except Failure Json} {holds : Query → Prop}
    (hleaf : ∀ q j, leafMatch q = .ok j → (Matches leaf j ↔ holds q)) (q : Query) :
    ∀ j, expressionMatch leafMatch q = .ok j → (Matches leaf j ↔ q.Holds holds) := by
  induction q with
  | splat =>
    intro j h
    obtain rfl := Except.ok.inj h
    simp
  | group q ih => exact ih
  | boost q w ih =>
    intro j h
    obtain ⟨inner, hinner, rfl⟩ := expressionMatch_boost_eq_ok_iff.mp h
    rw [matches_weighted, Query.holds_boost, ih inner hinner]
  | allOf qs ih =>
    intro j h
    obtain ⟨js, hjs, rfl⟩ := expressionMatch_allOf_eq_ok_iff.mp h
    rw [matches_every, Query.holds_allOf, (matches_parts leaf hjs ih).1]
  | anyOf qs ih =>
    intro j h
    obtain ⟨js, hjs, rfl⟩ := expressionMatch_anyOf_eq_ok_iff.mp h
    rw [matches_atLeastOne, Query.holds_anyOf, (matches_parts leaf hjs ih).2]
  | _ => intro j h; exact hleaf _ j h

theorem matches_fieldMatch {s : Search} {clause : FieldClause} {j : Json}
    (h : fieldMatch s clause = .ok j) :
    Matches leaf j ↔ clause.Holds (FieldMatches leaf s) := by
  obtain ⟨condition, hcondition, rfl⟩ := fieldMatch_eq_ok_iff.mp h
  have hmatches : Matches leaf condition ↔ FieldMatches leaf s clause.fieldName clause.query := by
    cases hname : clause.isUnscoped with
    | true =>
      rw [hname, if_pos rfl] at hcondition
      exact matches_expressionMatch leaf (fun _ _ => matches_unscopedLeaf leaf hname) _ _ hcondition
    | false =>
      rw [hname, if_neg Bool.false_ne_true] at hcondition
      exact matches_expressionMatch leaf (fun _ _ => matches_scopedLeaf leaf hname) _ _ hcondition
  unfold FieldClause.Holds
  split
  · exact hmatches
  · rw [matches_negated, hmatches]

theorem matches_clauseMatch {s : Search} (c : Clause) :
    ∀ j, clauseMatch s c = .ok j → (Matches leaf j ↔ c.Holds (FieldMatches leaf s)) := by
  induction c with
  | field clause =>
    intro j h
    exact matches_fieldMatch leaf h
  | allOf cs ih =>
    intro j h
    obtain ⟨js, hjs, rfl⟩ := clauseMatch_allOf_eq_ok_iff.mp h
    rw [matches_every, Clause.holds_allOf, (matches_parts leaf hjs ih).1]
  | anyOf cs ih =>
    intro j h
    obtain ⟨js, hjs, rfl⟩ := clauseMatch_anyOf_eq_ok_iff.mp h
    rw [matches_atLeastOne, Clause.holds_anyOf, (matches_parts leaf hjs ih).2]

/-! ### The wrappings -/

theorem matches_withBoostQueries {s : Search} {condition j : Json}
    (h : withBoostQueries s condition = .ok j) : Matches leaf j ↔ Matches leaf condition := by
  obtain ⟨preferred, demoted, -, rfl⟩ := withBoostQueries_eq_ok_iff.mp h
  cases preferred <;> cases demoted <;> simp

theorem matches_withBoostFunctions {s : Search} {condition j : Json}
    (h : withBoostFunctions s condition = .ok j) : Matches leaf j ↔ Matches leaf condition := by
  obtain ⟨script, -, rfl⟩ := withBoostFunctions_eq_ok_iff.mp h
  cases script <;> simp

theorem matches_clauseCondition {s : Search} {j : Json} (h : clauseCondition s = .ok j) :
    Matches leaf j ↔ ∀ clause ∈ s.clause, clause.Holds (FieldMatches leaf s) := by
  unfold clauseCondition at h
  cases hclause : s.clause with
  | none =>
    rw [hclause] at h
    obtain rfl := pure_eq_ok_iff.mp h
    simp
  | some clause =>
    rw [hclause] at h
    simpa using matches_clauseMatch leaf clause j h

theorem matches_filterConditions {s : Search} {js : List Json} (h : filterConditions s = .ok js) :
    (∀ j ∈ js, Matches leaf j) ↔
      (∀ filter ∈ s.filters, filter.Holds (FieldMatches leaf s)) ∧
      ∀ circle ∈ s.spatial, leaf (circleFilter circle) := by
  obtain ⟨filters, hfilters, rfl⟩ := filterConditions_eq_ok_iff.mp h
  have hclauses := (matches_parts leaf hfilters fun c _ => matches_clauseMatch leaf c).1
  have hcircle : (∀ j ∈ (s.spatial.map circleFilter).toList, Matches leaf j) ↔
      ∀ circle ∈ s.spatial, leaf (circleFilter circle) := by
    cases s.spatial with
    | none => simp
    | some circle => simpa using matches_circleFilter leaf circle
  rw [List.forall_mem_append, hclauses, hcircle]

/-- The query section matches what the search asks for. -/
theorem matches_querySection {s : Search} {query : Json} (h : querySection s = .ok query) :
    Matches leaf query ↔ SearchHolds leaf s := by
  obtain ⟨clause, raised, scored, filters, hclause, hraised, hscored, hfilters, rfl⟩ :=
    querySection_eq_ok_iff.mp h
  have hinner : Matches leaf scored ↔ ∀ clause ∈ s.clause, clause.Holds (FieldMatches leaf s) := by
    rw [matches_withBoostFunctions leaf hscored, matches_withBoostQueries leaf hraised,
      matches_clauseCondition leaf hclause]
  have houter : Matches leaf (if filters.isEmpty then scored else filtered scored filters) ↔
      Matches leaf scored ∧ ∀ j ∈ filters, Matches leaf j := by
    cases filters <;> simp
  rw [houter, hinner, matches_filterConditions leaf hfilters, SearchHolds]

/-- **A structured request matches what its search asks for.**  Whatever the leaf objects
    match, the query section matches a document exactly when the clause of the search,
    its filters and its circle hold of the document.  The boosts of queries, functions
    and phrases decide nothing: a search that differs in them alone matches the same. -/
theorem body_query_matches_iff {s : Search} {b : Json} (h : body s = .ok b) :
    ∃ query, b.member? "query" = some query ∧
      (∀ {δ : Type} (M : Json → δ → Prop) (d : δ),
        Matches (M · d) query ↔ SearchHolds (M · d) s) ∧
      ∀ boostQueries boostFunctions phraseBoosts b',
        body { s with boostQueries, boostFunctions, phraseBoosts } = .ok b' →
        ∃ query', b'.member? "query" = some query' ∧
          ∀ {δ : Type} (M : Json → δ → Prop) (d : δ),
            Matches (M · d) query' ↔ Matches (M · d) query := by
  obtain ⟨query, hquery, hmember⟩ := body_eq_ok h
  refine ⟨query, hmember, fun M d => matches_querySection _ hquery, ?_⟩
  intro boostQueries boostFunctions phraseBoosts b' h'
  obtain ⟨query', hquery', hmember'⟩ := body_eq_ok h'
  refine ⟨query', hmember', fun M d => ?_⟩
  have hsame : SearchHolds (M · d) { s with boostQueries, boostFunctions, phraseBoosts } ↔
      SearchHolds (M · d) s := Iff.rfl
  rw [matches_querySection _ hquery', hsame, matches_querySection _ hquery]

/-- A search in which every layer is present. -/
def layeredSearch : Search :=
  { Search.ofIndex "venues" with
    clause := some (.allOf [
      .anyOf [.field (.including "" (.boost (.wordsOf "pizza pie") .one)),
        .field (.including "tags" (.group (.oneOf ["a", "b"])))],
      .field (.excluding "name" (.phraseOf "closed"))])
    filters := [.field (.including "rank" (.range (.exactly "1") .splat))]
    boostQueries := [.field (.including "city" (.exactly "nyc")),
      .field (.excluding "city" (.exactly "la"))]
    boostFunctions := [⟨.fieldValue "popularity", .one⟩]
    phraseBoosts := [⟨⟨"name", .one⟩, true, false, false⟩]
    spatial := some ⟨"geo", .zero, .zero, .one⟩ }

theorem body_query_matches_iff_layeredSearch :
    ∃ b query, body layeredSearch = .ok b ∧ b.member? "query" = some query ∧
      ∀ {δ : Type} (M : Json → δ → Prop) (d : δ),
        Matches (M · d) query ↔ SearchHolds (M · d) layeredSearch := by
  have hok : (body layeredSearch).toOption.isSome = true := by decide +kernel
  cases h : body layeredSearch with
  | error e =>
    rw [h] at hok
    cases hok
  | ok b =>
    obtain ⟨query, hmember, hmatches, -⟩ := body_query_matches_iff h
    exact ⟨b, query, rfl, hmember, hmatches⟩

end Retrieval.Structured

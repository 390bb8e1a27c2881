/-
  Retrieval/Proofs/Acceptance.lean
  ================================
  **Which searches have a request.**

  A request is refused only where an expression stands in a place that its syntax has no
  form for.  The structured request looks at five places: the clause, the filters and the
  boost queries hold conditions, the boost functions and the order hold scoring functions.
  Each of the recursions behind these places decides a property of the expression that
  can be said without it (`Decides`), and a request is the conjunction of its places
  (`IsExpressible`).

  The flat request writes every expression down and only looks at the outermost node of
  an order.  What the structured request accepts, the flat one therefore accepts as well,
  but not the other way round.
-/
import Retrieval.Flat.Params
import Retrieval.Proofs.Flat.Preservation
import Retrieval.Proofs.Structured.Assembly

namespace Retrieval

/-! ### What can stand where -/

namespace Query

/-- The expressions that can stand at the end of a range: no end at all, one value or a
    phrase, in any number of groups. -/
inductive IsRangeEnd : Query → Prop
  | unbounded : IsRangeEnd .splat
  | value (value : String) (escaped : Bool) : IsRangeEnd (.term [value] escaped)
  | phrase (value : String) (escaped : Bool) : IsRangeEnd (.phrase value escaped)
  | group {q : Query} : IsRangeEnd q → IsRangeEnd (.group q)

/-- The expressions that compute a score all the way down. -/
inductive IsScore : Query → Prop
  | distance (field : String) (lat lng : Scalar) (shape : DistanceShape) :
    IsScore (.distance field lat lng shape)
  | fieldValue (field : String) : IsScore (.fieldValue field)
  | reciprocal {q : Query} (x y z : Scalar) : IsScore q → IsScore (.reciprocal q x y z)
  | group {q : Query} : IsScore q → IsScore (.group q)

/-- The leaves that a field, named or not, can be matched against. -/
def IsCondition (named : Bool) : Query → Prop
  | .term .. | .phrase .. | .words .. => True
  | .range low high => named = true ∧ low.IsRangeEnd ∧ high.IsRangeEnd
  | _ => False

end Query

/-- A condition on a field whose leaves can all be matched. -/
def FieldClause.IsAcceptable (clause : FieldClause) : Prop :=
  ∀ leaf ∈ clause.query.leaves, leaf.IsCondition (!clause.isUnscoped)

namespace SortKey

/-- A field, or an expression that computes a score at its outermost node. -/
def IsScoring : SortKey → Prop
  | .field _ => True
  | .function q => q.isFunction = true

/-- A field, or an expression that computes a score all the way down. -/
def IsScript : SortKey → Prop
  | .field _ => True
  | .function q => q.isFunction = true ∧ q.IsScore

theorem IsScript.isScoring {key : SortKey} (h : key.IsScript) : key.IsScoring := by
  cases key with
  | field name => trivial
  | function q => exact h.1

end SortKey

/-- The boost functions of a search compute scores, where they have a weight. -/
def Search.HasScores (s : Search) : Prop :=
  ∀ f ∈ s.boostFunctions, f.weight.isZero = false → f.function.IsScore

/-- The searches that the structured request has a form for. -/
structure Search.IsExpressible (s : Search) : Prop where
  clause : ∀ c ∈ s.clause, c.Over FieldClause.IsAcceptable
  filters : ∀ c ∈ s.filters, c.Over FieldClause.IsAcceptable
  boostQueries : ∀ c ∈ s.boostQueries, c.Over FieldClause.IsAcceptable
  boostFunctions : s.HasScores
  sort : ∀ order ∈ s.sort, order.target.IsScript

/-! ### Refusals -/

section Decides

variable {α β : Type} {p q : Prop}

/-- The computation succeeds exactly when `p` holds, and otherwise says that something
    cannot be expressed. -/
structure Decides (x : Except Failure α) (p : Prop) : Prop where
  ok_iff : (∃ a, x = .ok a) ↔ p
  unsupported : ∀ e, x = .error e → ∃ what, e = .unsupported what

theorem decides_ok (a : α) (hp : p) : Decides (.ok a) p := by
  constructor
  · exact iff_of_true ⟨a, rfl⟩ hp
  · intro e h
    cases h

theorem decides_refusal (what : Unsupported) (hp : ¬ p) :
    Decides (.error (.unsupported what) : Except Failure α) p := by
  constructor
  · refine iff_of_false ?_ hp
    rintro ⟨a, h⟩
    cases h
  · intro e h
    cases h
    exact ⟨what, rfl⟩

theorem Decides.congr {x : Except Failure α} (hx : Decides x p) (hpq : p ↔ q) : Decides x q :=
  ⟨hx.ok_iff.trans hpq, hx.unsupported⟩

/-- A sequence of steps decides what its steps decide together. -/
theorem Decides.bind {x : Except Failure α} {f : α → Except Failure β} (hx : Decides x p)
    (hf : ∀ a, Decides (f a) q) : Decides (x >>= f) (p ∧ q) := by
  cases x with
  | error e =>
    obtain ⟨what, rfl⟩ := hx.unsupported e rfl
    refine decides_refusal what ?_
    intro hpq
    obtain ⟨a, ha⟩ := hx.ok_iff.mpr hpq.1
    cases ha
  | ok a =>
    have hp : p := hx.ok_iff.mp ⟨a, rfl⟩
    exact (hf a).congr (and_iff_right hp).symm

theorem Decides.map {x : Except Failure α} (hx : Decides x p) (f : α → β) :
    Decides (x >>= fun a => pure (f a)) p :=
  (hx.bind fun a => decides_ok (f a) trivial).congr (and_iff_left trivial)

end Decides

namespace Structured

/-! ### Expressions -/

theorem decides_rangeEnd (q : Query) : Decides (rangeEnd q) q.IsRangeEnd := by
  induction q with
  | splat => exact decides_ok _ .unbounded
  | phrase value escaped => exact decides_ok _ (.phrase value escaped)
  | term values escaped =>
    rcases values with _ | ⟨value, _ | ⟨second, rest⟩⟩
    · exact decides_refusal _ (by intro h; cases h)
    · exact decides_ok _ (.value value escaped)
    · exact decides_refusal _ (by intro h; cases h)
  | group q ih =>
    rw [rangeEnd_group]
    refine ih.congr ⟨.group, ?_⟩
    intro h
    cases h with
    | group h => exact h
  | _ => exact decides_refusal _ (by intro h; cases h)

theorem decides_scopedLeaf (s : Search) (field : String) (q : Query) :
    Decides (scopedLeaf s field q) (q.IsCondition true) := by
  cases q with
  | term values escaped | phrase value escaped | words value escaped =>
    exact decides_ok _ trivial
  | range low high =>
    refine ((decides_rangeEnd low).bind fun _ => (decides_rangeEnd high).map _).congr ?_
    exact (and_iff_right rfl).symm
  | _ => exact decides_refusal _ id

theorem decides_unscopedLeaf (s : Search) (q : Query) :
    Decides (unscopedLeaf s q) (q.IsCondition false) := by
  cases q with
  | term values escaped | phrase value escaped | words value escaped =>
    exact decides_ok _ trivial
  | range low high =>
    refine decides_refusal _ ?_
    rintro ⟨hnamed, -⟩
    cases hnamed
  | _ => exact decides_refusal _ id

section Expression

variable {leafMatch : Query → Except Failure Json} {condition : Query → Prop}

theorem decides_expressionMatches {qs : List Query} {p : Query → Prop}
    (h : ∀ q ∈ qs, Decides (expressionMatch leafMatch q) (p q)) :
    Decides (expressionMatches leafMatch qs) (∀ q ∈ qs, p q) := by
  induction qs with
  | nil => exact decides_ok _ (List.forall_mem_nil p)
  | cons q qs ih =>
    obtain ⟨hq, hqs⟩ := List.forall_mem_cons.mp h
    rw [expressionMatches]
    exact (hq.bind fun _ => (ih hqs).map _).congr List.forall_mem_cons.symm

/-- An expression can be matched when its leaves can. -/
theorem decides_expressionMatch (hleaf : ∀ q, Decides (leafMatch q) (condition q)) (q : Query) :
    Decides (expressionMatch leafMatch q) (∀ leaf ∈ q.leaves, condition leaf) := by
  induction q with
  | splat => exact decides_ok _ (List.forall_mem_nil condition)
  | group q ih => exact ih
  | boost q w ih =>
    rw [expressionMatch]
    exact ih.map _
  | allOf qs ih | anyOf qs ih =>
    rw [expressionMatch, Query.leaves, Query.leavesAll_eq_flatMap]
    refine ((decides_expressionMatches ih).map _).congr ?_
    simp only [List.mem_flatMap]
    constructor
    · rintro h leaf ⟨q, hq, hmem⟩
      exact h q hq leaf hmem
    · intro h q hq leaf hmem
      exact h leaf ⟨q, hq, hmem⟩
  | _ => exact (hleaf _).congr List.forall_mem_singleton.symm

end Expression

/-! ### Clauses -/

theorem decides_fieldMatch (s : Search) (clause : FieldClause) :
    Decides (fieldMatch s clause) clause.IsAcceptable := by
  unfold fieldMatch FieldClause.IsAcceptable
  cases clause.isUnscoped with
  | true => exact (decides_expressionMatch (decides_unscopedLeaf s) clause.query).map _
  | false => exact (decides_expressionMatch (decides_scopedLeaf s _) clause.query).map _

theorem decides_clauseMatches {s : Search} {cs : List Clause} {p : Clause → Prop}
    (h : ∀ c ∈ cs, Decides (clauseMatch s c) (p c)) :
    Decides (clauseMatches s cs) (∀ c ∈ cs, p c) := by
  induction cs with
  | nil => exact decides_ok _ (List.forall_mem_nil p)
  | cons c cs ih =>
    obtain ⟨hc, hcs⟩ := List.forall_mem_cons.mp h
    rw [clauseMatches]
    exact (hc.bind fun _ => (ih hcs).map _).congr List.forall_mem_cons.symm

theorem decides_clauseMatch (s : Search) (c : Clause) :
    Decides (clauseMatch s c) (c.Over FieldClause.IsAcceptable) := by
  induction c with
  | field clause => exact (decides_fieldMatch s clause).congr Clause.over_field_iff.symm
  | allOf cs ih =>
    rw [clauseMatch]
    exact ((decides_clauseMatches ih).map _).congr Clause.over_allOf_iff.symm
  | anyOf cs ih =>
    rw [clauseMatch]
    exact ((decides_clauseMatches ih).map _).congr Clause.over_anyOf_iff.symm

/-- A complement asks its fields for the same expressions. -/
theorem over_isAcceptable_complement_iff (c : Clause) :
    c.complement.Over FieldClause.IsAcceptable ↔ c.Over FieldClause.IsAcceptable := by
  induction c with
  | field clause =>
    rw [Clause.complement, Clause.over_field_iff, Clause.over_field_iff]
    exact Iff.rfl
  | allOf cs ih =>
    rw [Clause.complement, Clause.complementAll_eq_map, Clause.over_anyOf_iff,
      Clause.over_allOf_iff, List.forall_mem_map]
    exact forall₂_congr ih
  | anyOf cs ih =>
    rw [Clause.complement, Clause.complementAll_eq_map, Clause.over_allOf_iff,
      Clause.over_anyOf_iff, List.forall_mem_map]
    exact forall₂_congr ih

/-! ### The wrappings -/

theorem decides_boostConditions (s : Search) (boosts : List Clause) :
    Decides (boostConditions s boosts) (∀ c ∈ boosts, c.Over FieldClause.IsAcceptable) := by
  induction boosts with
  | nil => exact decides_ok _ (List.forall_mem_nil _)
  | cons boost rest ih =>
    rw [boostConditions]
    split
    · have hboost := (decides_clauseMatch s boost.complement).congr
        (over_isAcceptable_complement_iff boost)
      exact (hboost.bind fun _ => ih.map _).congr List.forall_mem_cons.symm
    · exact ((decides_clauseMatch s boost).bind fun _ => ih.map _).congr
        List.forall_mem_cons.symm

theorem isScore_reciprocal_iff {q : Query} (x y z : Scalar) :
    (Query.reciprocal q x y z).IsScore ↔ q.IsScore := by
  refine ⟨fun h => ?_, .reciprocal x y z⟩
  cases h with
  | reciprocal _ _ _ h => exact h

theorem isScore_group_iff {q : Query} : (Query.group q).IsScore ↔ q.IsScore := by
  refine ⟨fun h => ?_, .group⟩
  cases h with
  | group h => exact h

theorem decides_functionSource (bound : List Scalar) (q : Query) :
    Decides (functionSource bound q).1 q.IsScore := by
  induction q generalizing bound with
  | distance field lat lng shape => exact decides_ok _ (.distance field lat lng shape)
  | fieldValue field => exact decides_ok _ (.fieldValue field)
  | reciprocal q x y z ih =>
    have hq := (ih (bound ++ [y, x])).congr (isScore_reciprocal_iff x y z).symm
    rw [functionSource]
    generalize functionSource (bound ++ [y, x]) q = result at hq
    obtain ⟨e | inner, bound'⟩ := result
    · exact hq
    · exact decides_ok _ (hq.ok_iff.mp ⟨inner, rfl⟩)
  | group q ih =>
    have hq := (ih bound).congr isScore_group_iff.symm
    rw [functionSource]
    generalize functionSource bound q = result at hq
    obtain ⟨e | inner, bound'⟩ := result
    · exact hq
    · exact decides_ok _ (hq.ok_iff.mp ⟨inner, rfl⟩)
  | _ => exact decides_refusal _ (by intro h; cases h)

theorem decides_summands (bound : List Scalar) (functions : List BoostFunction) :
    Decides (Script.summands bound functions) (∀ f ∈ functions, f.function.IsScore) := by
  induction functions generalizing bound with
  | nil => exact decides_ok _ (List.forall_mem_nil _)
  | cons f rest ih =>
    have hf := decides_functionSource (bound ++ [f.weight]) f.function
    rw [Script.summands]
    generalize functionSource (bound ++ [f.weight]) f.function = result at hf
    obtain ⟨e | source, bound'⟩ := result
    · obtain ⟨what, rfl⟩ := hf.unsupported e rfl
      refine decides_refusal what fun hall => ?_
      obtain ⟨source, hsource⟩ := hf.ok_iff.mpr (List.forall_mem_cons.mp hall).1
      cases hsource
    · have hscore : f.function.IsScore := hf.ok_iff.mp ⟨source, rfl⟩
      refine ((ih bound').map _).congr ?_
      rw [List.forall_mem_cons, and_iff_right hscore]

theorem decides_withBoostFunctions (s : Search) (condition : Json) :
    Decides (withBoostFunctions s condition) s.HasScores := by
  have hactive : (∀ f ∈ s.activeBoostFunctions, f.function.IsScore) ↔ s.HasScores := by
    simp [Search.activeBoostFunctions, Search.HasScores, BoostFunction.isActive]
  refine Decides.congr ?_ hactive
  rw [withBoostFunctions, Script.ofBoosts, bind_assoc]
  refine ((decides_summands [] s.activeBoostFunctions).bind (q := True) fun found => ?_).congr
    (and_iff_left trivial)
  obtain ⟨_ | ⟨term, terms⟩, bound⟩ := found
  · exact decides_ok _ trivial
  · exact decides_ok _ trivial

theorem decides_ofFunction (q : Query) : Decides (Script.ofFunction q) q.IsScore := by
  have hq := decides_functionSource [] q
  rw [Script.ofFunction]
  generalize functionSource [] q = result at hq
  obtain ⟨e | source, bound⟩ := result
  · obtain ⟨what, rfl⟩ := hq.unsupported e rfl
    refine decides_refusal what fun hscore => ?_
    obtain ⟨source, hsource⟩ := hq.ok_iff.mpr hscore
    cases hsource
  · exact decides_ok _ (hq.ok_iff.mp ⟨source, rfl⟩)

theorem decides_sortEntry (order : SortOrder) :
    Decides (sortEntry order) order.target.IsScript := by
  obtain ⟨target, direction⟩ := order
  cases target with
  | field name => exact decides_ok _ trivial
  | function q =>
    rw [sortEntry]
    dsimp only
    split
    · rename_i hfunction
      exact ((decides_ofFunction q).map _).congr (and_iff_right hfunction).symm
    · rename_i hfunction
      exact decides_refusal _ fun h => hfunction h.1

theorem decides_sortMembers (s : Search) :
    Decides (sortMembers s) (∀ order ∈ s.sort, order.target.IsScript) := by
  unfold sortMembers
  cases s.sort with
  | none => exact decides_ok _ (by simp)
  | some order => exact ((decides_sortEntry order).map _).congr (by simp)

theorem decides_clauseCondition (s : Search) :
    Decides (clauseCondition s) (∀ c ∈ s.clause, c.Over FieldClause.IsAcceptable) := by
  unfold clauseCondition
  cases s.clause with
  | none => exact decides_ok _ (by simp)
  | some clause => exact (decides_clauseMatch s clause).congr (by simp)

theorem decides_querySection (s : Search) :
    Decides (querySection s)
      ((∀ c ∈ s.clause, c.Over FieldClause.IsAcceptable) ∧
        (∀ c ∈ s.boostQueries, c.Over FieldClause.IsAcceptable) ∧ s.HasScores ∧
        ∀ c ∈ s.filters, c.Over FieldClause.IsAcceptable) := by
  rw [querySection_eq]
  refine (decides_clauseCondition s).bind fun clause => ?_
  refine ((decides_boostConditions s s.boostQueries).map _).bind fun raised => ?_
  refine (decides_withBoostFunctions s raised).bind fun scored => ?_
  exact ((decides_clauseMatches fun c _ => decides_clauseMatch s c).map _).map _

theorem decides_body (s : Search) : Decides (body s) s.IsExpressible := by
  refine ((decides_querySection s).bind fun query => (decides_sortMembers s).map _).congr ?_
  constructor
  · rintro ⟨⟨hclause, hboosts, hscores, hfilters⟩, hsort⟩
    exact ⟨hclause, hfilters, hboosts, hscores, hsort⟩
  · intro h
    exact ⟨⟨h.clause, h.boostQueries, h.boostFunctions, h.filters⟩, h.sort⟩

end Structured

/-! ### The flat request -/

namespace Flat

theorem decides_sortKeyText (key : SortKey) : Decides (sortKeyText key) key.IsScoring := by
  cases key with
  | field name => exact decides_ok _ trivial
  | function q =>
    rw [sortKeyText]
    split
    · rename_i hfunction
      exact decides_ok _ hfunction
    · rename_i hfunction
      exact decides_refusal _ hfunction

theorem decides_ofSearch (s : Search) :
    Decides (Params.ofSearch s) (∀ order ∈ s.sort, order.target.IsScoring) := by
  refine Decides.map ?_ _
  unfold sortPairs
  cases s.sort with
  | none => exact decides_ok _ (by simp)
  | some order => exact ((decides_sortKeyText order.target).map _).congr (by simp)

end Flat

/-! ### Both requests -/

open Structured Flat

/-- **A search has a structured request exactly when it is expressible.**  A search that
    has none is told what cannot be expressed.  Boost queries are accepted or refused as
    they stand, although some are complemented first.  A search with a structured request
    also has a flat one. -/
theorem body_succeeds_iff (s : Search) :
    ((∃ b, body s = .ok b) ↔ s.IsExpressible) ∧
      (∀ e, body s = .error e → ∃ what, e = .unsupported what) ∧
      ((∃ conditions, boostConditions s s.boostQueries = .ok conditions) ↔
        ∃ conditions, clauseMatches s s.boostQueries = .ok conditions) ∧
      ((∃ b, body s = .ok b) → ∃ p, Params.ofSearch s = .ok p) := by
  have hbody := decides_body s
  refine ⟨hbody.ok_iff, hbody.unsupported, ?_, ?_⟩
  · have hplain : Decides (clauseMatches s s.boostQueries) _ :=
      decides_clauseMatches fun c _ => decides_clauseMatch s c
    exact (decides_boostConditions s s.boostQueries).ok_iff.trans hplain.ok_iff.symm
  · intro h
    refine (decides_ofSearch s).ok_iff.mpr fun order horder => ?_
    exact ((hbody.ok_iff.mp h).sort order horder).isScoring

/-- **Where the requests agree on scoring functions.**  A search without conditions gets
    both requests or neither exactly when its order is refused outright, or its boost
    functions and its order compute scores all the way down. -/
theorem scores_agree_iff {s : Search} (hclause : s.clause = none) (hfilters : s.filters = [])
    (hboosts : s.boostQueries = []) :
    ((∃ p, Params.ofSearch s = .ok p) ↔ ∃ b, body s = .ok b) ↔
      ((∀ order ∈ s.sort, order.target.IsScoring) →
        s.HasScores ∧ ∀ order ∈ s.sort, order.target.IsScript) := by
  have hstructured : s.IsExpressible ↔
      s.HasScores ∧ ∀ order ∈ s.sort, order.target.IsScript := by
    constructor
    · intro h
      exact ⟨h.boostFunctions, h.sort⟩
    · rintro ⟨hscores, hsort⟩
      exact ⟨by simp [hclause], by simp [hfilters], by simp [hboosts], hscores, hsort⟩
  rw [(decides_ofSearch s).ok_iff, (decides_body s).ok_iff, hstructured]
  constructor
  · exact Iff.mp
  · intro h
    refine ⟨h, ?_⟩
    rintro ⟨-, hsort⟩ order horder
    exact (hsort order horder).isScoring

/-- A search that is ranked by a distance and a field, and refused by neither request. -/
def rankedSearch : Search :=
  { Search.ofIndex "venues" with
    boostFunctions := [⟨.reciprocal (.group (.distanceTo "geo" .zero .one)) .one .one .one, .one⟩,
      ⟨.phraseOf "ignored", .zero⟩]
    sort := some ⟨.function (.reciprocal (.fieldValue "popularity") .one .one .one), .ascending⟩ }

theorem scores_agree_iff_rankedSearch :
    rankedSearch.clause = none ∧ rankedSearch.filters = [] ∧ rankedSearch.boostQueries = [] ∧
      ((∃ p, Params.ofSearch rankedSearch = .ok p) ↔ ∃ b, body rankedSearch = .ok b) := by
  refine ⟨rfl, rfl, rfl, (scores_agree_iff rfl rfl rfl).mpr fun _ => ⟨?_, ?_⟩⟩
  · have hdistance : Query.IsScore
        (.reciprocal (.group (.distanceTo "geo" .zero .one)) .one .one .one) :=
      .reciprocal _ _ _ (.group (.distance _ _ _ _))
    intro f hf hweight
    rcases List.mem_cons.mp hf with rfl | hf
    · exact hdistance
    · obtain rfl := List.mem_singleton.mp hf
      cases hweight
  · rintro order ⟨⟩
    exact ⟨rfl, .reciprocal _ _ _ (.fieldValue _)⟩

/-- A search whose boost function is a phrase. -/
def phraseScoredSearch : Search :=
  { Search.ofIndex "venues" with boostFunctions := [⟨.phraseOf "pizza", ⟨0x4000000000000000⟩⟩] }

/-- The flat request takes a phrase for a boost function.  The structured one does not. -/
theorem flat_alone_accepts_phrase :
    phraseScoredSearch.clause = none ∧ phraseScoredSearch.filters = [] ∧
      phraseScoredSearch.boostQueries = [] ∧
      (Params.ofSearch phraseScoredSearch).map (·.getAll "bf") = .ok ["\"pizza\"^2.0"] ∧
      body phraseScoredSearch = .error (.unsupported (.scriptTerm (.phraseOf "pizza"))) ∧
      ¬ ((∃ p, Params.ofSearch phraseScoredSearch = .ok p) ↔
        ∃ b, body phraseScoredSearch = .ok b) := by
  have hflat : ∃ p, Params.ofSearch phraseScoredSearch = .ok p :=
    (decides_ofSearch phraseScoredSearch).ok_iff.mpr (by rintro order ⟨⟩)
  have hbody : body phraseScoredSearch
      = .error (.unsupported (.scriptTerm (.phraseOf "pizza"))) := by
    decide +kernel
  refine ⟨rfl, rfl, rfl, by decide +kernel, hbody, fun hagree => ?_⟩
  obtain ⟨b, hb⟩ := hagree.mp hflat
  rw [hbody] at hb
  cases hb

end Retrieval

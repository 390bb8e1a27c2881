/-
  Retrieval/Proofs/Escaping.lean
  ==============================
  **Which leaves are escaped.**

  Every value, phrase and text of an expression has a mark of its own that says whether it is
  escaped, and `escaping` lists these marks, wherever the leaves stand.  Two expressions have the
  same content if they differ in their marks at most (`SameContent`).

  Taking escaping off keeps the content and visits every node but one kind: it stops at a
  reciprocal.  What stands in the operand of a reciprocal keeps its marks, so an expression
  without escaped leaves comes out exactly where no operand has one
  (`true_mem_escaping_unescaped_iff`).
-/
import Mathlib.Data.List.Forall2
import Retrieval.Flat.Expression
import Retrieval.Proofs.Denotation

namespace Retrieval

/-! ### Expressions -/

namespace Query

mutual

/-- The marks of the leaves of an expression, in order. -/
def escaping : Query → List Bool
  | .term _ escaped => [escaped]
  | .phrase _ escaped => [escaped]
  | .words _ escaped => [escaped]
  | .group q => escaping q
  | .boost q _ => escaping q
  | .range low high => escaping low ++ escaping high
  | .allOf qs => escapingAll qs
  | .anyOf qs => escapingAll qs
  | .reciprocal q .. => escaping q
  | .splat | .distance .. | .fieldValue _ => []

/-- The marks of the leaves of a list. -/
def escapingAll : List Query → List Bool
  | [] => []
  | q :: qs => escaping q ++ escapingAll qs

end

mutual

/-- The operands of the reciprocals of an expression.  A reciprocal inside of an operand
    belongs to the operand. -/
def operands : Query → List Query
  | .reciprocal q .. => [q]
  | .group q => operands q
  | .boost q _ => operands q
  | .range low high => operands low ++ operands high
  | .allOf qs => operandsAll qs
  | .anyOf qs => operandsAll qs
  | .splat | .term .. | .phrase .. | .words .. | .distance .. | .fieldValue _ => []

/-- The operands of the reciprocals of a list. -/
def operandsAll : List Query → List Query
  | [] => []
  | q :: qs => operands q ++ operandsAll qs

end

/-- The same tree with the same texts and numbers.  Only the marks of the leaves may differ. -/
inductive SameContent : Query → Query → Prop
  | splat : SameContent .splat .splat
  | term (values : List String) (escaped escaped' : Bool) :
    SameContent (.term values escaped) (.term values escaped')
  | phrase (value : String) (escaped escaped' : Bool) :
    SameContent (.phrase value escaped) (.phrase value escaped')
  | words (value : String) (escaped escaped' : Bool) :
    SameContent (.words value escaped) (.words value escaped')
  | group {q q' : Query} : SameContent q q' → SameContent (.group q) (.group q')
  | boost {q q' : Query} (weight : Scalar) :
    SameContent q q' → SameContent (.boost q weight) (.boost q' weight)
  | range {low low' high high' : Query} :
    SameContent low low' → SameContent high high' →
      SameContent (.range low high) (.range low' high')
  | allOf {qs qs' : List Query} :
    List.Forall₂ SameContent qs qs' → SameContent (.allOf qs) (.allOf qs')
  | anyOf {qs qs' : List Query} :
    List.Forall₂ SameContent qs qs' → SameContent (.anyOf qs) (.anyOf qs')
  | distance (field : String) (lat lng : Scalar) (shape : DistanceShape) :
    SameContent (.distance field lat lng shape) (.distance field lat lng shape)
  | reciprocal {q q' : Query} (x y z : Scalar) :
    SameContent q q' → SameContent (.reciprocal q x y z) (.reciprocal q' x y z)
  | fieldValue (field : String) : SameContent (.fieldValue field) (.fieldValue field)

theorem escapingAll_eq_flatMap (qs : List Query) : escapingAll qs = qs.flatMap escaping := by
  induction qs with
  | nil => rfl
  | cons q qs ih => rw [escapingAll, ih, List.flatMap_cons]

theorem operandsAll_eq_flatMap (qs : List Query) : operandsAll qs = qs.flatMap operands := by
  induction qs with
  | nil => rfl
  | cons q qs ih => rw [operandsAll, ih, List.flatMap_cons]

theorem unescapedAll_eq_map (qs : List Query) : unescapedAll qs = qs.map unescaped := by
  induction qs with
  | nil => rfl
  | cons q qs ih => rw [unescapedAll, ih, List.map_cons]

theorem SameContent.refl (q : Query) : q.SameContent q := by
  induction q with
  | splat => exact .splat
  | term values escaped => exact .term values escaped escaped
  | phrase value escaped => exact .phrase value escaped escaped
  | words value escaped => exact .words value escaped escaped
  | group q ih => exact .group ih
  | boost q weight ih => exact .boost weight ih
  | range low high ihlow ihhigh => exact .range ihlow ihhigh
  | allOf qs ih => exact .allOf (List.forall₂_same.mpr ih)
  | anyOf qs ih => exact .anyOf (List.forall₂_same.mpr ih)
  | distance field lat lng shape => exact .distance field lat lng shape
  | reciprocal q x y z ih => exact .reciprocal x y z ih
  | fieldValue field => exact .fieldValue field

theorem sameContent_unescaped (q : Query) : q.SameContent q.unescaped := by
  induction q with
  | term values escaped => exact .term values escaped false
  | phrase value escaped => exact .phrase value escaped false
  | words value escaped => exact .words value escaped false
  | group q ih => exact .group ih
  | boost q weight ih => exact .boost weight ih
  | range low high ihlow ihhigh => exact .range ihlow ihhigh
  | allOf qs ih =>
    rw [unescaped, unescapedAll_eq_map]
    exact .allOf (List.forall₂_map_right_iff.mpr (List.forall₂_same.mpr ih))
  | anyOf qs ih =>
    rw [unescaped, unescapedAll_eq_map]
    exact .anyOf (List.forall₂_map_right_iff.mpr (List.forall₂_same.mpr ih))
  | _ => exact .refl _

theorem unescaped_unescaped (q : Query) : q.unescaped.unescaped = q.unescaped := by
  induction q with
  | group q ih => rw [unescaped, unescaped, ih]
  | boost q weight ih => rw [unescaped, unescaped, ih]
  | range low high ihlow ihhigh => rw [unescaped, unescaped, ihlow, ihhigh]
  | allOf qs ih | anyOf qs ih =>
    rw [unescaped, unescaped, unescapedAll_eq_map, unescapedAll_eq_map, List.map_map]
    exact congrArg _ (List.map_congr_left ih)
  | _ => rfl

/-- The operands of reciprocals stay as they are. -/
theorem operands_unescaped (q : Query) : q.unescaped.operands = q.operands := by
  induction q with
  | group q ih => exact ih
  | boost q weight ih => exact ih
  | range low high ihlow ihhigh => rw [unescaped, operands, operands, ihlow, ihhigh]
  | allOf qs ih | anyOf qs ih =>
    rw [unescaped, operands, operands, unescapedAll_eq_map, operandsAll_eq_flatMap,
      operandsAll_eq_flatMap, List.flatMap_map]
    exact List.flatMap_congr ih
  | _ => rfl

/-- The leaves that are still escaped are the escaped ones of the operands. -/
theorem true_mem_escaping_unescaped_iff (q : Query) :
    true ∈ q.unescaped.escaping ↔ ∃ operand ∈ q.operands, true ∈ operand.escaping := by
  induction q with
  | group q ih => exact ih
  | boost q weight ih => exact ih
  | range low high ihlow ihhigh =>
    rw [unescaped, escaping, operands, List.mem_append, ihlow, ihhigh]
    simp only [List.mem_append, or_and_right, exists_or]
  | allOf qs ih | anyOf qs ih =>
    rw [unescaped, escaping, operands, unescapedAll_eq_map, escapingAll_eq_flatMap,
      operandsAll_eq_flatMap, List.flatMap_map, List.mem_flatMap]
    simp only [List.mem_flatMap]
    constructor
    · rintro ⟨q, hq, hmark⟩
      obtain ⟨operand, hoperand, hescaped⟩ := (ih q hq).mp hmark
      exact ⟨operand, ⟨q, hq, hoperand⟩, hescaped⟩
    · rintro ⟨operand, ⟨q, hq, hoperand⟩, hescaped⟩
      exact ⟨q, hq, (ih q hq).mpr ⟨operand, hoperand, hescaped⟩⟩
  | _ => simp [unescaped, escaping, operands]

end Query

/-! ### Clauses -/

/-- A condition with escaping taken off its expression. -/
def FieldClause.unescaped (clause : FieldClause) : FieldClause :=
  { clause with query := clause.query.unescaped }

namespace Clause

/-- The same tree of conditions on the same fields, whose expressions have the same content. -/
inductive SameContent : Clause → Clause → Prop
  | field (fieldName : String) (included : Bool) {q q' : Query} :
    q.SameContent q' →
      SameContent (.field ⟨fieldName, q, included⟩) (.field ⟨fieldName, q', included⟩)
  | allOf {cs cs' : List Clause} :
    List.Forall₂ SameContent cs cs' → SameContent (.allOf cs) (.allOf cs')
  | anyOf {cs cs' : List Clause} :
    List.Forall₂ SameContent cs cs' → SameContent (.anyOf cs) (.anyOf cs')

theorem unescapedAll_eq_map (cs : List Clause) : unescapedAll cs = cs.map unescaped := by
  induction cs with
  | nil => rfl
  | cons c cs ih => rw [unescapedAll, ih, List.map_cons]

theorem sameContent_unescaped (c : Clause) : c.SameContent c.unescaped := by
  induction c with
  | field clause => exact .field clause.fieldName clause.included clause.query.sameContent_unescaped
  | allOf cs ih =>
    rw [unescaped, unescapedAll_eq_map]
    exact .allOf (List.forall₂_map_right_iff.mpr (List.forall₂_same.mpr ih))
  | anyOf cs ih =>
    rw [unescaped, unescapedAll_eq_map]
    exact .anyOf (List.forall₂_map_right_iff.mpr (List.forall₂_same.mpr ih))

theorem unescaped_unescaped (c : Clause) : c.unescaped.unescaped = c.unescaped := by
  induction c with
  | field clause => rw [unescaped, unescaped, Query.unescaped_unescaped]
  | allOf cs ih | anyOf cs ih =>
    rw [unescaped, unescaped, unescapedAll_eq_map, unescapedAll_eq_map, List.map_map]
    exact congrArg _ (List.map_congr_left ih)

/-- Escaping is taken off the expression of every condition. -/
theorem fields_unescaped (c : Clause) :
    c.unescaped.fields = c.fields.map FieldClause.unescaped := by
  induction c with
  | field clause => rfl
  | allOf cs ih | anyOf cs ih =>
    rw [unescaped, fields, fields, unescapedAll_eq_map, fieldsAll_eq_flatMap,
      fieldsAll_eq_flatMap, List.flatMap_map, List.map_flatMap]
    exact List.flatMap_congr ih

end Clause

/-! ### Taking escaping off -/

/-- **Taking escaping off.**  An expression keeps its content, and so do the operands of its
    reciprocals, marks included.  No leaf is escaped afterwards exactly if no operand has an
    escaped leaf.  A clause is treated so in every condition. -/
theorem unescaped_turns_off_iff (q : Query) (c : Clause) :
    (q.SameContent q.unescaped ∧ q.unescaped.unescaped = q.unescaped ∧
      q.unescaped.operands = q.operands ∧
      (true ∉ q.unescaped.escaping ↔ ∀ operand ∈ q.operands, true ∉ operand.escaping)) ∧
    (c.SameContent c.unescaped ∧ c.unescaped.unescaped = c.unescaped ∧
      c.unescaped.fields = c.fields.map FieldClause.unescaped ∧
      ((∀ clause ∈ c.unescaped.fields, true ∉ clause.query.escaping) ↔
        ∀ clause ∈ c.fields, ∀ operand ∈ clause.query.operands, true ∉ operand.escaping)) := by
  have hquery : ∀ q : Query,
      true ∉ q.unescaped.escaping ↔ ∀ operand ∈ q.operands, true ∉ operand.escaping := by
    intro q
    rw [q.true_mem_escaping_unescaped_iff]
    push Not
    exact Iff.rfl
  refine ⟨⟨q.sameContent_unescaped, q.unescaped_unescaped, q.operands_unescaped, hquery q⟩,
    c.sameContent_unescaped, c.unescaped_unescaped, c.fields_unescaped, ?_⟩
  rw [c.fields_unescaped, List.forall_mem_map]
  exact forall₂_congr fun clause _ => hquery clause.query

/-- The operand of a reciprocal is still escaped, and is written so. -/
theorem operand_still_escaped :
    (Query.reciprocal (.exactly "a-b") .one .one .one).unescaped.escaping = [true] ∧
      Flat.queryText (Query.reciprocal (.exactly "a-b") .one .one .one).unescaped
        = "recip(a\\-b,1.0,1.0,1.0)" := by
  decide +kernel

end Retrieval

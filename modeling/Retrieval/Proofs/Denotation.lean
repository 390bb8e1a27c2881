/-
  Retrieval/Proofs/Denotation.lean
  ================================
  **What expressions and clauses mean.**

  An expression or a clause is a tree of conditions.  Given the truth of its leaves, the
  tree has a truth of its own that belongs to neither request syntax: a conjunction holds
  when every part holds, a disjunction when some part holds, groups and boosts change
  nothing, and a negated field clause holds when its condition does not.  Both request
  syntaxes are measured against this meaning.

  The trees nest through lists, so each type gets an induction principle whose
  hypotheses speak about the members of a list.
-/
import Retrieval.Clause.Basic

namespace Retrieval

/-! ### Induction over trees -/

/-- Induction over expressions, where the parts of a combination are its members. -/
@[elab_as_elim, induction_eliminator]
theorem Query.memberInduction {motive : Query → Prop}
    (splat : motive .splat)
    (term : ∀ values escaped, motive (.term values escaped))
    (phrase : ∀ value escaped, motive (.phrase value escaped))
    (words : ∀ value escaped, motive (.words value escaped))
    (group : ∀ query, motive query → motive (.group query))
    (boost : ∀ query weight, motive query → motive (.boost query weight))
    (range : ∀ low high, motive low → motive high → motive (.range low high))
    (allOf : ∀ queries, (∀ query ∈ queries, motive query) → motive (.allOf queries))
    (anyOf : ∀ queries, (∀ query ∈ queries, motive query) → motive (.anyOf queries))
    (distance : ∀ field lat lng shape, motive (.distance field lat lng shape))
    (reciprocal : ∀ query x y z, motive query → motive (.reciprocal query x y z))
    (fieldValue : ∀ field, motive (.fieldValue field))
    (query : Query) : motive query :=
  @Query.rec motive (fun queries => ∀ query ∈ queries, motive query)
    splat term phrase words group boost range allOf anyOf distance reciprocal fieldValue
    (List.forall_mem_nil _) (fun _ _ head tail => List.forall_mem_cons.mpr ⟨head, tail⟩) query

/-- Induction over clauses, where the parts of a combination are its members. -/
@[elab_as_elim, induction_eliminator]
theorem Clause.memberInduction {motive : Clause → Prop}
    (field : ∀ clause, motive (.field clause))
    (allOf : ∀ clauses, (∀ clause ∈ clauses, motive clause) → motive (.allOf clauses))
    (anyOf : ∀ clauses, (∀ clause ∈ clauses, motive clause) → motive (.anyOf clauses))
    (clause : Clause) : motive clause :=
  @Clause.rec motive (fun clauses => ∀ clause ∈ clauses, motive clause) field allOf anyOf
    (List.forall_mem_nil _) (fun _ _ head tail => List.forall_mem_cons.mpr ⟨head, tail⟩) clause

/-! ### Expressions -/

namespace Query

mutual

/-- Whether an expression holds, given which of its leaves do.  A leaf is an expression
    that is no combination, group or boost, and `splat` always holds. -/
def Holds (leaf : Query → Prop) : Query → Prop
  | .splat => True
  | .group q => Holds leaf q
  | .boost q _ => Holds leaf q
  | .allOf qs => AllHold leaf qs
  | .anyOf qs => SomeHolds leaf qs
  | q => leaf q

/-- Whether every expression of a list holds. -/
def AllHold (leaf : Query → Prop) : List Query → Prop
  | [] => True
  | q :: qs => Holds leaf q ∧ AllHold leaf qs

/-- Whether some expression of a list holds. -/
def SomeHolds (leaf : Query → Prop) : List Query → Prop
  | [] => False
  | q :: qs => Holds leaf q ∨ SomeHolds leaf qs

end

variable (leaf : Query → Prop)

theorem allHold_iff (qs : List Query) : AllHold leaf qs ↔ ∀ q ∈ qs, q.Holds leaf := by
  induction qs with
  | nil => simp [AllHold]
  | cons q qs ih => simp [AllHold, ih]

theorem someHolds_iff (qs : List Query) : SomeHolds leaf qs ↔ ∃ q ∈ qs, q.Holds leaf := by
  induction qs with
  | nil => simp [SomeHolds]
  | cons q qs ih => simp [SomeHolds, ih]

@[simp] theorem holds_splat : Query.splat.Holds leaf := trivial

@[simp] theorem holds_group (q : Query) : (Query.group q).Holds leaf ↔ q.Holds leaf := Iff.rfl

@[simp] theorem holds_boost (q : Query) (w : Scalar) :
    (Query.boost q w).Holds leaf ↔ q.Holds leaf := Iff.rfl

@[simp] theorem holds_allOf (qs : List Query) :
    (Query.allOf qs).Holds leaf ↔ ∀ q ∈ qs, q.Holds leaf := allHold_iff leaf qs

@[simp] theorem holds_anyOf (qs : List Query) :
    (Query.anyOf qs).Holds leaf ↔ ∃ q ∈ qs, q.Holds leaf := someHolds_iff leaf qs

@[simp] theorem holds_term (values : List String) (escaped : Bool) :
    (Query.term values escaped).Holds leaf ↔ leaf (.term values escaped) := Iff.rfl

mutual

/-- The leaves of an expression, in order and with repetitions. -/
def leaves : Query → List Query
  | .splat => []
  | .group q => leaves q
  | .boost q _ => leaves q
  | .allOf qs => leavesAll qs
  | .anyOf qs => leavesAll qs
  | q => [q]

/-- The leaves of a list. -/
def leavesAll : List Query → List Query
  | [] => []
  | q :: qs => leaves q ++ leavesAll qs

end

theorem leavesAll_eq_flatMap (qs : List Query) : leavesAll qs = qs.flatMap leaves := by
  induction qs with
  | nil => rfl
  | cons q qs ih => rw [leavesAll, ih, List.flatMap_cons]

/-- Whether an expression holds depends on its leaves only. -/
theorem holds_congr {leaf leaf' : Query → Prop} {q : Query}
    (h : ∀ l ∈ q.leaves, leaf l ↔ leaf' l) : q.Holds leaf ↔ q.Holds leaf' := by
  induction q with
  | splat => exact Iff.rfl
  | group q ih => exact ih h
  | boost q weight ih => exact ih h
  | allOf qs ih =>
    rw [leaves, leavesAll_eq_flatMap] at h
    rw [holds_allOf, holds_allOf]
    exact forall₂_congr fun q hq =>
      ih q hq fun l hl => h l (List.mem_flatMap.mpr ⟨q, hq, hl⟩)
  | anyOf qs ih =>
    rw [leaves, leavesAll_eq_flatMap] at h
    rw [holds_anyOf, holds_anyOf]
    exact exists_congr fun q => and_congr_right fun hq =>
      ih q hq fun l hl => h l (List.mem_flatMap.mpr ⟨q, hq, hl⟩)
  | _ => exact h _ (List.mem_singleton_self _)

end Query

/-! ### Clauses -/

/-- Whether a condition on one field holds, given which expressions which fields match. -/
def FieldClause.Holds (fieldMatches : String → Query → Prop) (clause : FieldClause) : Prop :=
  if clause.included then fieldMatches clause.fieldName clause.query
  else ¬ fieldMatches clause.fieldName clause.query

namespace Clause

mutual

/-- Whether a clause holds, given which expressions which fields match. -/
def Holds (fieldMatches : String → Query → Prop) : Clause → Prop
  | .field clause => clause.Holds fieldMatches
  | .allOf clauses => AllHold fieldMatches clauses
  | .anyOf clauses => SomeHolds fieldMatches clauses

/-- Whether every clause of a list holds. -/
def AllHold (fieldMatches : String → Query → Prop) : List Clause → Prop
  | [] => True
  | c :: cs => Holds fieldMatches c ∧ AllHold fieldMatches cs

/-- Whether some clause of a list holds. -/
def SomeHolds (fieldMatches : String → Query → Prop) : List Clause → Prop
  | [] => False
  | c :: cs => Holds fieldMatches c ∨ SomeHolds fieldMatches cs

end

variable (fieldMatches : String → Query → Prop)

theorem allHold_iff (cs : List Clause) :
    AllHold fieldMatches cs ↔ ∀ c ∈ cs, c.Holds fieldMatches := by
  induction cs with
  | nil => simp [AllHold]
  | cons c cs ih => simp [AllHold, ih]

theorem someHolds_iff (cs : List Clause) :
    SomeHolds fieldMatches cs ↔ ∃ c ∈ cs, c.Holds fieldMatches := by
  induction cs with
  | nil => simp [SomeHolds]
  | cons c cs ih => simp [SomeHolds, ih]

@[simp] theorem holds_field (clause : FieldClause) :
    (Clause.field clause).Holds fieldMatches ↔ clause.Holds fieldMatches := Iff.rfl

@[simp] theorem holds_allOf (cs : List Clause) :
    (Clause.allOf cs).Holds fieldMatches ↔ ∀ c ∈ cs, c.Holds fieldMatches :=
  allHold_iff fieldMatches cs

@[simp] theorem holds_anyOf (cs : List Clause) :
    (Clause.anyOf cs).Holds fieldMatches ↔ ∃ c ∈ cs, c.Holds fieldMatches :=
  someHolds_iff fieldMatches cs

theorem complementAll_eq_map (cs : List Clause) : complementAll cs = cs.map complement := by
  induction cs with
  | nil => rfl
  | cons c cs ih => rw [complementAll, ih, List.map_cons]

mutual

/-- The conditions of a tree, in order and with repetitions. -/
def fields : Clause → List FieldClause
  | .field clause => [clause]
  | .allOf clauses => fieldsAll clauses
  | .anyOf clauses => fieldsAll clauses

/-- The conditions of a list. -/
def fieldsAll : List Clause → List FieldClause
  | [] => []
  | c :: cs => fields c ++ fieldsAll cs

end

theorem fieldsAll_eq_flatMap (cs : List Clause) : fieldsAll cs = cs.flatMap fields := by
  induction cs with
  | nil => rfl
  | cons c cs ih => rw [fieldsAll, ih, List.flatMap_cons]

end Clause

end Retrieval

/-
  Retrieval/Proofs/Complement.lean
  ================================
  **Negated conditions and complements.**

  A complement flips every condition of a tree and lets AND and OR change places.  By the laws
  of De Morgan it holds exactly when the tree does not (`holds_complement_iff`), however the tree
  mixes conditions that are negated with others.  It keeps every condition on its field and in
  its place (`fields_complement`), and a second complement takes the first one back.  Whether a
  tree has a negated condition at all can be read off its conditions (`hasNegation_iff`).
-/
import Mathlib.Logic.Basic
import Retrieval.Proofs.FieldNames

namespace Retrieval.Clause

/-! ### Complements -/

variable (fieldMatches : String → Query → Prop)

theorem holds_flip_iff (clause : FieldClause) :
    clause.flip.Holds fieldMatches ↔ ¬ clause.Holds fieldMatches := by
  obtain ⟨fieldName, query, included⟩ := clause
  cases included with
  | true => exact Iff.rfl
  | false => exact not_not.symm

theorem holds_complement_iff (c : Clause) :
    c.complement.Holds fieldMatches ↔ ¬ c.Holds fieldMatches := by
  induction c with
  | field clause => exact holds_flip_iff fieldMatches clause
  | allOf cs ih =>
    rw [complement, complementAll_eq_map, holds_anyOf, holds_allOf]
    constructor
    · rintro ⟨_, hmem, hc⟩ hall
      obtain ⟨c, hcs, rfl⟩ := List.mem_map.mp hmem
      exact (ih c hcs).mp hc (hall c hcs)
    · intro hall
      obtain ⟨c, hcs, hc⟩ : ∃ c, ∃ _ : c ∈ cs, ¬ c.Holds fieldMatches := not_forall₂.mp hall
      exact ⟨c.complement, List.mem_map_of_mem hcs, (ih c hcs).mpr hc⟩
  | anyOf cs ih =>
    rw [complement, complementAll_eq_map, holds_allOf, holds_anyOf, List.forall_mem_map]
    constructor
    · rintro hall ⟨c, hcs, hc⟩
      exact (ih c hcs).mp (hall c hcs) hc
    · intro hnone c hcs
      exact (ih c hcs).mpr fun hc => hnone ⟨c, hcs, hc⟩

/-! ### Flipped conditions -/

theorem complement_complement (c : Clause) : c.complement.complement = c := by
  induction c with
  | field clause => simp [complement, FieldClause.flip]
  | allOf cs ih | anyOf cs ih =>
    have hmap : cs.map (complement ∘ complement) = cs :=
      (List.map_congr_left ih).trans (List.map_id cs)
    rw [complement, complement, complementAll_eq_map, complementAll_eq_map, List.map_map, hmap]

/-- The conditions stay in their places, and every one is flipped. -/
theorem fields_complement (c : Clause) : c.complement.fields = c.fields.map FieldClause.flip := by
  induction c with
  | field clause => rfl
  | allOf cs ih | anyOf cs ih =>
    rw [complement, fields, fields, complementAll_eq_map, fieldsAll_eq_flatMap,
      fieldsAll_eq_flatMap, List.flatMap_map, List.map_flatMap]
    exact List.flatMap_congr ih

/-- **A complement is a negation.**  It holds exactly when the tree does not, whatever the fields
    match.  Taken twice it gives the tree back, and it is about the same fields. -/
theorem complement_is_negation (c : Clause) :
    (c.complement.Holds fieldMatches ↔ ¬ c.Holds fieldMatches) ∧
      c.complement.complement = c ∧ c.complement.fieldNames = c.fieldNames := by
  refine ⟨holds_complement_iff fieldMatches c, c.complement_complement, ?_⟩
  apply fieldNames_congr
  rw [fields_complement, List.map_map]
  rfl

/-! ### Negated conditions -/

/-- Some condition of the tree is negated. -/
def IsNegative (c : Clause) : Prop := ∃ clause ∈ c.fields, clause.included = false

instance (c : Clause) : Decidable c.IsNegative :=
  inferInstanceAs (Decidable (∃ clause ∈ c.fields, clause.included = false))

theorem anyNegation_eq_any (cs : List Clause) : anyNegation cs = cs.any hasNegation := by
  induction cs with
  | nil => rfl
  | cons c cs ih => rw [anyNegation, ih, List.any_cons]

theorem isNegative_combination {cs : List Clause} :
    (∃ clause ∈ fieldsAll cs, clause.included = false) ↔ ∃ c ∈ cs, c.IsNegative := by
  simp only [fieldsAll_eq_flatMap, List.mem_flatMap, IsNegative]
  constructor
  · rintro ⟨clause, ⟨c, hc, hmem⟩, hclause⟩
    exact ⟨c, hc, clause, hmem, hclause⟩
  · rintro ⟨c, hc, clause, hmem, hclause⟩
    exact ⟨clause, ⟨c, hc, hmem⟩, hclause⟩

theorem hasNegation_iff (c : Clause) : c.hasNegation = true ↔ c.IsNegative := by
  induction c with
  | field clause => simp [hasNegation, IsNegative, fields]
  | allOf cs ih | anyOf cs ih =>
    rw [hasNegation, anyNegation_eq_any, List.any_eq_true, IsNegative, fields,
      isNegative_combination]
    exact exists_congr fun c => and_congr_right (ih c)

theorem hasNegation_eq_decide (c : Clause) : c.hasNegation = decide c.IsNegative := by
  rw [Bool.eq_iff_iff, c.hasNegation_iff, decide_eq_true_iff]

end Retrieval.Clause

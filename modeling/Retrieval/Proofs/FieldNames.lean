/-
  Retrieval/Proofs/FieldNames.lean
  ================================
  **The named fields of a clause.**

  The names of a tree are collected by walking over it from left to right with a list of the
  names that have been seen so far.  Two observations take the tree out of this walk:

    * it visits the conditions in their order and nothing else, so it is a fold of one step over
      the names that the conditions mention (`collectNames_eq_foldl`);
    * from nothing, the fold keeps the first occurrence of every name (`foldl_see_nil`), and from
      the names of an earlier walk it adds those that are new (`foldl_see`).

  The names of a clause therefore depend on the fields of its conditions alone, and not on how
  the conditions are combined, on what they ask for or on which of them are negated
  (`fieldNames_congr`).
-/
import Mathlib.Data.List.Induction
import Retrieval.Proofs.Escaping

namespace Retrieval.Clause

/-! ### One name after the other -/

/-- The names that have been seen after one more name. -/
def see (seen : List String) (name : String) : List String :=
  if seen.contains name then seen else seen ++ [name]

theorem see_of_mem {seen : List String} {name : String} (h : name ∈ seen) :
    see seen name = seen := by
  rw [see, if_pos (List.contains_iff_mem.mpr h)]

theorem see_of_not_mem {seen : List String} {name : String} (h : name ∉ seen) :
    see seen name = seen ++ [name] := by
  rw [see, if_neg (mt List.contains_iff_mem.mp h)]

/-- Without a past, every name is kept where it occurs first. -/
theorem foldl_see_nil (names : List String) : names.foldl see [] = names.eraseDups := by
  induction names using List.reverseRecOn with
  | nil => rfl
  | append_singleton names name ih =>
    rw [List.foldl_concat, ih, List.eraseDups_append]
    by_cases h : name ∈ names
    · rw [see_of_mem (List.mem_eraseDups.mpr h)]
      simp [List.removeAll, h]
    · rw [see_of_not_mem (mt List.mem_eraseDups.mp h)]
      simp [List.removeAll, List.eraseDups_cons, h]

/-- With a past, the names that it does not hold are added. -/
theorem foldl_see (seen names : List String) :
    names.foldl see seen = seen ++ (names.foldl see []).filter (· ∉ seen) := by
  induction names using List.reverseRecOn with
  | nil => simp
  | append_singleton names name ih =>
    rw [List.foldl_concat, List.foldl_concat, ih]
    -- The last name may have been seen in this walk, and it may have been seen before it.
    by_cases hwalk : name ∈ names.foldl see []
    · rw [see_of_mem hwalk]
      by_cases hseen : name ∈ seen
      · exact see_of_mem (List.mem_append_left _ hseen)
      · apply see_of_mem
        simp [hwalk, hseen]
    · rw [see_of_not_mem hwalk]
      by_cases hseen : name ∈ seen
      · rw [see_of_mem (List.mem_append_left _ hseen)]
        simp [hseen]
      · rw [see_of_not_mem (by simp [hwalk, hseen])]
        simp [hseen]

/-! ### The names of a tree -/

/-- The fields that the conditions of a tree name, from left to right and with repetitions. -/
def mentioned (c : Clause) : List String :=
  (c.fields.map FieldClause.fieldName).filter fun name => !name.isEmpty

theorem collectAllNames_eq_foldl (seen : List String) (cs : List Clause) :
    collectAllNames seen cs = cs.foldl collectNames seen := by
  induction cs generalizing seen with
  | nil => rfl
  | cons c cs ih => rw [collectAllNames, ih, List.foldl_cons]

theorem mentioned_combination (cs : List Clause) :
    ((fieldsAll cs).map FieldClause.fieldName).filter (fun name => !name.isEmpty)
      = cs.flatMap mentioned := by
  rw [fieldsAll_eq_flatMap, List.map_flatMap, List.filter_flatMap]
  rfl

theorem collectNames_eq_foldl (seen : List String) (c : Clause) :
    collectNames seen c = c.mentioned.foldl see seen := by
  induction c generalizing seen with
  | field clause =>
    cases hempty : clause.fieldName.isEmpty <;>
      simp [collectNames, mentioned, fields, FieldClause.isUnscoped, see, hempty]
  | allOf cs ih | anyOf cs ih =>
    rw [collectNames, collectAllNames_eq_foldl, mentioned, fields, mentioned_combination,
      List.foldl_flatMap]
    exact List.foldl_ext _ _ _ fun seen c hc => ih c hc seen

theorem fieldNames_eq_eraseDups (c : Clause) : c.fieldNames = c.mentioned.eraseDups := by
  rw [fieldNames, collectNames_eq_foldl, foldl_see_nil]

/-- The names depend on the fields of the conditions only. -/
theorem fieldNames_congr {c d : Clause}
    (h : c.fields.map FieldClause.fieldName = d.fields.map FieldClause.fieldName) :
    c.fieldNames = d.fieldNames := by
  rw [fieldNames_eq_eraseDups, fieldNames_eq_eraseDups, mentioned, mentioned, h]

/-! ### Operations on trees -/

theorem fields_and (a b : Clause) : (a.and b).fields = a.fields ++ b.fields := by
  cases a <;> simp [Clause.and, fields, fieldsAll_eq_flatMap]

theorem fields_or (a b : Clause) : (a.or b).fields = a.fields ++ b.fields := by
  cases a <;> simp [Clause.or, fields, fieldsAll_eq_flatMap]

/-- What stands to the right adds the names that are new. -/
theorem fieldNames_of_fields_append {a b c : Clause} (h : c.fields = a.fields ++ b.fields) :
    c.fieldNames = a.fieldNames ++ b.fieldNames.filter (· ∉ a.fieldNames) := by
  have hmentioned : c.mentioned = a.mentioned ++ b.mentioned := by
    rw [mentioned, h, List.map_append, List.filter_append]
    rfl
  simp only [fieldNames, collectNames_eq_foldl]
  rw [hmentioned, List.foldl_append, foldl_see]

/-- **The names of a clause.**  They are the names that its conditions mention, each where it
    occurs first.  Negating, boosting and taking escaping off leave them as they are, and a
    combination of two clauses adds to the names of the first those of the second that are
    new. -/
theorem fieldNames_in_first_seen_order (a b : Clause) (weight : Scalar) :
    a.fieldNames = a.mentioned.eraseDups ∧
    a.negate.fieldNames = a.fieldNames ∧
    a.unescaped.fieldNames = a.fieldNames ∧
    (a.boost weight).fieldNames = a.fieldNames ∧
    (a.and b).fieldNames = a.fieldNames ++ b.fieldNames.filter (· ∉ a.fieldNames) ∧
    (a.or b).fieldNames = a.fieldNames ++ b.fieldNames.filter (· ∉ a.fieldNames) := by
  refine ⟨a.fieldNames_eq_eraseDups, ?_, ?_, ?_, fieldNames_of_fields_append (fields_and a b),
    fieldNames_of_fields_append (fields_or a b)⟩
  · apply fieldNames_congr
    cases a <;> rfl
  · apply fieldNames_congr
    rw [fields_unescaped, List.map_map]
    rfl
  · apply fieldNames_congr
    cases a <;> rfl

end Retrieval.Clause

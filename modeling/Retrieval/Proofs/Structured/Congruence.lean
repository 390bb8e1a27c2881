/-
  Retrieval/Proofs/Structured/Congruence.lean
  ===========================================
  **What a query section depends on.**

  A clause looks at the search around it through its field clauses alone
  (`clauseMatch_congr`).  Two searches in which field clauses have the same conditions
  therefore have the same query section as soon as the clauses, the circle and the active
  boost functions in them are the same.
-/
import Retrieval.Proofs.Denotation
import Retrieval.Proofs.Structured.Assembly

namespace Retrieval.Structured

theorem clauseMatches_congr {s s' : Search} {cs : List Clause}
    (h : ∀ c ∈ cs, clauseMatch s c = clauseMatch s' c) :
    clauseMatches s cs = clauseMatches s' cs := by
  induction cs with
  | nil => rfl
  | cons c cs ih =>
    obtain ⟨hc, hcs⟩ := List.forall_mem_cons.mp h
    rw [clauseMatches, clauseMatches, hc, ih hcs]

section Congruence

variable {s s' : Search} (hfields : fieldMatch s = fieldMatch s')
include hfields

/-- A clause looks at a search through its fields alone. -/
theorem clauseMatch_congr (c : Clause) : clauseMatch s c = clauseMatch s' c := by
  induction c with
  | field clause => rw [clauseMatch, clauseMatch, hfields]
  | allOf cs ih => rw [clauseMatch, clauseMatch, clauseMatches_congr ih]
  | anyOf cs ih => rw [clauseMatch, clauseMatch, clauseMatches_congr ih]

theorem boostConditions_congr (boosts : List Clause) :
    boostConditions s boosts = boostConditions s' boosts := by
  induction boosts with
  | nil => rfl
  | cons boost boosts ih =>
    unfold boostConditions
    rw [ih, clauseMatch_congr hfields, clauseMatch_congr hfields]

theorem querySection_congr (hclause : s.clause = s'.clause) (hfilters : s.filters = s'.filters)
    (hspatial : s.spatial = s'.spatial) (hqueries : s.boostQueries = s'.boostQueries)
    (hfunctions : s.activeBoostFunctions = s'.activeBoostFunctions) :
    querySection s = querySection s' := by
  have hcondition : clauseCondition s = clauseCondition s' := by
    unfold clauseCondition
    rw [hclause]
    split
    · exact clauseMatch_congr hfields _
    · rfl
  rw [querySection_eq, querySection_eq, hcondition]
  unfold withBoostQueries withBoostFunctions filterConditions
  rw [hqueries, boostConditions_congr hfields, hfunctions, hspatial, hfilters,
    clauseMatches_congr fun c _ => clauseMatch_congr hfields c]

end Congruence

end Retrieval.Structured

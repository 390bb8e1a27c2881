/-
  Retrieval/Proofs/Structured/Demotion.lean
  =========================================
  **Boost queries with a negation.**

  A boost query without a negated condition is a preference: it stands in the `should` of a
  `bool` around the condition, where it need not hold.  One with a negated condition demotes.
  Its complement stands in the negative part of a `boosting` object, and this part matches a
  document as soon as one of the complements does (`matches_demotions_iff`).  A complement
  holds exactly when its clause does not, so the documents that are demoted are the ones that
  fail such a boost query.
-/
import Retrieval.Proofs.Complement
import Retrieval.Proofs.Structured.Preservation

namespace Retrieval.Structured

open Json

theorem filter_hasNegation (boosts : List Clause) :
    boosts.filter Clause.hasNegation = boosts.filter fun c => c.IsNegative :=
  List.filter_congr fun c _ => c.hasNegation_eq_decide

theorem filter_not_hasNegation (boosts : List Clause) :
    (boosts.filter fun c => !c.hasNegation) = boosts.filter fun c => ¬ c.IsNegative := by
  refine List.filter_congr fun c _ => ?_
  rw [c.hasNegation_eq_decide, decide_not]

/-- Some complement matches exactly when some clause fails. -/
theorem matches_demotions_iff (leaf : Json → Prop) {s : Search} {boosts : List Clause}
    {demoted : List Json}
    (h : List.Forall₂ (fun c j => clauseMatch s c.complement = .ok j)
      (boosts.filter fun c => c.IsNegative) demoted) :
    Matches leaf (atLeastOne demoted) ↔
      ∃ c ∈ boosts, c.IsNegative ∧ ¬ c.Holds (FieldMatches leaf s) := by
  have hcomplement : ∀ c ∈ boosts.filter fun c => c.IsNegative, ∀ j,
      clauseMatch s c.complement = .ok j →
        (Matches leaf j ↔ ¬ c.Holds (FieldMatches leaf s)) := by
    intro c _ j hj
    rw [matches_clauseMatch leaf c.complement j hj, Clause.holds_complement_iff]
  rw [matches_atLeastOne, (matches_parts leaf h hcomplement).2]
  simp only [List.mem_filter, decide_eq_true_eq, and_assoc]

/-- **Boost queries with a negation demote the documents that fail them.**  The ones without a
    negation stand around the condition, in their order, as alternatives that need not hold.
    If some of them have a negated condition, the whole is a `boosting` object whose negative
    part matches the documents that fail one of these, and otherwise there is none. -/
theorem boost_queries_demote_iff {s : Search} {condition result : Json}
    (h : withBoostQueries s condition = .ok result) :
    ∃ preferred raised,
      List.Forall₂ (fun c j => clauseMatch s c = .ok j)
        (s.boostQueries.filter fun c => ¬ c.IsNegative) preferred ∧
      (raised = if preferred = [] then condition
        else single "bool" (record
          [("must", .array [condition]), ("should", .array preferred)])) ∧
      (∀ leaf, Matches leaf raised ↔ Matches leaf condition) ∧
      ((∃ c ∈ s.boostQueries, c.IsNegative) →
        ∃ negative,
          result = single "boosting" (record [("positive", raised), ("negative", negative),
            ("negative_boost", ofScalar demotion)]) ∧
          ∀ {δ : Type} (M : Json → δ → Prop) (d : δ), Matches (M · d) negative ↔
            ∃ c ∈ s.boostQueries, c.IsNegative ∧ ¬ c.Holds (FieldMatches (M · d) s)) ∧
      ((∀ c ∈ s.boostQueries, ¬ c.IsNegative) → result = raised) := by
  obtain ⟨preferred, demoted, hconditions, hresult⟩ := withBoostQueries_eq_ok_iff.mp h
  obtain ⟨hpreferred, hdemoted⟩ := boostConditions_eq_ok_iff.mp hconditions
  rw [filter_not_hasNegation] at hpreferred
  rw [filter_hasNegation] at hdemoted
  have hempty : demoted = [] ↔ ∀ c ∈ s.boostQueries, ¬ c.IsNegative := by
    rw [← List.length_eq_zero_iff, ← hdemoted.length_eq, List.length_eq_zero_iff,
      List.filter_eq_nil_iff]
    simp only [decide_eq_true_eq]
  refine ⟨preferred, if preferred = [] then condition else preferring condition preferred,
    hpreferred, rfl, ?_, ?_, ?_⟩
  · intro leaf
    split
    · exact Iff.rfl
    · exact matches_preferring leaf condition preferred
  · rintro ⟨c, hc, hnegative⟩
    have hne : demoted ≠ [] := fun hnil => hempty.mp hnil c hc hnegative
    refine ⟨atLeastOne demoted, ?_, fun M d => matches_demotions_iff _ hdemoted⟩
    rw [← hresult]
    simp only [List.isEmpty_iff, hne, if_false]
    rfl
  · intro hnone
    rw [← hresult]
    simp only [List.isEmpty_iff, hempty.mpr hnone, if_true]

/-- A search whose boost queries mix negated conditions with others, in combinations and
    alone. -/
def mixedBoostSearch : Search :=
  { Search.ofIndex "venues" with
    boostQueries := [
      .allOf [.field (.including "city" (.exactly "nyc")),
        .anyOf [.field (.excluding "name" (.phraseOf "closed")),
          .field (.including "tags" (.oneOf ["a", "b"]))]],
      .field (.including "tags" (.exactly "pizza")),
      .field (.excluding "city" (.exactly "la"))] }

theorem boost_queries_demote_iff_mixedBoostSearch :
    ∃ result raised negative, withBoostQueries mixedBoostSearch matchAll = .ok result ∧
      (∃ c ∈ mixedBoostSearch.boostQueries, c.IsNegative) ∧
      result = single "boosting" (record [("positive", raised), ("negative", negative),
        ("negative_boost", ofScalar demotion)]) ∧
      ∀ {δ : Type} (M : Json → δ → Prop) (d : δ), Matches (M · d) negative ↔
        ∃ c ∈ mixedBoostSearch.boostQueries,
          c.IsNegative ∧ ¬ c.Holds (FieldMatches (M · d) mixedBoostSearch) := by
  have hok : (withBoostQueries mixedBoostSearch matchAll).toOption.isSome = true := by
    decide +kernel
  have hnegative : ∃ c ∈ mixedBoostSearch.boostQueries, c.IsNegative := by decide
  cases h : withBoostQueries mixedBoostSearch matchAll with
  | error e =>
    rw [h] at hok
    cases hok
  | ok result =>
    obtain ⟨-, raised, -, -, -, hdemoting, -⟩ := boost_queries_demote_iff h
    obtain ⟨negative, hresult, hmatches⟩ := hdemoting hnegative
    exact ⟨result, raised, negative, rfl, hnegative, hresult, hmatches⟩

end Retrieval.Structured

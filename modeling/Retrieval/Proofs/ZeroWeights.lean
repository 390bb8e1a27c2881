/-
  Retrieval/Proofs/ZeroWeights.lean
  =================================
  **Weights of zero.**

  A field, a phrase boost or a boost function of weight zero stays in its search, so that
  the search can be shown as it was put together, and no request may show it.  Both
  compilers read these lists through the active entries alone.  A search from which the
  other entries are taken out has the same active entries, and so it has the same requests
  and is refused with the same failure.
-/
import Retrieval.Flat.Params
import Retrieval.Proofs.Structured.Congruence

namespace Retrieval

namespace Scalar

def negativeZero : Scalar := ⟨0x8000000000000000⟩

/-- Two bit patterns are zeros. -/
theorem isZero_iff (w : Scalar) : w.isZero = true ↔ w = zero ∨ w = negativeZero := by
  obtain ⟨bits⟩ := w
  have hbits : bits.toNat < 2 ^ 64 := bits.toNat_lt
  have hsign : Nat.pow 2 63 = 9223372036854775808 := rfl
  simp only [isZero, zero, negativeZero, Scalar.mk.injEq, ← UInt64.toNat_inj, beq_iff_eq,
    UInt64.toNat_ofNat, hsign]
  omega

end Scalar

namespace Search

/-- The search without its entries of weight zero, of either sign. -/
def withoutZeroWeights (s : Search) : Search :=
  let keeps (weight : Scalar) : Bool := weight ≠ .zero ∧ weight ≠ .negativeZero
  { s with
    queryFields := s.queryFields.filter fun field => keeps field.weight
    phraseBoosts := s.phraseBoosts.filter fun boost => keeps boost.field.weight
    boostFunctions := s.boostFunctions.filter fun f => keeps f.weight }

theorem withoutZeroWeights_eq (s : Search) : s.withoutZeroWeights =
    { s with
      queryFields := s.activeQueryFields
      phraseBoosts := s.activePhraseBoosts
      boostFunctions := s.activeBoostFunctions } := by
  have hkeeps : ∀ w : Scalar, decide (w ≠ .zero ∧ w ≠ .negativeZero) = !w.isZero := by
    intro w
    rw [Bool.eq_iff_iff, decide_eq_true_iff, Bool.not_eq_true', ← Bool.not_eq_true, w.isZero_iff,
      not_or]
  unfold withoutZeroWeights
  simp only [hkeeps]
  rfl

@[simp] theorem activeQueryFields_withoutZeroWeights (s : Search) :
    s.withoutZeroWeights.activeQueryFields = s.activeQueryFields := by
  simp [withoutZeroWeights_eq, activeQueryFields]

@[simp] theorem activePhraseBoosts_withoutZeroWeights (s : Search) :
    s.withoutZeroWeights.activePhraseBoosts = s.activePhraseBoosts := by
  simp [withoutZeroWeights_eq, activePhraseBoosts]

@[simp] theorem activeBoostFunctions_withoutZeroWeights (s : Search) :
    s.withoutZeroWeights.activeBoostFunctions = s.activeBoostFunctions := by
  simp [withoutZeroWeights_eq, activeBoostFunctions]

theorem highlightFields_withoutZeroWeights (s : Search) :
    s.withoutZeroWeights.highlightFields = s.highlightFields := by
  unfold highlightFields
  rw [activeQueryFields_withoutZeroWeights]
  rfl

end Search

/-! ### Flat requests -/

namespace Flat

theorem queryFieldPairs_withoutZeroWeights (s : Search) :
    queryFieldPairs s.withoutZeroWeights = queryFieldPairs s := by
  rw [queryFieldPairs, queryFieldPairs, Search.activeQueryFields_withoutZeroWeights]

theorem scorePairs_withoutZeroWeights (s : Search) :
    scorePairs s.withoutZeroWeights = scorePairs s := by
  rw [scorePairs, scorePairs, Search.activePhraseBoosts_withoutZeroWeights,
    Search.activeBoostFunctions_withoutZeroWeights]
  rfl

theorem highlightPairs_withoutZeroWeights (s : Search) :
    highlightPairs s.withoutZeroWeights = highlightPairs s := by
  rw [highlightPairs, highlightPairs, Search.highlightFields_withoutZeroWeights]
  rfl

/-- The other sections do not look at weights. -/
theorem ofSearch_withoutZeroWeights (s : Search) :
    Params.ofSearch s.withoutZeroWeights = Params.ofSearch s := by
  rw [Params.ofSearch, Params.ofSearch, queryFieldPairs_withoutZeroWeights,
    scorePairs_withoutZeroWeights, highlightPairs_withoutZeroWeights]
  rfl

end Flat

/-! ### Structured requests -/

namespace Structured

theorem fieldsMembers_withoutZeroWeights (s : Search) :
    fieldsMembers s.withoutZeroWeights = fieldsMembers s := by
  rw [fieldsMembers, fieldsMembers, Search.activeQueryFields_withoutZeroWeights]

theorem phrasePreferences_withoutZeroWeights (s : Search) (text : String) :
    phrasePreferences s.withoutZeroWeights text = phrasePreferences s text := by
  rw [phrasePreferences, phrasePreferences, Search.activePhraseBoosts_withoutZeroWeights]

/-- A text is matched against the same default fields, with the same preferences. -/
theorem textMatch_withoutZeroWeights (s : Search) (kind : TextMatch) (text : String) :
    textMatch s.withoutZeroWeights kind text = textMatch s kind text := by
  have hdefault : defaultFieldsMatch s.withoutZeroWeights kind text
      = defaultFieldsMatch s kind text := by
    rw [defaultFieldsMatch, defaultFieldsMatch, fieldsMembers_withoutZeroWeights]
    rfl
  rw [textMatch, textMatch, phrasePreferences_withoutZeroWeights, hdefault]

theorem unscopedMatch_withoutZeroWeights (s : Search) :
    unscopedMatch s.withoutZeroWeights = unscopedMatch s := by
  have hleaf : unscopedLeaf s.withoutZeroWeights = unscopedLeaf s := by
    funext q
    cases q <;> simp only [unscopedLeaf, textMatch_withoutZeroWeights]
  funext q
  rw [unscopedMatch, unscopedMatch, hleaf]

theorem fieldMatch_withoutZeroWeights (s : Search) :
    fieldMatch s.withoutZeroWeights = fieldMatch s := by
  have hscoped : ∀ field, scopedLeaf s.withoutZeroWeights field = scopedLeaf s field := by
    intro field
    funext q
    cases q <;> rfl
  funext clause
  simp only [fieldMatch, scopedMatch, unscopedMatch_withoutZeroWeights, hscoped]

theorem querySection_withoutZeroWeights (s : Search) :
    querySection s.withoutZeroWeights = querySection s := by
  apply querySection_congr (fieldMatch_withoutZeroWeights s)
  · rfl
  · rfl
  · rfl
  · rfl
  · exact s.activeBoostFunctions_withoutZeroWeights

theorem highlightMembers_withoutZeroWeights (s : Search) :
    highlightMembers s.withoutZeroWeights = highlightMembers s := by
  rw [highlightMembers, highlightMembers, Search.highlightFields_withoutZeroWeights]
  rfl

theorem body_withoutZeroWeights (s : Search) : body s.withoutZeroWeights = body s := by
  rw [body, body, querySection_withoutZeroWeights, highlightMembers_withoutZeroWeights]
  rfl

end Structured

/-- **Zero weights have no effect.**  Without its entries of weight zero a search has the
    same requests in both syntaxes, or is refused with the same failure.  Every clause has
    the same condition, and the same fields are highlighted. -/
theorem zero_weights_have_no_effect (s : Search) :
    Flat.Params.ofSearch s = Flat.Params.ofSearch s.withoutZeroWeights ∧
    Structured.body s = Structured.body s.withoutZeroWeights ∧
    (∀ clause, Structured.clauseMatch s clause
      = Structured.clauseMatch s.withoutZeroWeights clause) ∧
    s.highlightFields = s.withoutZeroWeights.highlightFields := by
  refine ⟨?_, ?_, ?_, ?_⟩
  · exact (Flat.ofSearch_withoutZeroWeights s).symm
  · exact (Structured.body_withoutZeroWeights s).symm
  · intro clause
    exact (Structured.clauseMatch_congr (Structured.fieldMatch_withoutZeroWeights s) clause).symm
  · exact s.highlightFields_withoutZeroWeights.symm

end Retrieval

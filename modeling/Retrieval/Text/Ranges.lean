/-
  Retrieval/Text/Ranges.lean
  ==========================
  **Sets of code points as lists of ranges.**

  A property of characters is given by the closed ranges of code points that have it.
  The ranges of a table ascend and do not touch (`ascending`), so a search for a code
  point may stop at the first range that begins above it.  For such a table `inRanges`
  is membership in one of the ranges (`inRanges_iff`).
-/

namespace Retrieval.Text

/-- Closed ranges of code points, each with its first and its last member. -/
abbrev Ranges := List (Nat × Nat)

/-- Whether a code point lies in one of the ranges, which are to ascend. -/
def inRanges : Ranges → Nat → Bool
  | [], _ => false
  | (first, last) :: rest, n =>
    if n < first then false else n ≤ last || inRanges rest n

/-- Whether no range is empty and all begin above the given code point, with each
    range at some distance from the one before. -/
def ascendingFrom : Nat → Ranges → Bool
  | _, [] => true
  | bound, (first, last) :: rest => bound ≤ first && first ≤ last && ascendingFrom (last + 2) rest

/-- Whether the ranges ascend and do not touch. -/
def ascending (ranges : Ranges) : Bool := ascendingFrom 0 ranges

/-- Every member of ascending ranges is at least the bound. -/
theorem le_of_mem_ascendingFrom {bound : Nat} {ranges : Ranges}
    (h : ascendingFrom bound ranges = true) : ∀ r ∈ ranges, bound ≤ r.1 := by
  induction ranges generalizing bound with
  | nil => intro r hr; cases hr
  | cons head rest ih =>
    obtain ⟨first, last⟩ := head
    simp only [ascendingFrom, Bool.and_eq_true, decide_eq_true_eq] at h
    obtain ⟨⟨hfirst, hlast⟩, hrest⟩ := h
    intro r hr
    rcases List.mem_cons.mp hr with rfl | hr
    · exact hfirst
    · have := ih hrest r hr
      omega

theorem inRanges_iff_of_ascendingFrom {bound : Nat} {ranges : Ranges}
    (h : ascendingFrom bound ranges = true) (n : Nat) :
    inRanges ranges n = true ↔ ∃ r ∈ ranges, r.1 ≤ n ∧ n ≤ r.2 := by
  induction ranges generalizing bound with
  | nil => simp [inRanges]
  | cons head rest ih =>
    obtain ⟨first, last⟩ := head
    simp only [ascendingFrom, Bool.and_eq_true, decide_eq_true_eq] at h
    obtain ⟨⟨hfirst, hlast⟩, hrest⟩ := h
    unfold inRanges
    by_cases hn : n < first
    · rw [if_pos hn]
      constructor
      · intro hfalse; cases hfalse
      · rintro ⟨r, hr, hle, -⟩
        rcases List.mem_cons.mp hr with rfl | hr
        · exact absurd hle (by simpa using hn)
        · have := le_of_mem_ascendingFrom hrest r hr
          omega
    · rw [if_neg hn, Bool.or_eq_true, decide_eq_true_eq, ih hrest]
      simp only [List.mem_cons, exists_eq_or_imp]
      constructor
      · rintro (hle | hmem)
        · exact Or.inl ⟨by omega, hle⟩
        · exact Or.inr hmem
      · rintro (⟨-, hle⟩ | hmem)
        · exact Or.inl hle
        · exact Or.inr hmem

/-- For a table whose ranges ascend, the search is membership in one of the ranges. -/
theorem inRanges_iff {ranges : Ranges} (h : ascending ranges = true) (n : Nat) :
    inRanges ranges n = true ↔ ∃ r ∈ ranges, r.1 ≤ n ∧ n ≤ r.2 :=
  inRanges_iff_of_ascendingFrom h n

end Retrieval.Text

/-
  Retrieval/Proofs/Search/Parts.lean
  ==================================
  **Which settings a part of a search depends on.**

  Each setting is about one part of a search (`Setting.part`) and leaves the others as
  they are (`get_apply_of_ne`).  What a part holds after a sequence of settings is
  therefore decided by the settings about that part (`get_applyAll_filter`).

  Most parts hold what was set last.  Some accumulate, and those hold the same after the
  same settings in another order, only in another order (`alike_applyAll_of_perm`).
-/
import Retrieval.Search.Setting
import Mathlib.Data.List.Perm.Basic

namespace Retrieval

/-! ### Parts -/

/-- The parts of a search that settings are about. -/
inductive Part where
  | clause
  | filters
  | boostQueries
  | boostFunctions
  | queryFields
  | phraseBoosts
  | tieBreaker
  | queryType
  | start
  | facetFields
  | facetMinCount
  | spatial
  | sort
  | limit
  | minimumMatch
  | selection
  | highlighting
  | qualityFilter
  | facetLimit
deriving DecidableEq, Repr

namespace Part

/-- What a part holds. -/
abbrev Value : Part → Type
  | .clause => Option Clause
  | .filters | .boostQueries => List Clause
  | .boostFunctions => List BoostFunction
  | .queryFields => List WeightedField
  | .phraseBoosts => List PhraseBoost
  | .tieBreaker => Option Scalar
  | .queryType => Option String
  | .start | .limit => UInt64
  | .facetFields | .selection => List String
  | .facetMinCount | .facetLimit => Option UInt64
  | .spatial => Option Spatial
  | .sort => Option SortOrder
  | .minimumMatch => Option MinimumMatch
  | .highlighting => Bool
  | .qualityFilter => Option QualityFilter

def get : (p : Part) → Search → p.Value
  | .clause, s => s.clause
  | .filters, s => s.filters
  | .boostQueries, s => s.boostQueries
  | .boostFunctions, s => s.boostFunctions
  | .queryFields, s => s.queryFields
  | .phraseBoosts, s => s.phraseBoosts
  | .tieBreaker, s => s.tieBreaker
  | .queryType, s => s.queryType
  | .start, s => s.start
  | .facetFields, s => s.facets.fields
  | .facetMinCount, s => s.facets.minCount
  | .spatial, s => s.spatial
  | .sort, s => s.sort
  | .limit, s => s.limit
  | .minimumMatch, s => s.minimumMatch
  | .selection, s => s.fields
  | .highlighting, s => s.highlighting
  | .qualityFilter, s => s.qualityFilter
  | .facetLimit, s => s.facets.limit

/-- Whether settings add to the part. -/
def accumulates : Part → Bool
  | .filters | .boostQueries | .boostFunctions | .queryFields | .phraseBoosts
  | .facetFields => true
  | _ => false

/-- The one-shot setting of the part, if it has one. -/
def oneShot? : Part → Option OneShot
  | .sort => some .sort
  | .limit => some .limit
  | .minimumMatch => some .minimumMatch
  | .selection => some .selection
  | .highlighting => some .highlighting
  | .qualityFilter => some .qualityFilter
  | .facetLimit => some .facetLimit
  | _ => none

/-- Whether the order of settings about the part counts: they join one clause, or each
    replaces the one before. -/
def isOrdered : Part → Bool
  | .clause | .tieBreaker | .queryType | .start | .facetMinCount | .spatial => true
  | _ => false

theorem isOrdered_or_oneShot {p : Part} (h : p.accumulates = false) :
    p.isOrdered = true ∨ ∃ o, p.oneShot? = some o := by
  cases p with
  | clause | tieBreaker | queryType | start | facetMinCount | spatial => exact .inl rfl
  | sort | limit | minimumMatch | selection | highlighting | qualityFilter | facetLimit =>
    exact .inr ⟨_, rfl⟩
  | filters | boostQueries | boostFunctions | queryFields | phraseBoosts | facetFields => cases h

end Part

/-! ### A setting and its part -/

namespace Setting

/-- The part that a setting is about. -/
def part : Setting → Part
  | .and _ | .or _ => .clause
  | .filter _ | .orFilter _ => .filters
  | .boostQuery _ => .boostQueries
  | .boostField .. => .boostFunctions
  | .queryField .. => .queryFields
  | .phraseBoost .. => .phraseBoosts
  | .tieBreaker _ => .tieBreaker
  | .queryType _ => .queryType
  | .start _ => .start
  | .facetField _ => .facetFields
  | .facetMinCount _ => .facetMinCount
  | .spatial _ => .spatial
  | .sort _ => .sort
  | .limit _ => .limit
  | .minimumMatch _ => .minimumMatch
  | .select _ => .selection
  | .highlighting => .highlighting
  | .qualityFilter _ => .qualityFilter
  | .facetLimit _ => .facetLimit

theorem oneShot?_eq (x : Setting) : x.oneShot? = x.part.oneShot? := by
  cases x <;> rfl

/-- A setting leaves the parts alone that it is not about. -/
theorem get_apply_of_ne {p : Part} {x : Setting} (h : x.part ≠ p) (s : Search) :
    p.get (apply s x) = p.get s := by
  cases p <;> cases x <;> first | rfl | exact absurd rfl h

/-- What a setting makes of a part depends on nothing but the part. -/
theorem get_apply_congr {p : Part} {s t : Search} (h : p.get s = p.get t) (x : Setting) :
    p.get (apply s x) = p.get (apply t x) := by
  by_cases hx : x.part = p
  · subst hx
    cases x <;> simp only [part, Part.get, apply] at h ⊢ <;> rw [h]
  · rw [get_apply_of_ne hx, get_apply_of_ne hx, h]

theorem get_applyAll_congr {p : Part} {s t : Search} (h : p.get s = p.get t) (l : List Setting) :
    p.get (applyAll s l) = p.get (applyAll t l) := by
  induction l generalizing s t with
  | nil => exact h
  | cons x rest ih => exact ih (get_apply_congr h x)

/-- What a part holds is decided by the settings about it. -/
theorem get_applyAll_filter (p : Part) (s : Search) (l : List Setting) :
    p.get (applyAll s l) = p.get (applyAll s (l.filter fun x => x.part = p)) := by
  induction l generalizing s with
  | nil => rfl
  | cons x rest ih =>
    by_cases hx : x.part = p
    · rw [List.filter_cons_of_pos (by simpa using hx)]
      exact ih (apply s x)
    · rw [List.filter_cons_of_neg (by simpa using hx)]
      -- Without `x` the part is the same now, and so it is after the rest.
      have hrest : p.get (applyAll (apply s x) rest) = p.get (applyAll s rest) :=
        get_applyAll_congr (get_apply_of_ne hx s) rest
      exact hrest.trans (ih s)

end Setting

/-! ### Lists in another order -/

theorem perm_append_pair {α : Type} (l : List α) (a b : α) :
    (l ++ [a] ++ [b]).Perm (l ++ [b] ++ [a]) := by
  rw [List.append_assoc, List.append_assoc]
  exact (List.Perm.swap b a []).append_left l

/-! ### Parts that accumulate -/

namespace Part

/-- The values of a part are alike: the same, or the same in another order where the part
    accumulates. -/
def Alike : (p : Part) → p.Value → p.Value → Prop
  | .filters, v, w | .boostQueries, v, w => List.Perm v w
  | .boostFunctions, v, w => List.Perm v w
  | .queryFields, v, w => List.Perm v w
  | .phraseBoosts, v, w => List.Perm v w
  | .facetFields, v, w => List.Perm v w
  | _, v, w => v = w

theorem Alike.of_eq {p : Part} {v w : p.Value} (h : v = w) : p.Alike v w := by
  subst h
  cases p <;> first | rfl | exact List.Perm.refl _

theorem Alike.trans {p : Part} {u v w : p.Value} (h : p.Alike u v) (h' : p.Alike v w) :
    p.Alike u w := by
  cases p <;> first | exact Eq.trans h h' | exact List.Perm.trans h h'

end Part

namespace Setting

variable {p : Part} {s t : Search}

/-- Whether a setting is about the last filter. -/
def relaxes : Setting → Bool
  | .orFilter _ => true
  | _ => false

theorem alike_apply (hp : p.accumulates = true) (h : p.Alike (p.get s) (p.get t)) {x : Setting}
    (hx : x.relaxes = false) : p.Alike (p.get (apply s x)) (p.get (apply t x)) := by
  by_cases hpart : x.part = p
  · subst hpart
    cases x with
    | filter | boostQuery | boostField | queryField | phraseBoost | facetField =>
      exact List.Perm.append_right _ h
    | orFilter clause => cases hx
    | _ => cases hp
  · rw [get_apply_of_ne hpart, get_apply_of_ne hpart]
    exact h

/-- Additions can change places. -/
theorem alike_apply_swap (hp : p.accumulates = true) (s : Search) {x y : Setting}
    (hx : x.relaxes = false) (hy : y.relaxes = false) :
    p.Alike (p.get (apply (apply s x) y)) (p.get (apply (apply s y) x)) := by
  by_cases hpx : x.part = p
  · by_cases hpy : y.part = p
    · subst hpx
      cases x with
      | filter | boostQuery | boostField | queryField | phraseBoost | facetField =>
        cases y
        case orFilter clause => cases hy
        all_goals first | exact perm_append_pair _ _ _ | cases hpy
      | orFilter clause => cases hx
      | _ => cases hp
    · apply Part.Alike.of_eq
      rw [get_apply_of_ne hpy]
      exact get_apply_congr (get_apply_of_ne hpy s).symm x
  · apply Part.Alike.of_eq
    rw [get_apply_of_ne hpx (apply s y)]
    exact get_apply_congr (get_apply_of_ne hpx s) y

theorem alike_applyAll (hp : p.accumulates = true) (h : p.Alike (p.get s) (p.get t))
    {l : List Setting} (hl : ∀ x ∈ l, x.relaxes = false) :
    p.Alike (p.get (applyAll s l)) (p.get (applyAll t l)) := by
  induction l generalizing s t with
  | nil => exact h
  | cons x rest ih =>
    rw [List.forall_mem_cons] at hl
    exact ih (alike_apply hp h hl.1) hl.2

/-- A part that accumulates holds the same after any rearrangement, in some order. -/
theorem alike_applyAll_of_perm (hp : p.accumulates = true) {l l' : List Setting}
    (hperm : l.Perm l') (hl : ∀ x ∈ l, x.relaxes = false) (s : Search) :
    p.Alike (p.get (applyAll s l)) (p.get (applyAll s l')) := by
  induction hperm generalizing s with
  | nil => exact .of_eq rfl
  | cons x _ ih =>
    rw [List.forall_mem_cons] at hl
    exact ih hl.2 (apply s x)
  | swap x y rest =>
    rw [List.forall_mem_cons, List.forall_mem_cons] at hl
    exact alike_applyAll hp (alike_apply_swap hp s hl.1 hl.2.1) hl.2.2
  | trans hfirst _ ih ih' =>
    have hmiddle := fun x hx => hl x (hfirst.mem_iff.mpr hx)
    exact (ih hl s).trans (ih' hmiddle s)

end Setting

end Retrieval

/-
  Retrieval/Proofs/Flat/CallOrder.lean
  ====================================
  **The order of calls in flat requests.**

  Two builders whose calls differ in order only have searches whose parts are alike.
  Section by section, the pairs of their flat requests are then the same up to order, so
  that the sorted pairs are equal (`Params.toMultiset_filter_congr`).

  One pair is an exception.  The fields to highlight are joined into one value, and where
  they are the default fields this value shows the order of the calls.  Without that pair
  the rest is equal, and the fields to highlight are the same in some order
  (`highlightFields_perm`).
-/
import Retrieval.Proofs.Search.Calls
import Mathlib.Data.List.Sort
import Mathlib.Data.Prod.Lex
import Mathlib.Data.String.Basic

namespace Retrieval.Flat

/-! ### Sorted pairs -/

namespace Params

theorem pairLE_iff (a b : String × String) : pairLE a b = true ↔ toLex a ≤ toLex b := by
  rw [Prod.Lex.toLex_le_toLex, pairLE]
  simp

theorem pairwise_toMultiset (p : Params) (keep : String × String → Bool) :
    (p.toMultiset.filter keep).Pairwise fun a b => toLex a ≤ toLex b := by
  have hsorted : p.toMultiset.Pairwise fun a b => pairLE a b = true := by
    apply List.pairwise_mergeSort
    · intro a b c hab hbc
      rw [pairLE_iff] at hab hbc ⊢
      exact le_trans hab hbc
    · intro a b
      rw [Bool.or_eq_true, pairLE_iff, pairLE_iff]
      exact le_total (toLex a) (toLex b)
  have hkept : (p.toMultiset.filter keep).Pairwise fun a b => pairLE a b = true :=
    hsorted.sublist List.filter_sublist
  exact hkept.imp fun h => (pairLE_iff _ _).mp h

/-- The sorted pairs do not show in which order the pairs were emitted. -/
theorem toMultiset_filter_congr {p q : Params} {keep : String × String → Bool}
    (h : (p.pairs.filter keep).Perm (q.pairs.filter keep)) :
    p.toMultiset.filter keep = q.toMultiset.filter keep := by
  have hp : (p.toMultiset.filter keep).Perm (p.pairs.filter keep) :=
    (List.mergeSort_perm p.pairs pairLE).filter keep
  have hq : (q.toMultiset.filter keep).Perm (q.pairs.filter keep) :=
    (List.mergeSort_perm q.pairs pairLE).filter keep
  refine List.Perm.eq_of_pairwise ?_ (p.pairwise_toMultiset keep) (q.pairwise_toMultiset keep)
    (hp.trans (h.trans hq.symm))
  intro a b _ _ hab hba
  exact toLex.injective (le_antisymm hab hba)

theorem toMultiset_congr {p q : Params} (h : p.pairs.Perm q.pairs) :
    p.toMultiset = q.toMultiset := by
  have hkept : (p.pairs.filter fun _ => true).Perm (q.pairs.filter fun _ => true) := by
    rwa [List.filter_true, List.filter_true]
  have hall := toMultiset_filter_congr hkept
  rwa [List.filter_true, List.filter_true] at hall

end Params

/-! ### Sections of alike searches -/

section Sections

variable {s t : Search} (h : ∀ p : Part, p.Alike (p.get s) (p.get t))

include h

theorem sortPairs_congr : sortPairs s = sortPairs t := by
  have hsort : s.sort = t.sort := h .sort
  rw [sortPairs, hsort]
  rfl

theorem mainPairs_congr : mainPairs s = mainPairs t := by
  have hclause : s.clause = t.clause := h .clause
  rw [mainPairs, hclause]
  rfl

theorem readerPairs_congr : readerPairs s = readerPairs t := by
  have htype : s.queryType = t.queryType := h .queryType
  have hmatch : s.minimumMatch = t.minimumMatch := h .minimumMatch
  rw [readerPairs, htype, hmatch]
  rfl

theorem activeQueryFields_perm : s.activeQueryFields.Perm t.activeQueryFields :=
  List.Perm.filter _ (h .queryFields)

theorem queryFieldPairs_perm : (queryFieldPairs s).Perm (queryFieldPairs t) :=
  (activeQueryFields_perm h).map _

theorem scorePairs_perm : (scorePairs s).Perm (scorePairs t) := by
  have hphrases : s.activePhraseBoosts.Perm t.activePhraseBoosts :=
    List.Perm.filter _ (h .phraseBoosts)
  have htie : s.tieBreaker = t.tieBreaker := h .tieBreaker
  have hqueries : s.boostQueries.Perm t.boostQueries := h .boostQueries
  have hfunctions : s.activeBoostFunctions.Perm t.activeBoostFunctions :=
    List.Perm.filter _ (h .boostFunctions)
  rw [scorePairs, scorePairs, htie]
  apply List.Perm.append
  · apply List.Perm.append
    · exact (hphrases.flatMap_right phraseBoostPairs).append_right _
    · exact hqueries.map _
  · exact hfunctions.map _

theorem filterPairs_perm : (filterPairs s).Perm (filterPairs t) := by
  have hfilters : s.filters.Perm t.filters := h .filters
  have hspatial : s.spatial = t.spatial := h .spatial
  rw [filterPairs, filterPairs, hspatial]
  exact (hfilters.map _).append_right _

theorem windowPairs_congr : windowPairs s = windowPairs t := by
  have hstart : s.start = t.start := h .start
  have hlimit : s.limit = t.limit := h .limit
  rw [windowPairs, windowPairs, hstart, hlimit]

theorem fieldListPairs_congr : fieldListPairs s = fieldListPairs t := by
  have hfields : s.fields = t.fields := h .selection
  have hspatial : s.spatial = t.spatial := h .spatial
  have hquality : s.qualityFilter = t.qualityFilter := h .qualityFilter
  simp only [fieldListPairs, baseFields, hfields, hspatial, hquality]

theorem facetPairs_perm : (facetPairs s.facets).Perm (facetPairs t.facets) := by
  have hfields : s.facets.fields.Perm t.facets.fields := h .facetFields
  have hlimit : s.facets.limit = t.facets.limit := h .facetLimit
  have hcount : s.facets.minCount = t.facets.minCount := h .facetMinCount
  have henabled : s.facets.isEnabled = t.facets.isEnabled := by
    rw [FacetSettings.isEnabled, FacetSettings.isEnabled, hfields.isEmpty_eq]
  rw [facetPairs, facetPairs, henabled, hlimit, hcount]
  by_cases hon : t.facets.isEnabled = true
  · rw [if_pos hon, if_pos hon]
    exact (((hfields.map _).cons _).append_right _).append_right _
  · rw [if_neg hon, if_neg hon]

theorem highlightFields_perm : s.highlightFields.Perm t.highlightFields := by
  have hclause : s.clause = t.clause := h .clause
  have hdefault := (activeQueryFields_perm h).map WeightedField.field
  unfold Search.highlightFields
  rw [hclause]
  cases t.clause with
  | none => exact hdefault
  | some clause =>
    by_cases hnamed : clause.fieldNames.isEmpty = true
    · simp only [hnamed, ↓reduceIte]
      exact hdefault
    · simp only [hnamed]
      exact List.Perm.refl _

end Sections

/-! ### The request -/

/-- All pairs but those about highlighting. -/
def plainPairs (s : Search) (sorting : List (String × String)) : List (String × String) :=
  mainPairs s ++ readerPairs s ++ queryFieldPairs s ++ scorePairs s ++ filterPairs s ++
    sorting ++ windowPairs s ++ fieldListPairs s ++ facetPairs s.facets

theorem ofSearch_of_error {s : Search} {failure : Failure} (h : sortPairs s = .error failure) :
    Params.ofSearch s = .error failure := by
  rw [Params.ofSearch, h]
  rfl

theorem ofSearch_of_ok {s : Search} {sorting : List (String × String)}
    (h : sortPairs s = .ok sorting) :
    Params.ofSearch s = .ok ⟨plainPairs s sorting ++ highlightPairs s⟩ := by
  rw [Params.ofSearch, h]
  rfl

theorem plainPairs_perm {s t : Search} (h : ∀ p : Part, p.Alike (p.get s) (p.get t))
    (sorting : List (String × String)) : (plainPairs s sorting).Perm (plainPairs t sorting) := by
  rw [plainPairs, plainPairs, mainPairs_congr h, readerPairs_congr h, windowPairs_congr h,
    fieldListPairs_congr h]
  apply List.Perm.append _ (facetPairs_perm h)
  apply List.Perm.append_right
  apply List.Perm.append_right
  apply List.Perm.append_right
  apply List.Perm.append _ (filterPairs_perm h)
  apply List.Perm.append _ (scorePairs_perm h)
  exact (queryFieldPairs_perm h).append_left _

/-- Whether a pair is another one than the list of the fields to highlight. -/
def isKept (pair : String × String) : Bool := pair.1 != "hl.fl"

theorem highlightPairs_filter_isKept (s : Search) :
    (highlightPairs s).filter isKept = if s.highlighting then [("hl", "true")] else [] := by
  unfold highlightPairs
  split
  · cases s.highlightFields with
    | nil => rfl
    | cons => rfl
  · rfl

/-- Where the fields to highlight are left out, alike searches have the same pairs. -/
theorem filter_isKept_perm {s t : Search} (h : ∀ p : Part, p.Alike (p.get s) (p.get t))
    (sorting : List (String × String)) :
    ((plainPairs s sorting ++ highlightPairs s).filter isKept).Perm
      ((plainPairs t sorting ++ highlightPairs t).filter isKept) := by
  have hhighlighting : s.highlighting = t.highlighting := h .highlighting
  rw [List.filter_append, List.filter_append, highlightPairs_filter_isKept,
    highlightPairs_filter_isKept, hhighlighting]
  exact ((plainPairs_perm h sorting).filter isKept).append_right _

/-- Without highlighting nothing has to be left out. -/
theorem pairs_perm_of_not_highlighting {s t : Search}
    (h : ∀ p : Part, p.Alike (p.get s) (p.get t)) (hoff : s.highlighting = false)
    (sorting : List (String × String)) :
    (plainPairs s sorting ++ highlightPairs s).Perm (plainPairs t sorting ++ highlightPairs t) := by
  have hsame : s.highlighting = t.highlighting := h .highlighting
  have hs : highlightPairs s = [] := by rw [highlightPairs, hoff]; rfl
  have ht : highlightPairs t = [] := by rw [highlightPairs, ← hsame, hoff]; rfl
  rw [hs, ht, List.append_nil, List.append_nil]
  exact plainPairs_perm h sorting

/-- **The order of calls.**  Two sequences of calls that differ in order only, and not in
    the order of calls that join one clause or replace each other, lead to requests that
    fail together with the same failure, or have the same pairs.  With highlighting, the
    fields to highlight may come in another order. -/
theorem flat_ignores_call_order {α β : Type} {index : String} {b : Builder α} {b' : Builder β}
    {l l' : List Setting} (h : b.MadeBy index l) (h' : b'.MadeBy index l')
    (hcalls : Setting.Rearranged l l') :
    (∀ failure, b.flat = .error failure ↔ b'.flat = .error failure) ∧
    b.search.highlighting = b'.search.highlighting ∧
    ∀ p p', b.flat = .ok p → b'.flat = .ok p' →
      (b.search.highlighting = false → p.toMultiset = p'.toMultiset) ∧
      (b.search.highlighting = true →
        p.toMultiset.filter (fun pair => pair.1 != "hl.fl") =
          p'.toMultiset.filter (fun pair => pair.1 != "hl.fl") ∧
        b.search.highlightFields.Perm b'.search.highlightFields) := by
  have halike := h.alike h' hcalls
  have hsorting : sortPairs b.search = sortPairs b'.search := sortPairs_congr halike
  cases hsort : sortPairs b'.search with
  | error failure =>
    have hb : b.flat = .error failure := ofSearch_of_error (hsorting.trans hsort)
    have hb' : b'.flat = .error failure := ofSearch_of_error hsort
    rw [hb, hb']
    refine ⟨fun _ => Iff.rfl, halike .highlighting, ?_⟩
    intro p p' hp
    cases hp
  | ok sorting =>
    have hb : b.flat = .ok _ := ofSearch_of_ok (hsorting.trans hsort)
    have hb' : b'.flat = .ok _ := ofSearch_of_ok hsort
    rw [hb, hb']
    refine ⟨fun failure => ⟨nofun, nofun⟩, halike .highlighting, ?_⟩
    intro p p' hp hp'
    cases hp
    cases hp'
    constructor
    · intro hoff
      exact Params.toMultiset_congr (pairs_perm_of_not_highlighting halike hoff sorting)
    · intro _
      constructor
      · exact Params.toMultiset_filter_congr (filter_isKept_perm halike sorting)
      · exact highlightFields_perm halike

/-- Calls in one order and in another. -/
def orderedCalls : List Setting :=
  [.queryField "name" .one, .queryField "city" .one, .start 20, .facetField "city",
    .highlighting]

def shuffledCalls : List Setting :=
  [.highlighting, .facetField "city", .queryField "city" .one, .start 20,
    .queryField "name" .one]

theorem flat_ignores_call_order_shuffled :
    ∃ (b b' : Builder Document) (p p' : Params), b.MadeBy "venues" orderedCalls ∧
      b'.MadeBy "venues" shuffledCalls ∧ b.flat = .ok p ∧ b'.flat = .ok p' ∧
      p.getAll "hl.fl" = ["name,city"] ∧ p'.getAll "hl.fl" = ["city,name"] ∧
      p.toMultiset.filter (fun pair => pair.1 != "hl.fl") =
        p'.toMultiset.filter (fun pair => pair.1 != "hl.fl") := by
  have hcalls : Setting.Rearranged orderedCalls shuffledCalls := by
    refine ⟨by decide, ?_, by decide⟩
    intro p hp
    cases p <;> first | rfl | cases hp
  obtain ⟨b, hb⟩ := Builder.exists_madeBy "venues" (l := orderedCalls) (by decide)
  obtain ⟨b', hb'⟩ := Builder.exists_madeBy "venues" (l := shuffledCalls) (by decide)
  have hflat : ∃ p, b.flat = .ok p ∧ p.getAll "hl.fl" = ["name,city"] := by
    rw [Builder.flat, hb.records.search]
    exact ⟨_, ofSearch_of_ok rfl, by decide +kernel⟩
  have hflat' : ∃ p, b'.flat = .ok p ∧ p.getAll "hl.fl" = ["city,name"] := by
    rw [Builder.flat, hb'.records.search]
    exact ⟨_, ofSearch_of_ok rfl, by decide +kernel⟩
  obtain ⟨p, hp, hfields⟩ := hflat
  obtain ⟨p', hp', hfields'⟩ := hflat'
  have hon : b.search.highlighting = true := by
    rw [hb.records.search]
    rfl
  obtain ⟨-, -, hsame⟩ := flat_ignores_call_order hb hb' hcalls
  exact ⟨b, b', p, p', hb, hb', hp, hp', hfields, hfields', ((hsame p p' hp hp').2 hon).1⟩

end Retrieval.Flat

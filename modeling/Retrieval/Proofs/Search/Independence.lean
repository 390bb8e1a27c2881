/-
  Retrieval/Proofs/Search/Independence.lean
  =========================================
  **Calls about different parts of a search.**

  A search is nothing but its index and its parts (`Search.eq_of_get_eq`), and what a part
  holds is decided by the settings about it alone.  Two sequences of settings that agree
  part by part therefore lead to the same search, however the settings about one part are
  placed among those about the others (`Interleaved.applyAll_eq`).

  Which calls may follow depends on the one-shot settings among the earlier ones, and not
  on their order (`isPermitted_foldl_note_congr`).  So builders that are made by such
  sequences cannot be told apart by any later call.
-/
import Retrieval.Proofs.Search.Calls

namespace Retrieval

/-- A search has no more to it than its index and its parts. -/
theorem Search.eq_of_get_eq {s t : Search} (hindex : s.index = t.index)
    (h : ∀ p : Part, p.get s = p.get t) : s = t := by
  have hfacets : s.facets = t.facets := by
    cases hs : s.facets with
    | mk fields limit minCount =>
      cases ht : t.facets with
      | mk fields' limit' minCount' =>
        have hfields := h .facetFields
        have hlimit := h .facetLimit
        have hcount := h .facetMinCount
        simp only [Part.get, hs, ht] at hfields hlimit hcount
        rw [hfields, hlimit, hcount]
  cases s
  cases t
  simp only [Search.mk.injEq]
  exact ⟨hindex, h .clause, h .filters, h .boostQueries, h .boostFunctions, h .queryFields,
    h .phraseBoosts, h .tieBreaker, h .queryType, hfacets, h .sort, h .start, h .limit,
    h .minimumMatch, h .qualityFilter, h .highlighting, h .selection, h .spatial⟩

namespace Setting

theorem index_applyAll (s : Search) (l : List Setting) : (applyAll s l).index = s.index := by
  induction l generalizing s with
  | nil => rfl
  | cons x rest ih =>
    have hx : (apply s x).index = s.index := by cases x <;> rfl
    exact (ih (apply s x)).trans hx

/-- The same settings in another order, where the settings about one part keep theirs. -/
structure Interleaved (l l' : List Setting) : Prop where
  perm : l.Perm l'
  kept : ∀ p : Part, l.filter (fun x => x.part = p) = l'.filter (fun x => x.part = p)

theorem Interleaved.applyAll_eq {l l' : List Setting} (h : Interleaved l l') (s : Search) :
    applyAll s l = applyAll s l' := by
  apply Search.eq_of_get_eq
  · rw [index_applyAll, index_applyAll]
  · intro p
    rw [get_applyAll_filter p s l, get_applyAll_filter p s l', h.kept p]

/-! ### One-shot settings -/

theorem mem_foldl_note_iff {o : OneShot} (used : List OneShot) (l : List Setting) :
    o ∈ l.foldl note used ↔ o ∈ used ∨ ∃ x ∈ l, x.oneShot? = some o := by
  induction l generalizing used with
  | nil => simp
  | cons x rest ih =>
    rw [List.foldl_cons, ih, note, List.mem_append, Option.mem_toList]
    simp [or_assoc]

/-- The order of earlier settings does not decide which one may follow. -/
theorem isPermitted_foldl_note_congr {l l' : List Setting} (h : l.Perm l') (x : Setting) :
    x.isPermitted (l.foldl note []) = x.isPermitted (l'.foldl note []) := by
  have hmem : ∀ o, o ∈ l.foldl note [] ↔ o ∈ l'.foldl note [] := by
    intro o
    rw [mem_foldl_note_iff, mem_foldl_note_iff]
    simp only [h.mem_iff]
  have hcontains : ∀ o, (l.foldl note []).contains o = (l'.foldl note []).contains o := by
    intro o
    rw [Bool.eq_iff_iff, List.contains_iff_mem, List.contains_iff_mem]
    exact hmem o
  unfold isPermitted
  simp only [hcontains]

end Setting

namespace Builder

variable {α β : Type} {index : String} {b : Builder α} {b' : Builder β} {l l' : List Setting}

/-- **Independent calls commute.**  Two sequences of calls that keep the order of the calls
    about each part make the same search.  Both request syntaxes compile it alike, and the
    same calls may follow. -/
theorem independent_calls_commute (h : b.MadeBy index l) (h' : b'.MadeBy index l')
    (hcalls : Setting.Interleaved l l') :
    b.search = b'.search ∧ b.flat = b'.flat ∧ b.structured = b'.structured ∧
      ∀ x : Setting, x.isPermitted b.used = x.isPermitted b'.used := by
  have hsearch : b.search = b'.search := by
    rw [h.records.search, h'.records.search]
    exact hcalls.applyAll_eq (.ofIndex index)
  refine ⟨hsearch, ?_, ?_, ?_⟩
  · rw [flat, flat, hsearch]
  · rw [structured, structured, hsearch]
  · intro x
    rw [h.records.used, h'.records.used]
    exact Setting.isPermitted_foldl_note_congr hcalls.perm x

/-- Calls part by part, and the same calls in turns. -/
def groupedCalls : List Setting :=
  [.and (.field (.including "name" (.exactly "joe"))),
   .or (.field (.including "name" (.exactly "jon"))),
   .filter (.field (.including "city" (.exactly "nyc"))),
   .orFilter (.field (.including "city" (.exactly "la"))),
   .highlighting, .select ["name"], .sort ⟨.field "name", .descending⟩,
   .start 10, .start 20, .facetField "city", .facetField "name", .facetMinCount 2]

def alternatedCalls : List Setting :=
  [.start 10, .facetField "city",
   .filter (.field (.including "city" (.exactly "nyc"))),
   .and (.field (.including "name" (.exactly "joe"))),
   .highlighting, .facetMinCount 2, .select ["name"],
   .orFilter (.field (.including "city" (.exactly "la"))),
   .sort ⟨.field "name", .descending⟩, .facetField "name",
   .or (.field (.including "name" (.exactly "jon"))), .start 20]

theorem independent_calls_commute_alternated :
    ∃ b b' : Builder Document, b.MadeBy "venues" groupedCalls ∧
      b'.MadeBy "venues" alternatedCalls ∧ b.search = b'.search ∧ b'.search.start = 20 ∧
      b.structured = b'.structured := by
  have hcalls : Setting.Interleaved groupedCalls alternatedCalls := by
    refine ⟨by decide, ?_⟩
    intro p
    cases p <;> decide
  obtain ⟨b, hb⟩ := exists_madeBy "venues" (l := groupedCalls) (by decide)
  obtain ⟨b', hb'⟩ := exists_madeBy "venues" (l := alternatedCalls) (by decide)
  obtain ⟨hsearch, -, hstructured, -⟩ := independent_calls_commute hb hb' hcalls
  refine ⟨b, b', hb, hb', hsearch, ?_, hstructured⟩
  rw [hb'.records.search]
  decide

end Builder

end Retrieval

/-
  Retrieval/Proofs/Search/Calls.lean
  ==================================
  **Sequences of calls.**

  A builder is made by a sequence of calls, and its search is the one that the settings
  of these calls lead to (`Builder.MadeBy.records`).  The calls are legal: no one-shot
  setting is made twice (`length_filter_oneShot_le_one`).

  How the order of the calls matters differs from part to part.  Where a part
  accumulates, it decides the order of what the part holds.  The part of a one-shot
  setting is set once, so there is nothing to reorder.  For all other parts the order
  counts.  Two sequences that differ only in ways that do not count lead to searches
  whose parts are all alike (`Rearranged.alike`).
-/
import Retrieval.Builder
import Retrieval.Proofs.Search.Parts
import Mathlib.Data.List.Induction

namespace Retrieval

namespace Setting

variable {p : Part}

/-! ### One-shot settings -/

theorem oneShot?_mem_excludedBy {x : Setting} {o : OneShot} (h : x.oneShot? = some o) :
    o ∈ x.excludedBy := by
  cases x with
  | select fields =>
    cases h
    exact List.mem_cons_of_mem _ (List.mem_singleton_self _)
  | highlighting =>
    cases h
    exact List.mem_cons_of_mem _ (List.mem_singleton_self _)
  | _ => exact Option.mem_toList.mpr h

/-- What was made once is not made again. -/
theorem oneShot?_ne_of_mem_used {o : OneShot} {used : List OneShot} {l : List Setting}
    (hused : o ∈ used) (hl : allPermitted used l = true) : ∀ x ∈ l, x.oneShot? ≠ some o := by
  induction l generalizing used with
  | nil =>
    intro x hx
    cases hx
  | cons y rest ih =>
    rw [allPermitted, Bool.and_eq_true] at hl
    obtain ⟨hy, hrest⟩ := hl
    intro x hx ho
    rcases List.mem_cons.mp hx with rfl | hx
    · simp only [isPermitted, Bool.not_eq_true', List.any_eq_false] at hy
      exact hy o (oneShot?_mem_excludedBy ho) (List.contains_iff_mem.mpr hused)
    · exact ih (List.mem_append_left _ hused) hrest x hx ho

/-- The part of a one-shot setting is set at most once. -/
theorem length_filter_oneShot_le_one {o : OneShot} (ho : p.oneShot? = some o)
    {used : List OneShot} {l : List Setting} (hl : allPermitted used l = true) :
    (l.filter fun x => x.part = p).length ≤ 1 := by
  induction l generalizing used with
  | nil => exact Nat.zero_le 1
  | cons y rest ih =>
    rw [allPermitted, Bool.and_eq_true] at hl
    obtain ⟨-, hrest⟩ := hl
    by_cases hy : y.part = p
    · have hnoted : o ∈ y.note used := by
        rw [note, oneShot?_eq, hy, ho]
        exact List.mem_append_right used (List.mem_singleton_self o)
      have hnone : rest.filter (fun x => x.part = p) = [] := by
        apply List.filter_eq_nil_iff.mpr
        intro x hx hpart
        apply oneShot?_ne_of_mem_used hnoted hrest x hx
        rw [oneShot?_eq, of_decide_eq_true hpart, ho]
      rw [List.filter_cons_of_pos (by simpa using hy), hnone]
      exact Nat.le_refl 1
    · rw [List.filter_cons_of_neg (by simpa using hy)]
      exact ih hrest

/-! ### Rearrangements -/

theorem eq_of_perm_of_length_le_one {α : Type} {l l' : List α} (h : l.Perm l')
    (hl : l.length ≤ 1) : l = l' := by
  match l, hl with
  | [], _ => exact h.nil_eq
  | [a], _ => exact List.singleton_perm.mp h

/-- The same settings in another order, where the order is kept among settings for which
    it counts, and no filter has an alternative. -/
structure Rearranged (l l' : List Setting) : Prop where
  perm : l.Perm l'
  kept : ∀ p : Part, p.isOrdered = true →
    l.filter (fun x => x.part = p) = l'.filter (fun x => x.part = p)
  unrelaxed : ∀ x ∈ l, x.relaxes = false

/-- A rearrangement leads to a search whose parts are alike. -/
theorem Rearranged.alike {l l' : List Setting} (h : Rearranged l l')
    (hl : allPermitted [] l = true) (s : Search) (p : Part) :
    p.Alike (p.get (applyAll s l)) (p.get (applyAll s l')) := by
  by_cases hp : p.accumulates = true
  · exact alike_applyAll_of_perm hp h.perm h.unrelaxed s
  · have hfilter : l.filter (fun x => x.part = p) = l'.filter (fun x => x.part = p) := by
      rcases Part.isOrdered_or_oneShot (Bool.eq_false_iff.mpr hp) with hordered | ⟨o, ho⟩
      · exact h.kept p hordered
      · exact eq_of_perm_of_length_le_one (h.perm.filter _) (length_filter_oneShot_le_one ho hl)
    apply Part.Alike.of_eq
    rw [get_applyAll_filter p s l, get_applyAll_filter p s l', hfilter]

/-! ### Legal sequences -/

theorem allPermitted_append_singleton (used : List OneShot) (l : List Setting) (x : Setting) :
    allPermitted used (l ++ [x]) = (allPermitted used l && x.isPermitted (l.foldl note used)) := by
  induction l generalizing used with
  | nil => simp [allPermitted]
  | cons y rest ih =>
    rw [List.cons_append, allPermitted, allPermitted, ih, Bool.and_assoc]
    rfl

theorem applyAll_append_singleton (s : Search) (l : List Setting) (x : Setting) :
    applyAll s (l ++ [x]) = apply (applyAll s l) x :=
  List.foldl_concat ..

end Setting

namespace Builder

/-- A builder for an index comes from a sequence of calls that make the given settings. -/
inductive MadeBy (index : String) : {α : Type} → Builder α → List Setting → Prop
  | new : MadeBy index (Builder.ofIndex index) []
  | set {α : Type} {b b' : Builder α} {l : List Setting} {x : Setting} :
    MadeBy index b l → b.set? x = some b' → MadeBy index b' (l ++ [x])
  | select {α β : Type} {b : Builder α} {b' : Builder β} {l : List Setting}
      {fields : List String} {projection : Projection β} :
    MadeBy index b l → b.select? fields projection = some b' →
    MadeBy index b' (l ++ [.select fields])
  /-- A transformation of the documents is no setting. -/
  | transform {α : Type} {b : Builder α} {l : List Setting} (t : Transform) :
    MadeBy index b l → MadeBy index (b.withTransform t) l

/-- What a builder knows of the settings that were made: the search they lead to, the
    one-shot settings among them, and that all of them were legal. -/
structure Records {α : Type} (b : Builder α) (index : String) (l : List Setting) : Prop where
  search : b.search = Setting.applyAll (.ofIndex index) l
  used : b.used = l.foldl Setting.note []
  legal : Setting.allPermitted [] l = true

variable {index : String} {α β : Type} {b : Builder α} {b' : Builder β} {l : List Setting}

/-- Whatever call makes a setting, the builder records it in the same way. -/
theorem Records.snoc (h : b.Records index l) {x : Setting} (hx : x.isPermitted b.used = true)
    (hsearch : b'.search = x.apply b.search) (hused : b'.used = x.note b.used) :
    b'.Records index (l ++ [x]) where
  search := by rw [hsearch, h.search, Setting.applyAll_append_singleton]
  used := by rw [hused, h.used, List.foldl_concat]
  legal := by
    rw [h.used] at hx
    rw [Setting.allPermitted_append_singleton, h.legal, hx]
    rfl

theorem MadeBy.records (h : MadeBy index b l) : b.Records index l := by
  induction h with
  | new => exact ⟨rfl, rfl, rfl⟩
  | @set _ b b' l x _ hset ih =>
    simp only [set?, Option.ite_none_right_eq_some, Option.some.injEq] at hset
    obtain ⟨hx, rfl⟩ := hset
    exact ih.snoc hx rfl rfl
  | @select _ _ b b' l fields projection _ hselect ih =>
    simp only [select?, Option.ite_none_right_eq_some, Option.some.injEq] at hselect
    obtain ⟨hx, rfl⟩ := hselect
    exact ih.snoc hx rfl rfl
  | transform _ _ ih => exact ⟨ih.search, ih.used, ih.legal⟩

/-- Every legal sequence of settings makes a builder. -/
theorem exists_madeBy (index : String) {l : List Setting}
    (h : Setting.allPermitted [] l = true) : ∃ b : Builder Document, b.MadeBy index l := by
  induction l using List.reverseRecOn with
  | nil => exact ⟨_, .new⟩
  | append_singleton l x ih =>
    rw [Setting.allPermitted_append_singleton, Bool.and_eq_true] at h
    obtain ⟨hl, hx⟩ := h
    obtain ⟨b, hb⟩ := ih hl
    rw [← hb.records.used] at hx
    have hset : b.set? x = some _ := if_pos hx
    exact ⟨_, hb.set hset⟩

/-- Two builders whose calls differ in order only have searches whose parts are alike. -/
theorem MadeBy.alike {l' : List Setting} (h : MadeBy index b l) (h' : MadeBy index b' l')
    (hcalls : Setting.Rearranged l l') (p : Part) :
    p.Alike (p.get b.search) (p.get b'.search) := by
  rw [h.records.search, h'.records.search]
  exact hcalls.alike h.records.legal (.ofIndex index) p

end Builder

end Retrieval

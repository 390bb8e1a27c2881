/-
  Retrieval/Proofs/Flat/Combination.lean
  ======================================
  **Trees of values, groups and combinations.**

  Conjunctions and disjunctions are treated alike here: a combination is a `Word` and
  its parts.  A query string keeps the words and the groups of such a tree, but not which
  of its parts belong together.  What can get lost is described on the tree: a
  combination *shows* a word when the word stands outside of every group, and the tree is
  *mixed* when a combination stands beside a part that shows the other word.
-/
import Mathlib.Data.List.Forall2
import Retrieval.Flat.Expression
import Retrieval.Proofs.Denotation

namespace Retrieval.Flat

open Query

/-! ### Words -/

/-- The words that join the parts of a combination. -/
inductive Word where
  | and
  | or
deriving DecidableEq

namespace Word

/-- The word that is not this one. -/
def other : Word → Word
  | and => or
  | or => and

/-- The combination of parts by a word. -/
def join : Word → List Query → Query
  | and, qs => .allOf qs
  | or, qs => .anyOf qs

/-- The text of a word. -/
def chars : Word → List Char
  | and => andWord
  | or => orWord

/-- Whether every member of a list, or some member, satisfies `P`. -/
def Combine {α : Type} (P : α → Prop) : Word → List α → Prop
  | and, xs => ∀ x ∈ xs, P x
  | or, xs => ∃ x ∈ xs, P x

/-- The truth that changes nothing beside other parts. -/
def Neutral : Word → Prop
  | and => True
  | or => False

@[simp] theorem other_other (w : Word) : w.other.other = w := by
  cases w <;> rfl

theorem other_ne (w : Word) : w.other ≠ w := by
  cases w <;> decide

theorem eq_or_eq_other (u w : Word) : w = u ∨ w = u.other := by
  cases u <;> cases w <;> decide

theorem join_inj {u w : Word} {qs rs : List Query} (h : u.join qs = w.join rs) :
    u = w ∧ qs = rs := by
  cases u <;> cases w <;> cases h <;> exact ⟨rfl, rfl⟩

theorem neutral_other_iff (w : Word) : w.other.Neutral ↔ ¬ w.Neutral := by
  cases w with
  | and => exact iff_of_false id (not_not_intro trivial)
  | or => exact iff_of_true trivial id

section Combine

variable {α : Type} {P Q : α → Prop} {w : Word}

theorem combine_congr {xs : List α} (h : ∀ x ∈ xs, P x ↔ Q x) :
    w.Combine P xs ↔ w.Combine Q xs := by
  cases w with
  | and => exact forall₂_congr h
  | or => exact exists_congr fun x => and_congr_right (h x)

theorem combine_singleton (P : α → Prop) (w : Word) (x : α) : w.Combine P [x] ↔ P x := by
  cases w with
  | and => exact List.forall_mem_singleton
  | or => simp only [Combine, List.mem_singleton, exists_eq_left]

theorem combine_flatMap {β : Type} (P : β → Prop) (w : Word) (f : α → List β) (xs : List α) :
    w.Combine P (xs.flatMap f) ↔ w.Combine (fun x => w.Combine P (f x)) xs := by
  cases w with
  | and => simp only [Combine, List.mem_flatMap]; grind
  | or => simp only [Combine, List.mem_flatMap]; grind

theorem combine_append_congr {β : Type} {P : α → Prop} {Q : β → Prop} {xs ys : List α}
    {xs' ys' : List β} (hxs : w.Combine P xs ↔ w.Combine Q xs')
    (hys : w.Combine P ys ↔ w.Combine Q ys') :
    w.Combine P (xs ++ ys) ↔ w.Combine Q (xs' ++ ys') := by
  cases w with
  | and =>
    simp only [Combine, List.forall_mem_append] at hxs hys ⊢
    rw [hxs, hys]
  | or =>
    simp only [Combine, List.mem_append, or_and_right, exists_or] at hxs hys ⊢
    rw [hxs, hys]

theorem combine_forall₂ {β : Type} {P : α → Prop} {Q : β → Prop} {xs : List α} {ys : List β}
    (h : List.Forall₂ (fun x y => P x ↔ Q y) xs ys) : w.Combine P xs ↔ w.Combine Q ys := by
  induction h with
  | nil => cases w <;> simp [Combine]
  | @cons x y xs ys hxy _ ih =>
    rw [← List.singleton_append, ← List.singleton_append (l := ys)]
    refine combine_append_congr ?_ ih
    rw [combine_singleton, combine_singleton, hxy]

/-- Beside parts that change nothing, one part decides. -/
theorem combine_of_neutral {before after : List α} {x : α}
    (h : ∀ y ∈ before ++ after, P y ↔ w.Neutral) :
    w.Combine P (before ++ x :: after) ↔ P x := by
  cases w with
  | and => simp only [Combine, Neutral, iff_true] at h ⊢; grind
  | or => simp only [Combine, Neutral, iff_false] at h ⊢; grind

/-- A combination of parts that change nothing changes nothing. -/
theorem combine_neutral {xs : List α} (h : ∀ x ∈ xs, P x ↔ w.Neutral) :
    w.Combine P xs ↔ w.Neutral := by
  cases w with
  | and => exact iff_of_true (fun x hx => (h x hx).mpr trivial) trivial
  | or => exact iff_of_false (fun ⟨x, hx, hP⟩ => (h x hx).mp hP) id

/-- A part that is not neutral decides against the others. -/
theorem combine_of_mem {xs : List α} {x : α} (hx : x ∈ xs) (h : P x ↔ ¬ w.Neutral) :
    w.Combine P xs ↔ ¬ w.Neutral := by
  cases w with
  | and => exact iff_of_false (fun hall => h.mp (hall x hx) trivial) (not_not_intro trivial)
  | or => exact iff_of_true ⟨x, hx, h.mpr id⟩ id

end Combine

theorem holds_join (leaf : Query → Prop) (w : Word) (qs : List Query) :
    (w.join qs).Holds leaf ↔ w.Combine (Query.Holds leaf) qs := by
  cases w with
  | and => exact holds_allOf leaf qs
  | or => exact holds_anyOf leaf qs

theorem leaves_join (w : Word) (qs : List Query) : (w.join qs).leaves = qs.flatMap leaves := by
  cases w <;> exact leavesAll_eq_flatMap qs

end Word

/-! ### Combinations -/

/-- A tree of escaped values, groups and combinations that are not empty. -/
inductive Combination : Query → Prop
  | value (v : String) : Combination (.exactly v)
  | group {q : Query} : Combination q → Combination (.group q)
  | join (w : Word) {qs : List Query} :
    qs ≠ [] → (∀ q ∈ qs, Combination q) → Combination (w.join qs)

/-- The word stands in the text of the tree outside of every group. -/
inductive Shows (u : Word) : Query → Prop
  | here {qs : List Query} : 2 ≤ qs.length → Shows u (u.join qs)
  | part (w : Word) {qs : List Query} {q : Query} : q ∈ qs → Shows u q → Shows u (w.join qs)

/-- Somewhere in the tree a combination stands beside a part that shows the other word. -/
inductive Mixed : Query → Prop
  | group {q : Query} : Mixed q → Mixed (.group q)
  | part (w : Word) {qs : List Query} {q : Query} : q ∈ qs → Mixed q → Mixed (w.join qs)
  | here (w : Word) {qs : List Query} {q : Query} :
    2 ≤ qs.length → q ∈ qs → Shows w.other q → Mixed (w.join qs)

theorem combination_join_iff (w : Word) (qs : List Query) :
    Combination (w.join qs) ↔ qs ≠ [] ∧ ∀ q ∈ qs, Combination q := by
  constructor
  · intro h
    generalize hq : w.join qs = q at h
    cases h with
    | value v => cases w <;> cases hq
    | group _ => cases w <;> cases hq
    | join w' hne hqs =>
      obtain ⟨rfl, rfl⟩ := Word.join_inj hq
      exact ⟨hne, hqs⟩
  · rintro ⟨hne, hqs⟩
    exact .join w hne hqs

theorem combination_group_iff (q : Query) : Combination (.group q) ↔ Combination q := by
  constructor
  · intro h
    generalize hq : Query.group q = r at h
    cases h with
    | value v => cases hq
    | group h =>
      obtain rfl := Query.group.inj hq
      exact h
    | join w _ _ => cases w <;> cases hq
  · exact .group

theorem shows_join_iff (u w : Word) (qs : List Query) :
    Shows u (w.join qs) ↔ (w = u ∧ 2 ≤ qs.length) ∨ ∃ q ∈ qs, Shows u q := by
  constructor
  · intro h
    generalize hq : w.join qs = q at h
    cases h with
    | here hlength =>
      obtain ⟨rfl, rfl⟩ := Word.join_inj hq
      exact Or.inl ⟨rfl, hlength⟩
    | part w' hmem h =>
      obtain ⟨rfl, rfl⟩ := Word.join_inj hq
      exact Or.inr ⟨_, hmem, h⟩
  · rintro (⟨rfl, hlength⟩ | ⟨q, hmem, h⟩)
    · exact .here hlength
    · exact .part w hmem h

theorem not_shows_value (u : Word) (v : String) : ¬ Shows u (.exactly v) := by
  intro h
  generalize hq : Query.exactly v = q at h
  cases h with
  | here _ => cases u <;> cases hq
  | part w _ _ => cases w <;> cases hq

theorem not_shows_group (u : Word) (q : Query) : ¬ Shows u (.group q) := by
  intro h
  generalize hq : Query.group q = r at h
  cases h with
  | here _ => cases u <;> cases hq
  | part w _ _ => cases w <;> cases hq

theorem mixed_join_iff (w : Word) (qs : List Query) :
    Mixed (w.join qs)
      ↔ (∃ q ∈ qs, Mixed q) ∨ (2 ≤ qs.length ∧ ∃ q ∈ qs, Shows w.other q) := by
  constructor
  · intro h
    generalize hq : w.join qs = q at h
    cases h with
    | group _ => cases w <;> cases hq
    | part w' hmem h =>
      obtain ⟨rfl, rfl⟩ := Word.join_inj hq
      exact Or.inl ⟨_, hmem, h⟩
    | here w' hlength hmem h =>
      obtain ⟨rfl, rfl⟩ := Word.join_inj hq
      exact Or.inr ⟨hlength, _, hmem, h⟩
  · rintro (⟨q, hmem, h⟩ | ⟨hlength, q, hmem, h⟩)
    · exact .part w hmem h
    · exact .here w hlength hmem h

theorem mixed_group_iff (q : Query) : Mixed (.group q) ↔ Mixed q := by
  constructor
  · intro h
    generalize hq : Query.group q = r at h
    cases h with
    | group h =>
      obtain rfl := Query.group.inj hq
      exact h
    | part w _ _ => cases w <;> cases hq
    | here w _ _ _ => cases w <;> cases hq
  · exact .group

theorem not_mixed_value (v : String) : ¬ Mixed (.exactly v) := by
  intro h
  generalize hq : Query.exactly v = q at h
  cases h with
  | group _ => cases hq
  | part w _ _ => cases w <;> cases hq
  | here w _ _ _ => cases w <;> cases hq

/-- Values beside one another do not mix. -/
theorem not_mixed_values (w : Word) (vs : List String) :
    ¬ Mixed (w.join (vs.map Query.exactly)) := by
  rw [mixed_join_iff]
  rintro (⟨q, hmem, h⟩ | ⟨-, q, hmem, h⟩)
  · obtain ⟨v, -, rfl⟩ := List.mem_map.mp hmem
    exact not_mixed_value v h
  · obtain ⟨v, -, rfl⟩ := List.mem_map.mp hmem
    exact not_shows_value _ v h

/-- A tree that shows both words is mixed. -/
theorem mixed_of_shows {q : Query} (hq : Combination q) {u : Word} (h : Shows u q)
    (hother : Shows u.other q) : Mixed q := by
  induction hq with
  | value v => exact absurd h (not_shows_value u v)
  | @group q _ _ => exact absurd h (not_shows_group u q)
  | @join w qs _ _ ih =>
    rw [shows_join_iff] at h hother
    by_cases hlength : 2 ≤ qs.length
    · rcases Word.eq_or_eq_other u w with rfl | rfl
      · rcases hother with ⟨heq, -⟩ | ⟨q, hmem, hshows⟩
        · exact absurd heq.symm (Word.other_ne w)
        · exact .here w hlength hmem hshows
      · rcases h with ⟨heq, -⟩ | ⟨q, hmem, hshows⟩
        · exact absurd heq (Word.other_ne u)
        · refine .here u.other hlength hmem ?_
          rw [Word.other_other]
          exact hshows
    · obtain ⟨q, hmem, hshows⟩ := h.resolve_left fun h => hlength h.2
      obtain ⟨q', hmem', hshows'⟩ := hother.resolve_left fun h => hlength h.2
      have heq : q = q' := by
        match qs, hlength with
        | [_], _ =>
          rw [List.mem_singleton] at hmem hmem'
          rw [hmem, hmem']
        | _ :: _ :: _, hlength => simp at hlength
      exact .part w hmem (ih q hmem hshows (heq ▸ hshows'))

/-! ### Leaves decide -/

/-- When all leaves agree, the tree agrees with them. -/
theorem Combination.holds_iff_of_leaves {q : Query} (hq : Combination q) {leaf : Query → Prop}
    {w : Word} (h : ∀ l ∈ q.leaves, leaf l ↔ w.Neutral) : q.Holds leaf ↔ w.Neutral := by
  induction hq with
  | value v => exact h _ (List.mem_singleton_self _)
  | group _ ih => exact ih h
  | @join u qs hne _ ih =>
    rw [Word.leaves_join] at h
    have hparts : ∀ q ∈ qs, q.Holds leaf ↔ w.Neutral := fun q hq =>
      ih q hq fun l hl => h l (List.mem_flatMap.mpr ⟨q, hq, hl⟩)
    rw [Word.holds_join]
    rcases Word.eq_or_eq_other w u with rfl | rfl
    · exact Word.combine_neutral hparts
    · obtain ⟨q, rest, rfl⟩ := List.exists_cons_of_ne_nil hne
      have hq : q.Holds leaf ↔ ¬ w.other.Neutral := by
        rw [← Word.neutral_other_iff, Word.other_other]
        exact hparts q List.mem_cons_self
      rw [Word.combine_of_mem List.mem_cons_self hq, ← Word.neutral_other_iff, Word.other_other]

end Retrieval.Flat

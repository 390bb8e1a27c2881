/-
  Retrieval/Proofs/Flat/Nesting.lean
  ==================================
  **What is left of nested combinations in a query string.**

  The parts of a combination are written side by side without parentheses, so a query
  string is a chain of values and groups with words between them, and nested
  combinations become one chain.  The chain can be read off the text
  (`alike_of_chainChars_eq`), but the tree cannot be read off the chain.

  As long as no combination stands beside a part that shows the other word, the trees
  with one text agree.  Otherwise there is another tree with the same text that groups
  the parts the other way around, and if no value occurs twice the two disagree.
-/
import Mathlib.Data.List.Forall2
import Retrieval.Proofs.Flat.Combination
import Retrieval.Proofs.Flat.Protection
import Retrieval.Proofs.Flat.Reading

namespace Retrieval.Flat

open Text Query

/-! ### Texts between blanks -/

theorem joined_cons (separator text : List Char) (texts : List (List Char)) :
    joined separator (text :: texts) = text ++ texts.flatMap (separator ++ ·) := by
  induction texts generalizing text with
  | nil => exact (List.append_nil text).symm
  | cons second texts ih =>
    rw [joined, ih, List.flatMap_cons, List.append_assoc, List.append_assoc]
    exact List.cons_ne_nil second texts

/-- A solid text ends at the first blank behind it. -/
theorem Solid.append_inj {a b s t : List Char} (ha : Solid a) (hb : Solid b)
    (hs : s = [] ∨ ∃ rest, s = ' ' :: rest) (ht : t = [] ∨ ∃ rest, t = ' ' :: rest)
    (h : a ++ s = b ++ t) : a = b ∧ s = t := by
  have hcut : ∀ {c : List Char}, Solid c →
      ∀ rest, cut? [' '] (c ++ ' ' :: rest) = some (c, rest) := by
    intro c hc rest
    have hword := hc.cut?_word [] rest
    rw [List.append_assoc] at hword
    exact hword
  rcases hs with rfl | ⟨s, rfl⟩ <;> rcases ht with rfl | ⟨t, rfl⟩
  · rw [List.append_nil, List.append_nil] at h
    exact ⟨h, rfl⟩
  · rw [List.append_nil] at h
    have hnone := ha.cut?_eq_none []
    rw [h, hcut hb] at hnone
    cases hnone
  · rw [List.append_nil] at h
    have hnone := hb.cut?_eq_none []
    rw [← h, hcut ha] at hnone
    cases hnone
  · have hsome := hcut ha s
    rw [h, hcut hb] at hsome
    obtain ⟨rfl, rfl⟩ := Prod.mk.inj (Option.some.inj hsome)
    exact ⟨rfl, rfl⟩

theorem Word.chars_append_inj {u w : Word} {s t : List Char} (h : u.chars ++ s = w.chars ++ t) :
    u = w ∧ s = t := by
  cases u <;> cases w <;> simp [Word.chars, andWord, orWord] at h <;> exact ⟨rfl, h⟩

/-! ### Values -/

theorem value_ne_grouped (text inner : List Char) : value true text ≠ grouped inner := by
  intro h
  unfold value at h
  split at h
  · cases h
  · rcases escapeToken_head h with hc | hc <;> revert hc <;> decide

/-! ### Chains -/

mutual

/-- The values and groups of a tree in order, each with the word in front of it.  In
    front of the first stands the given word. -/
def chain (w : Word) : Query → List (Word × Query)
  | .allOf qs => chainParts w .and qs
  | .anyOf qs => chainParts w .or qs
  | q => [(w, q)]

/-- The chain of a list of parts with a word between them. -/
def chainParts (w between : Word) : List Query → List (Word × Query)
  | [] => []
  | q :: qs => chain w q ++ chainParts between between qs

end

theorem chainParts_eq_flatMap (u : Word) (qs : List Query) :
    chainParts u u qs = qs.flatMap (chain u) := by
  induction qs with
  | nil => rfl
  | cons q qs ih => rw [chainParts, ih, List.flatMap_cons]

theorem chain_join (w u : Word) (q : Query) (qs : List Query) :
    chain w (u.join (q :: qs)) = chain w q ++ qs.flatMap (chain u) := by
  rw [← chainParts_eq_flatMap]
  cases u <;> rfl

/-- The text of a chain. -/
def chainChars (links : List (Word × Query)) : List Char :=
  links.flatMap fun link => link.1.chars ++ queryChars link.2

theorem queryChars_join (w : Word) (qs : List Query) :
    queryChars (w.join qs) = joined w.chars (qs.map queryChars) := by
  rw [← queriesChars_eq_map]
  cases w <;> rfl

/-- The chain of a tree has the text of the tree. -/
theorem chainChars_chain {q : Query} (hq : Combination q) (w : Word) :
    chainChars (chain w q) = w.chars ++ queryChars q := by
  induction hq generalizing w with
  | value v => exact List.flatMap_singleton ..
  | group _ _ => exact List.flatMap_singleton ..
  | @join u qs hne _ ih =>
    obtain ⟨q, rest, rfl⟩ := List.exists_cons_of_ne_nil hne
    obtain ⟨hq, hrest⟩ := List.forall_mem_cons.mp ih
    have htail : chainChars (rest.flatMap (chain u))
        = (rest.map queryChars).flatMap (u.chars ++ ·) := by
      rw [chainChars, List.flatMap_assoc, List.flatMap_map]
      exact List.flatMap_congr fun r hr => hrest r hr u
    rw [chain_join, queryChars_join, List.map_cons, joined_cons, chainChars, List.flatMap_append,
      ← chainChars, ← chainChars, hq w, htail, List.append_assoc]

/-- A value or a group. -/
inductive Link : Query → Prop
  | value (v : String) : Link (.exactly v)
  | group {q : Query} : Combination q → Link (.group q)

theorem Combination.escaped {q : Query} (hq : Combination q) : Escaped q := by
  induction hq with
  | value v => exact .term [v]
  | group _ ih => exact .group ih
  | join w _ _ ih =>
    cases w with
    | and => exact .allOf ih
    | or => exact .anyOf ih

theorem Link.solid {q : Query} (h : Link q) : Solid (queryChars q) := by
  cases h with
  | value v => exact solid_value v.toList
  | group h => exact solid_grouped h.escaped.balanced

theorem Combination.link_of_mem_chain {q : Query} (hq : Combination q) {w : Word} :
    ∀ link ∈ chain w q, Link link.2 := by
  induction hq generalizing w with
  | value v => exact List.forall_mem_singleton.mpr (.value v)
  | group hq _ => exact List.forall_mem_singleton.mpr (.group hq)
  | @join u qs hne _ ih =>
    obtain ⟨q, rest, rfl⟩ := List.exists_cons_of_ne_nil hne
    obtain ⟨hq, hrest⟩ := List.forall_mem_cons.mp ih
    rw [chain_join, List.forall_mem_append]
    refine ⟨hq, fun link hlink => ?_⟩
    obtain ⟨r, hr, hmem⟩ := List.mem_flatMap.mp hlink
    exact hrest r hr link hmem

/-- The words of a chain are the first one and those that the tree shows. -/
theorem mem_words_chain_iff {q : Query} (hq : Combination q) (u w : Word) :
    u ∈ (chain w q).map Prod.fst ↔ u = w ∨ Shows u q := by
  induction hq generalizing w with
  | value v =>
    rw [or_iff_left (not_shows_value u v)]
    exact List.mem_singleton
  | group _ _ =>
    rw [or_iff_left (not_shows_group u _)]
    exact List.mem_singleton
  | @join between qs hne _ ih =>
    obtain ⟨q, rest, rfl⟩ := List.exists_cons_of_ne_nil hne
    obtain ⟨hq, hrest⟩ := List.forall_mem_cons.mp ih
    have htail : u ∈ (rest.flatMap (chain between)).map Prod.fst
        ↔ ∃ r ∈ rest, u = between ∨ Shows u r := by
      rw [List.map_flatMap, List.mem_flatMap]
      exact exists_congr fun r => and_congr_right fun hr => hrest r hr between
    rw [chain_join, List.map_append, List.mem_append, hq w, htail, shows_join_iff]
    constructor
    · rintro ((rfl | hshows) | ⟨r, hr, rfl | hshows⟩)
      · exact Or.inl rfl
      · exact Or.inr (Or.inr ⟨q, List.mem_cons_self, hshows⟩)
      · refine Or.inr (Or.inl ⟨rfl, ?_⟩)
        have hlength := List.length_pos_of_mem hr
        rw [List.length_cons]
        omega
      · exact Or.inr (Or.inr ⟨r, List.mem_cons_of_mem q hr, hshows⟩)
    · rintro (rfl | ⟨rfl, hlength⟩ | ⟨r, hr, hshows⟩)
      · exact Or.inl (Or.inl rfl)
      · cases rest with
        | nil => simp at hlength
        | cons r rest => exact Or.inr ⟨r, List.mem_cons_self, Or.inl rfl⟩
      · rcases List.mem_cons.mp hr with rfl | hr
        · exact Or.inl (Or.inr hshows)
        · exact Or.inr ⟨r, hr, Or.inr hshows⟩

/-- Two members of chains that their texts do not tell apart. -/
structure Alike (x y : Word × Query) : Prop where
  word : x.1 = y.1
  link : Link y.2
  text : queryChars x.2 = queryChars y.2

/-- The text of a chain tells its words and the texts of its members. -/
theorem alike_of_chainChars_eq {c d : List (Word × Query)} (hc : ∀ link ∈ c, Link link.2)
    (hd : ∀ link ∈ d, Link link.2) (h : chainChars c = chainChars d) :
    List.Forall₂ Alike c d := by
  have hstart : ∀ links, chainChars links = [] ∨ ∃ rest, chainChars links = ' ' :: rest := by
    intro links
    cases links with
    | nil => exact Or.inl rfl
    | cons link links =>
      obtain ⟨w, q⟩ := link
      cases w <;> exact Or.inr ⟨_, rfl⟩
  have hne : ∀ link links, chainChars (link :: links) ≠ [] := by
    rintro ⟨w, q⟩ links hnil
    cases w <;> cases hnil
  induction c generalizing d with
  | nil =>
    cases d with
    | nil => exact .nil
    | cons y d => exact absurd h.symm (hne y d)
  | cons x c ih =>
    cases d with
    | nil => exact absurd h (hne x c)
    | cons y d =>
      obtain ⟨hx, hc⟩ := List.forall_mem_cons.mp hc
      obtain ⟨hy, hd⟩ := List.forall_mem_cons.mp hd
      simp only [chainChars, List.flatMap_cons, List.append_assoc] at h
      obtain ⟨hword, h⟩ := Word.chars_append_inj h
      obtain ⟨htext, h⟩ := hx.solid.append_inj hy.solid (hstart c) (hstart d) h
      exact .cons ⟨hword, hy, htext⟩ (ih hc hd h)

/-! ### Trees whose words do not mix -/

/-- Where the other word does not show, the members of the chain decide together. -/
theorem Combination.holds_iff_chain {q : Query} (hq : Combination q) {u : Word}
    (h : ¬ Shows u.other q) (leaf : Query → Prop) (w : Word) :
    q.Holds leaf ↔ u.Combine (fun link => link.2.Holds leaf) (chain w q) := by
  have hsingle : ∀ link : Word × Query,
      link.2.Holds leaf ↔ u.Combine (fun link => link.2.Holds leaf) [link] :=
    fun link => (Word.combine_singleton (fun link : Word × Query => link.2.Holds leaf) u link).symm
  induction hq generalizing w with
  | value v => exact hsingle (w, _)
  | group _ _ => exact hsingle (w, _)
  | @join v qs hne _ ih =>
    obtain ⟨q, rest, rfl⟩ := List.exists_cons_of_ne_nil hne
    have hshows : ∀ r ∈ q :: rest, ¬ Shows u.other r := fun r hr hr' => h (.part v hr hr')
    have hparts : ∀ r ∈ q :: rest, ∀ w,
        r.Holds leaf ↔ u.Combine (fun link => link.2.Holds leaf) (chain w r) :=
      fun r hr => ih r hr (hshows r hr)
    rw [Word.holds_join, chain_join]
    rcases Word.eq_or_eq_other u v with rfl | rfl
    · rw [← List.singleton_append]
      refine Word.combine_append_congr ?_ ?_
      · rw [Word.combine_singleton]
        exact hparts q List.mem_cons_self w
      · rw [Word.combine_flatMap]
        exact Word.combine_congr fun r hr => hparts r (List.mem_cons_of_mem q hr) v
    · cases rest with
      | nil =>
        rw [Word.combine_singleton, List.flatMap_nil, List.append_nil]
        exact hparts q List.mem_cons_self w
      | cons r rest =>
        refine absurd (.here ?_) h
        simp

/-- The tree agrees with every value or group of the same text. -/
def Agrees (leaf : Query → Prop) (q : Query) : Prop :=
  ∀ r, Link r → queryChars q = queryChars r → (q.Holds leaf ↔ r.Holds leaf)

variable {leaf : Query → Prop}

theorem holds_iff_of_agrees {q r : Query} (hq : Combination q) (hr : Combination r)
    (hmixed : ¬ Mixed q) (htext : queryChars q = queryChars r)
    (hagrees : ∀ w, ∀ link ∈ chain w q, Agrees leaf link.2) :
    q.Holds leaf ↔ r.Holds leaf := by
  obtain ⟨u, hu⟩ : ∃ u : Word, ¬ Shows u.other q := by
    by_contra hall
    have hshows : ∀ u : Word, Shows u.other q := fun u => not_not.mp fun h => hall ⟨u, h⟩
    exact hmixed (mixed_of_shows hq (hshows .and) (hshows .or))
  have halike : List.Forall₂ Alike (chain u q) (chain u r) := by
    refine alike_of_chainChars_eq hq.link_of_mem_chain hr.link_of_mem_chain ?_
    rw [chainChars_chain hq, chainChars_chain hr, htext]
  have hwords : (chain u q).map Prod.fst = (chain u r).map Prod.fst := by
    rw [← List.forall₂_eq_eq_eq, List.forall₂_map_left_iff, List.forall₂_map_right_iff]
    exact halike.imp fun _ _ h => h.word
  have hu' : ¬ Shows u.other r := by
    intro hshows
    have hmem := (mem_words_chain_iff hr u.other u).mpr (Or.inr hshows)
    rw [← hwords, mem_words_chain_iff hq] at hmem
    exact hmem.elim (Word.other_ne u) hu
  rw [hq.holds_iff_chain hu leaf u, hr.holds_iff_chain hu' leaf u]
  refine Word.combine_forall₂ (((List.forall₂_and_left _ _).mpr ⟨hagrees u, halike⟩).imp ?_)
  intro x y h
  exact h.1 y.2 h.2.link h.2.text

theorem Combination.agrees {q : Query} (hq : Combination q) (hmixed : ¬ Mixed q) (w : Word) :
    ∀ link ∈ chain w q, Agrees leaf link.2 := by
  induction hq generalizing w with
  | value v =>
    refine List.forall_mem_singleton.mpr fun r hr htext => ?_
    cases hr with
    | value v' =>
      have hchars : Flat.value true v.toList = Flat.value true v'.toList := htext
      rw [String.toList_inj.mp (value_injective hchars)]
    | group _ => exact absurd htext (value_ne_grouped _ _)
  | @group q hq ih =>
    refine List.forall_mem_singleton.mpr fun r hr htext => ?_
    cases hr with
    | value v' => exact absurd htext.symm (value_ne_grouped _ _)
    | @group r hr =>
      have hgrouped : grouped (queryChars q) = grouped (queryChars r) := htext
      have hinner : queryChars q = queryChars r :=
        List.append_cancel_right (List.cons.inj hgrouped).2
      have hmixed' : ¬ Mixed q := fun h => hmixed (.group h)
      have hholds : q.Holds leaf ↔ r.Holds leaf :=
        holds_iff_of_agrees hq hr hmixed' hinner (ih hmixed')
      exact hholds
  | @join u qs hne _ ih =>
    obtain ⟨q, rest, rfl⟩ := List.exists_cons_of_ne_nil hne
    have hmixed' : ∀ r ∈ q :: rest, ¬ Mixed r := fun r hr h => hmixed (.part u hr h)
    have hparts : ∀ r ∈ q :: rest, ∀ w, ∀ link ∈ chain w r, Agrees leaf link.2 :=
      fun r hr => ih r hr (hmixed' r hr)
    rw [chain_join, List.forall_mem_append]
    refine ⟨hparts q List.mem_cons_self w, fun link hlink => ?_⟩
    obtain ⟨r, hr, hmem⟩ := List.mem_flatMap.mp hlink
    exact hparts r (List.mem_cons_of_mem q hr) u link hmem

/-- Trees with one text agree when the words of one of them do not mix. -/
theorem Combination.holds_iff_of_text_eq {q r : Query} (hq : Combination q)
    (hr : Combination r) (hmixed : ¬ Mixed q) (htext : queryChars q = queryChars r) :
    q.Holds leaf ↔ r.Holds leaf :=
  holds_iff_of_agrees hq hr hmixed htext (hq.agrees hmixed)

/-! ### Trees whose words mix -/

theorem joined_append_cons (separator : List Char) (before : List (List Char)) (text : List Char)
    (after : List (List Char)) :
    joined separator (before ++ text :: after)
      = before.flatMap (· ++ separator) ++ joined separator (text :: after) := by
  induction before with
  | nil => rfl
  | cons first before ih =>
    rw [List.cons_append, List.flatMap_cons, List.append_assoc, ← ih, joined]
    simp

/-- A text between others can be cut without touching the others. -/
theorem joined_cut (separator : List Char) (before : List (List Char)) (a word b : List Char)
    (after : List (List Char)) :
    joined separator (before ++ (a ++ word ++ b) :: after)
      = joined separator (before ++ [a]) ++ word ++ joined separator (b :: after) := by
  simp only [joined_append_cons, joined_cons, List.flatMap_nil, List.append_nil, List.append_assoc]

/-- A word in the text of a tree splits the tree into two trees of the same kind. -/
theorem Shows.split {u : Word} {q : Query} (h : Shows u q) (hq : Combination q) :
    ∃ x y, Combination x ∧ Combination y ∧
      queryChars q = queryChars x ++ u.chars ++ queryChars y ∧ q.leaves = x.leaves ++ y.leaves := by
  induction h with
  | @here qs hlength =>
    match qs, hlength with
    | first :: second :: rest, _ =>
      obtain ⟨-, hparts⟩ := (combination_join_iff _ _).mp hq
      obtain ⟨hfirst, hrest⟩ := List.forall_mem_cons.mp hparts
      refine ⟨first, u.join (second :: rest), hfirst, .join u (List.cons_ne_nil _ _) hrest, ?_, ?_⟩
      · rw [queryChars_join, queryChars_join]
        rfl
      · rw [Word.leaves_join, Word.leaves_join, List.flatMap_cons]
  | @part w qs q hmem _ ih =>
    obtain ⟨-, hparts⟩ := (combination_join_iff _ _).mp hq
    obtain ⟨x, y, hx, hy, htext, hleaves⟩ := ih (hparts q hmem)
    obtain ⟨before, after, rfl⟩ := List.append_of_mem hmem
    rw [List.forall_mem_append, List.forall_mem_cons] at hparts
    obtain ⟨hbefore, -, hafter⟩ := hparts
    refine ⟨w.join (before ++ [x]), w.join (y :: after), .join w (by simp) ?_,
      .join w (List.cons_ne_nil _ _) ?_, ?_, ?_⟩
    · exact List.forall_mem_append.mpr ⟨hbefore, List.forall_mem_singleton.mpr hx⟩
    · exact List.forall_mem_cons.mpr ⟨hy, hafter⟩
    · rw [queryChars_join, queryChars_join, queryChars_join, List.map_append, List.map_append,
        List.map_cons, htext]
      exact joined_cut ..
    · simp only [Word.leaves_join, List.flatMap_append, List.flatMap_cons, hleaves,
        List.flatMap_nil, List.append_nil, List.append_assoc]

/-- The truth of some leaves, with one truth for all others. -/
def amid (inside : List Query) (leaf : Query → Prop) (outside : Prop) (l : Query) : Prop :=
  if l ∈ inside then leaf l else outside

theorem amid_of_mem {inside : List Query} {l : Query} (h : l ∈ inside) (leaf : Query → Prop)
    (outside : Prop) : amid inside leaf outside l ↔ leaf l := by
  rw [amid, if_pos h]

theorem amid_of_not_mem {inside : List Query} {l : Query} (h : l ∉ inside) (leaf : Query → Prop)
    (outside : Prop) : amid inside leaf outside l ↔ outside := by
  rw [amid, if_neg h]

/-- Combinations by different words disagree when a part of the one has no leaf in common
    with a part of the other. -/
theorem exists_disagreement_across (w : Word) {qs rs : List Query} {q r : Query} (hq : Combination q)
    (hr : Combination r) (hqs : q ∈ qs) (hrs : r ∈ rs) (hapart : ∀ l ∈ r.leaves, l ∉ q.leaves) :
    ∃ leaf, ¬ ((w.join qs).Holds leaf ↔ (w.other.join rs).Holds leaf) := by
  refine ⟨amid q.leaves (fun _ => w.other.Neutral) w.Neutral, ?_⟩
  have hinside : q.Holds (amid q.leaves (fun _ => w.other.Neutral) w.Neutral) ↔ ¬ w.Neutral := by
    rw [← Word.neutral_other_iff]
    exact hq.holds_iff_of_leaves fun l hl => amid_of_mem hl _ _
  have houtside :
      r.Holds (amid q.leaves (fun _ => w.other.Neutral) w.Neutral) ↔ ¬ w.other.Neutral := by
    rw [← Word.neutral_other_iff, Word.other_other]
    exact hr.holds_iff_of_leaves fun l hl => amid_of_not_mem (hapart l hl) _ _
  rw [Word.holds_join, Word.holds_join, Word.combine_of_mem hqs hinside,
    Word.combine_of_mem hrs houtside, ← Word.neutral_other_iff]
  exact iff_not_self

/-- A part that disagrees with another tree does so within its combination, if the other
    parts have no leaf in common with it. -/
theorem exists_disagreement_within (w : Word) {before after : List Query} {q r : Query}
    (hothers : ∀ y ∈ before ++ after, Combination y)
    (hapart : ∀ y ∈ before ++ after, ∀ l ∈ y.leaves, l ∉ q.leaves) (hleaves : r.leaves = q.leaves)
    {leaf : Query → Prop} (h : ¬ (q.Holds leaf ↔ r.Holds leaf)) :
    ∃ leaf, ¬ ((w.join (before ++ q :: after)).Holds leaf
      ↔ (w.join (before ++ r :: after)).Holds leaf) := by
  refine ⟨amid q.leaves leaf w.Neutral, ?_⟩
  have hneutral : ∀ y ∈ before ++ after, y.Holds (amid q.leaves leaf w.Neutral) ↔ w.Neutral :=
    fun y hy => (hothers y hy).holds_iff_of_leaves fun l hl =>
      amid_of_not_mem (hapart y hy l hl) leaf w.Neutral
  have hq : q.Holds (amid q.leaves leaf w.Neutral) ↔ q.Holds leaf :=
    holds_congr fun l hl => amid_of_mem hl leaf w.Neutral
  have hr : r.Holds (amid q.leaves leaf w.Neutral) ↔ r.Holds leaf :=
    holds_congr fun l hl => amid_of_mem (hleaves ▸ hl) leaf w.Neutral
  rw [Word.holds_join, Word.holds_join, Word.combine_of_neutral hneutral,
    Word.combine_of_neutral hneutral, hq, hr]
  exact h

/-- Without repetitions, a part has no leaf in common with the parts around it. -/
theorem leaves_apart {before after : List Query} {q : Query}
    (h : ((before ++ q :: after).flatMap leaves).Nodup) :
    q.leaves.Nodup ∧ ∀ y ∈ before ++ after, ∀ l ∈ y.leaves, l ∉ q.leaves := by
  rw [List.flatMap_append, List.flatMap_cons] at h
  obtain ⟨-, hrest, hbefore⟩ := List.nodup_append.mp h
  obtain ⟨hq, -, hafter⟩ := List.nodup_append.mp hrest
  refine ⟨hq, fun y hy l hl hmem => ?_⟩
  rcases List.mem_append.mp hy with hy | hy
  · exact hbefore l (List.mem_flatMap.mpr ⟨y, hy, hl⟩) l (List.mem_append_left _ hmem) rfl
  · exact hafter l hmem l (List.mem_flatMap.mpr ⟨y, hy, hl⟩) rfl

/-- A mixed tree without repeated values disagrees with another tree of the same text. -/
theorem Mixed.exists_disagreement {q : Query} (h : Mixed q) (hq : Combination q)
    (hdistinct : q.leaves.Nodup) :
    ∃ r leaf, Combination r ∧ queryChars r = queryChars q ∧ r.leaves = q.leaves ∧
      ¬ (q.Holds leaf ↔ r.Holds leaf) := by
  induction h with
  | group _ ih =>
    obtain ⟨r, leaf, hr, htext, hleaves, hne⟩ := ih ((combination_group_iff _).mp hq) hdistinct
    refine ⟨.group r, leaf, .group hr, ?_, hleaves, hne⟩
    rw [queryChars, queryChars, htext]
  | @part w qs q hmem _ ih =>
    obtain ⟨before, after, rfl⟩ := List.append_of_mem hmem
    obtain ⟨-, hparts⟩ := (combination_join_iff _ _).mp hq
    rw [Word.leaves_join] at hdistinct
    obtain ⟨hinner, hapart⟩ := leaves_apart hdistinct
    obtain ⟨r, leaf, hr, htext, hleaves, hne⟩ := ih (hparts q hmem) hinner
    rw [List.forall_mem_append, List.forall_mem_cons] at hparts
    obtain ⟨hbefore, -, hafter⟩ := hparts
    have hothers := List.forall_mem_append.mpr ⟨hbefore, hafter⟩
    obtain ⟨leaf', hne'⟩ := exists_disagreement_within w hothers hapart hleaves hne
    refine ⟨w.join (before ++ r :: after), leaf', .join w (by simp) ?_, ?_, ?_, hne'⟩
    · exact List.forall_mem_append.mpr ⟨hbefore, List.forall_mem_cons.mpr ⟨hr, hafter⟩⟩
    · rw [queryChars_join, queryChars_join, List.map_append, List.map_append, List.map_cons,
        List.map_cons, htext]
    · rw [Word.leaves_join, Word.leaves_join, List.flatMap_append, List.flatMap_append,
        List.flatMap_cons, List.flatMap_cons, hleaves]
  | @here w qs q hlength hmem hshows =>
    obtain ⟨before, after, rfl⟩ := List.append_of_mem hmem
    obtain ⟨-, hparts⟩ := (combination_join_iff _ _).mp hq
    obtain ⟨x, y, hx, hy, htext, hleaves⟩ := hshows.split (hparts q hmem)
    rw [List.forall_mem_append, List.forall_mem_cons] at hparts
    obtain ⟨hbefore, -, hafter⟩ := hparts
    -- the same text, with the words of `q` and of its combination grouped the other way around
    have hleft : Combination (w.join (before ++ [x])) :=
      .join w (by simp) (List.forall_mem_append.mpr ⟨hbefore, List.forall_mem_singleton.mpr hx⟩)
    have hright : Combination (w.join (y :: after)) :=
      .join w (List.cons_ne_nil _ _) (List.forall_mem_cons.mpr ⟨hy, hafter⟩)
    obtain ⟨leaf, hne⟩ : ∃ leaf, ¬ ((w.join (before ++ q :: after)).Holds leaf
        ↔ (w.other.join [w.join (before ++ [x]), w.join (y :: after)]).Holds leaf) := by
      rw [Word.leaves_join] at hdistinct
      cases before with
      | nil =>
        cases after with
        | nil => simp at hlength
        | cons z after =>
          have hz : z ∈ [] ++ z :: after := List.mem_cons_self
          have hapart := (leaves_apart hdistinct).2 z hz
          refine exists_disagreement_across w (hafter z hz) hleft (List.mem_cons_of_mem q hz)
            List.mem_cons_self fun l hl hl' => hapart l hl' ?_
          rw [Word.leaves_join, List.nil_append, List.flatMap_singleton] at hl
          rw [hleaves]
          exact List.mem_append_left _ hl
      | cons z before =>
        have hapart := (@leaves_apart [] (before ++ q :: after) z hdistinct).2
        refine exists_disagreement_across w (hbefore z List.mem_cons_self) hright List.mem_cons_self
          (List.mem_cons_of_mem _ (List.mem_singleton_self _)) fun l hl => ?_
        rw [Word.leaves_join, List.flatMap_cons, List.mem_append] at hl
        rcases hl with hl | hl
        · refine hapart q (List.mem_append_right before List.mem_cons_self) l ?_
          rw [hleaves]
          exact List.mem_append_right _ hl
        · obtain ⟨y', hy', hl⟩ := List.mem_flatMap.mp hl
          exact hapart y' (List.mem_append_right before (List.mem_cons_of_mem q hy')) l hl
    refine ⟨w.other.join [w.join (before ++ [x]), w.join (y :: after)], leaf,
      .join w.other (List.cons_ne_nil _ _) ?_, ?_, ?_, hne⟩
    · exact List.forall_mem_cons.mpr ⟨hleft, List.forall_mem_singleton.mpr hright⟩
    · rw [queryChars_join w, List.map_append, List.map_cons, htext, joined_cut, queryChars_join,
        List.map_cons, List.map_singleton, queryChars_join, queryChars_join, List.map_append]
      rfl
    · simp only [Word.leaves_join, List.flatMap_append, List.flatMap_cons, hleaves,
        List.flatMap_nil, List.append_nil, List.append_assoc]

/-- **What a query string keeps of nested combinations.**  A tree whose words do not mix
    agrees with every tree of the same text.  A tree whose words mix, and in which no value
    occurs twice, has the text of a tree that it does not agree with. -/
theorem queryText_determines_holds {q : Query} (hq : Combination q) :
    (¬ Mixed q → ∀ r, Combination r → queryText r = queryText q →
      ∀ leaf, q.Holds leaf ↔ r.Holds leaf) ∧
    (Mixed q → q.leaves.Nodup → ∃ r, Combination r ∧ queryText r = queryText q ∧
      ∃ leaf, ¬ (q.Holds leaf ↔ r.Holds leaf)) := by
  constructor
  · intro hmixed r hr htext leaf
    exact hq.holds_iff_of_text_eq hr hmixed (String.ofList_inj.mp htext).symm
  · intro hmixed hdistinct
    obtain ⟨r, leaf, hr, htext, -, hne⟩ := hmixed.exists_disagreement hq hdistinct
    exact ⟨r, hr, congrArg String.ofList htext, leaf, hne⟩

/-- The conjunction of `a` and the disjunction of `b` and `c`, without a group. -/
def conjunctionFirst : Query :=
  .allOf [.exactly "a", .anyOf [.exactly "b", .exactly "c"]]

/-- The disjunction of `c` and the conjunction of `a` and `b`, without a group. -/
def disjunctionFirst : Query :=
  .anyOf [.allOf [.exactly "a", .exactly "b"], .exactly "c"]

theorem combination_values (w : Word) (v : String) (vs : List String) :
    Combination (w.join ((v :: vs).map Query.exactly)) :=
  .join w (List.cons_ne_nil _ _) (List.forall_mem_map.mpr fun v _ => .value v)

theorem combination_conjunctionFirst : Combination conjunctionFirst :=
  .join .and (List.cons_ne_nil _ _) (List.forall_mem_cons.mpr
    ⟨.value "a", List.forall_mem_singleton.mpr (combination_values .or "b" ["c"])⟩)

theorem combination_disjunctionFirst : Combination disjunctionFirst :=
  .join .or (List.cons_ne_nil _ _) (List.forall_mem_cons.mpr
    ⟨combination_values .and "a" ["b"], List.forall_mem_singleton.mpr (.value "c")⟩)

theorem queryText_determines_holds_conjunctionFirst :
    (Combination conjunctionFirst ∧ Mixed conjunctionFirst ∧ conjunctionFirst.leaves.Nodup ∧
      ∃ r, Combination r ∧ queryText r = queryText conjunctionFirst ∧
        ∃ leaf, ¬ (conjunctionFirst.Holds leaf ↔ r.Holds leaf)) ∧
    (Combination (.group (.anyOf [.exactly "b", .exactly "c"])) ∧
      ¬ Mixed (.group (.anyOf [.exactly "b", .exactly "c"])) ∧
      ∀ r, Combination r →
        queryText r = queryText (.group (.anyOf [.exactly "b", .exactly "c"])) →
        ∀ leaf, (Query.group (.anyOf [.exactly "b", .exactly "c"])).Holds leaf ↔ r.Holds leaf) := by
  have hshows : Shows .or (.anyOf [.exactly "b", .exactly "c"]) :=
    .here (u := .or) (Nat.le_refl 2)
  have hmixed : Mixed conjunctionFirst :=
    .here .and (Nat.le_refl 2) (List.mem_cons_of_mem _ (List.mem_singleton_self _)) hshows
  have hdistinct : conjunctionFirst.leaves.Nodup := by decide
  have hgroup : Combination (.group (.anyOf [.exactly "b", .exactly "c"])) :=
    .group (combination_values .or "b" ["c"])
  have hunmixed : ¬ Mixed (.group (.anyOf [.exactly "b", .exactly "c"])) := by
    rw [mixed_group_iff]
    exact not_mixed_values .or ["b", "c"]
  refine ⟨⟨combination_conjunctionFirst, hmixed, hdistinct, ?_⟩, hgroup, hunmixed, ?_⟩
  · exact (queryText_determines_holds combination_conjunctionFirst).2 hmixed hdistinct
  · exact (queryText_determines_holds hgroup).1 hunmixed

/-- Two trees with the text `a AND b OR c`, of which only one needs `a`. -/
theorem same_text_different_meaning :
    Combination conjunctionFirst ∧ Combination disjunctionFirst ∧
      queryText conjunctionFirst = queryText disjunctionFirst ∧
      ¬ ∀ leaf, conjunctionFirst.Holds leaf ↔ disjunctionFirst.Holds leaf := by
  refine ⟨combination_conjunctionFirst, combination_disjunctionFirst, by decide, fun h => ?_⟩
  have hdisjunction : disjunctionFirst.Holds (· = .exactly "c") := by
    rw [disjunctionFirst, holds_anyOf]
    exact ⟨.exactly "c", by simp, rfl⟩
  have hconjunction := (h _).mpr hdisjunction
  rw [conjunctionFirst, holds_allOf] at hconjunction
  have ha : Query.exactly "a" = .exactly "c" := hconjunction _ List.mem_cons_self
  revert ha
  decide

end Retrieval.Flat

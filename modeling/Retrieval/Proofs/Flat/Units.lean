/-
  Retrieval/Proofs/Flat/Units.lean
  ================================
  **What the name of a field covers.**

  In query-string syntax the name of a field reaches as far as the next *unit*: a token,
  a phrase, a range or a group, which may carry a weight.  The same holds for the minus
  sign in front of a name.  A condition on one field therefore means what it says when
  its whole expression is written as one unit.

  Values, phrases, ranges, groups and boosts always are units.  Several values, several
  words and combinations are not unless a group holds them together, and then the words
  between them stand outside of the field (`staysTogether`).
-/
import Retrieval.Proofs.Flat.Protection

namespace Retrieval

open Text

/-- Whether the text of an escaped expression is held together.  A list of one part is
    written like the part itself. -/
def Query.staysTogether : Query → Bool
  | .splat | .phrase .. | .group _ | .boost .. | .range .. => true
  | .term values _ => values.length ≤ 1
  | .words value _ => (Text.words value.toList).length ≤ 1
  | .allOf [q] | .anyOf [q] => q.staysTogether
  | _ => false

namespace Flat

open Cursor

/-! ### Units -/

/-- The texts that the name of a field covers as a whole. -/
inductive IsUnit : List Char → Prop
  | anything : IsUnit ['*']
  | token {text : List Char} : text ≠ [] → Protected breaksToken text → IsUnit text
  | phrase {text : List Char} : Protected endsString text → IsUnit (quote text)
  | range {text : List Char} : Balanced text → IsUnit ('[' :: (text ++ [']']))
  | group {text : List Char} : Balanced text → IsUnit (grouped text)
  | weighted {text weight : List Char} :
    Balanced text → Numeral weight → IsUnit (grouped text ++ '^' :: weight)

theorem IsUnit.ne_nil {text : List Char} (h : IsUnit text) : text ≠ [] := by
  cases h with
  | token hne _ => exact hne
  | _ => exact List.cons_ne_nil _ _

theorem IsUnit.solid {text : List Char} (h : IsUnit text) : Solid text := by
  cases h with
  | anything => exact solid_of_any_eq_false (by decide) (by decide)
  | token _ htext => exact (htext.mono upsets_breaksToken).solid
  | phrase htext => exact solid_quote htext
  | range htext => exact solid_bracketed htext
  | group htext => exact solid_grouped htext
  | weighted htext hweight =>
    have hmark : Solid ['^'] := solid_of_any_eq_false (by decide) (by decide)
    exact (solid_grouped htext).append (hmark.append (solid_of_numeral hweight))

/-- A text that exposes a blank is no unit. -/
theorem not_isUnit_of_exposes {text : List Char} (h : ' ' ∈ (level 0).exposed text) :
    ¬ IsUnit text := by
  intro hunit
  have hblank := hunit.solid.2 ' ' h
  revert hblank
  decide

/-- The word between two parts exposes its first blank. -/
theorem not_isUnit_joined {first : List Char} (hfirst : Balanced first) (word second : List Char)
    (rest : List (List Char)) : ¬ IsUnit (joined (' ' :: word) (first :: second :: rest)) := by
  refine not_isUnit_of_exposes ?_
  have hjoined : joined (' ' :: word) (first :: second :: rest)
      = first ++ ' ' :: (word ++ joined (' ' :: word) (second :: rest)) := by
    rw [joined, List.append_assoc, List.cons_append]
    exact List.cons_ne_nil second rest
  rw [hjoined, exposed_append_of_eq hfirst, exposed]
  exact List.mem_append_right _ (List.mem_append_left _ (List.mem_singleton_self ' '))

/-! ### Units among expressions -/

theorem isUnit_escapeToken {text : List Char} (h : text ≠ []) : IsUnit (escapeToken text) :=
  .token (escapeToken_ne_nil h) (protected_protect breaksToken text)

theorem isUnit_value (text : List Char) : IsUnit (value true text) := by
  unfold value
  split
  · exact .phrase .nil
  · rename_i hempty
    refine isUnit_escapeToken fun hnil => hempty ?_
    rw [hnil, List.isEmpty_nil]

theorem isUnit_values_iff (texts : List (List Char)) :
    IsUnit (values true texts) ↔ texts.length ≤ 1 := by
  match texts with
  | [] => exact iff_of_true (.phrase .nil) (Nat.zero_le 1)
  | [text] => exact iff_of_true (isUnit_value text) Nat.le.refl
  | first :: second :: rest =>
    refine iff_of_false ?_ (by simp)
    exact not_isUnit_joined (solid_value first).1 _ _ _

theorem isUnit_freeText_iff (text : List Char) :
    IsUnit (freeText true text) ↔ (words text).length ≤ 1 := by
  unfold freeText
  by_cases hblank : allBlank text = true
  · rw [if_pos hblank, (words_eq_nil_iff text).mpr hblank]
    exact iff_of_true (.phrase .nil) (Nat.zero_le 1)
  · rw [if_neg hblank, if_pos rfl, escapeWords]
    match hwords : words text with
    | [] => exact absurd ((words_eq_nil_iff text).mp hwords) hblank
    | [word] =>
      have hword : word ∈ words text := hwords ▸ List.mem_singleton_self word
      exact iff_of_true (isUnit_escapeToken (ne_nil_of_mem_words hword)) Nat.le.refl
    | first :: second :: rest =>
      refine iff_of_false ?_ (by simp)
      exact not_isUnit_joined (solid_escapeToken first).1 _ _ _

/-- The combination of a list is a unit when the list has one part and that part is one. -/
theorem isUnit_joined_iff {word : List Char} {qs : List Query}
    (hqs : ∀ q ∈ qs, Escaped q) (ih : ∀ q ∈ qs, IsUnit (queryChars q) ↔ q.staysTogether = true) :
    IsUnit (joined (' ' :: word) (queriesChars qs)) ↔ (Query.allOf qs).staysTogether = true := by
  match qs with
  | [] => exact iff_of_false (fun h => h.ne_nil rfl) Bool.false_ne_true
  | [q] => exact ih q (List.mem_singleton_self q)
  | first :: second :: rest =>
    refine iff_of_false ?_ Bool.false_ne_true
    exact not_isUnit_joined (hqs first List.mem_cons_self).balanced _ _ _

/-- The text of an escaped expression is a unit exactly when it is held together. -/
theorem Escaped.isUnit_iff {q : Query} (h : Escaped q) :
    IsUnit (queryChars q) ↔ q.staysTogether = true := by
  induction h with
  | splat => exact iff_of_true .anything rfl
  | term values =>
    rw [queryChars, isUnit_values_iff, List.length_map, Query.staysTogether, decide_eq_true_iff]
  | phrase value => exact iff_of_true (.phrase (protected_escapePhrase _)) rfl
  | words value =>
    rw [queryChars, isUnit_freeText_iff, Query.staysTogether, decide_eq_true_iff]
  | group hq _ => exact iff_of_true (.group hq.balanced) rfl
  | @boost q weight hq _ =>
    refine iff_of_true ?_ rfl
    rw [queryChars]
    cases q with
    | group q =>
      cases hq with
      | group hq => exact .weighted hq.balanced (weight.numeral_text _)
    | _ => exact .weighted hq.balanced (weight.numeral_text _)
  | @range low high hlow hhigh _ _ =>
    refine iff_of_true ?_ rfl
    rw [queryChars]
    exact .range ((hlow.balanced.append (by decide)).append hhigh.balanced)
  | allOf hqs ih => exact isUnit_joined_iff hqs ih
  | @anyOf qs hqs ih =>
    have hshape : (Query.anyOf qs).staysTogether = (Query.allOf qs).staysTogether := by
      rcases qs with _ | ⟨q, _ | ⟨second, rest⟩⟩ <;> rfl
    rw [hshape]
    exact isUnit_joined_iff hqs ih

/-! ### Conditions on one field -/

/-- A field name that query strings can hold as it stands. -/
def UsableName (name : String) : Prop :=
  name ≠ "" ∧ name.toList.any breaksToken = false

instance (name : String) : Decidable (UsableName name) :=
  inferInstanceAs (Decidable (_ ∧ _))

theorem UsableName.breaksToken_eq_false {name : String} (h : UsableName name) :
    ∀ c ∈ name.toList, breaksToken c = false := fun c hc =>
  Bool.eq_false_iff.mpr (List.any_eq_false.mp h.2 c hc)

/-- What stands in front of the expression of a condition. -/
def fieldOpening (name : String) (included : Bool) : List Char :=
  (if included then [] else "(*:* -".toList) ++ name.toList ++ [':']

/-- What stands behind the expression of a condition. -/
def fieldClosing (included : Bool) : List Char := if included then [] else [')']

theorem scopedChars_of_ne {name : String} (hname : name ≠ "") (text : List Char) :
    scopedChars name text = name.toList ++ ':' :: text := by
  have hempty : ¬ name.isEmpty = true := fun h => hname (String.isEmpty_iff.mp h)
  rw [scopedChars, if_neg hempty]

/-- The text of a condition on a named field. -/
theorem fieldChars_eq {name : String} (hname : name ≠ "") (q : Query) (included : Bool) :
    fieldChars ⟨name, q, included⟩
      = fieldOpening name included ++ queryChars q ++ fieldClosing included := by
  have hscoped := scopedChars_of_ne hname (queryChars q)
  cases included with
  | true => simp [fieldChars, fieldOpening, fieldClosing, hscoped]
  | false => simp [fieldChars, fieldOpening, fieldClosing, hscoped, grouped]

/-- The name of a field, and the minus sign in front of it, cover the whole expression
    exactly when the expression is held together. -/
theorem clauseText_covers_iff {name : String} (hname : UsableName name) {q : Query}
    (hq : Escaped q) (included : Bool) :
    (∃ unit, IsUnit unit ∧ (clauseText (.field ⟨name, q, included⟩)).toList
        = fieldOpening name included ++ unit ++ fieldClosing included)
      ↔ q.staysTogether = true := by
  rw [← hq.isUnit_iff, clauseText, String.toList_ofList, clauseChars, fieldChars_eq hname.1]
  constructor
  · rintro ⟨unit, hunit, htext⟩
    rw [List.append_cancel_left (List.append_cancel_right htext)]
    exact hunit
  · intro hunit
    exact ⟨queryChars q, hunit, rfl⟩

theorem clauseText_covers_iff_group :
    UsableName "name" ∧ Escaped (.group (.oneOf ["a", "b"])) ∧
      ((∃ unit, IsUnit unit ∧
          (clauseText (.field ⟨"name", .group (.oneOf ["a", "b"]), false⟩)).toList
            = fieldOpening "name" false ++ unit ++ fieldClosing false)
        ↔ (Query.group (.oneOf ["a", "b"])).staysTogether = true) :=
  ⟨by decide, .group (.term _), clauseText_covers_iff (by decide) (.group (.term _)) false⟩

/-- Without a group the second value stands outside of the field and of the negation. -/
theorem clauseText_second_value_uncovered :
    UsableName "name" ∧ Escaped (.oneOf ["a", "b"]) ∧
      clauseText (.field (.excluding "name" (.oneOf ["a", "b"]))) = "(*:* -name:a OR b)" ∧
      ¬ ∃ unit, IsUnit unit ∧
        (clauseText (.field (.excluding "name" (.oneOf ["a", "b"])))).toList
          = fieldOpening "name" false ++ unit ++ fieldClosing false := by
  refine ⟨by decide, .term _, by decide, ?_⟩
  rintro ⟨unit, hunit, htext⟩
  have hvalues : (clauseText (.field (.excluding "name" (.oneOf ["a", "b"])))).toList
      = fieldOpening "name" false ++ "a OR b".toList ++ fieldClosing false := by decide
  rw [hvalues] at htext
  obtain rfl := List.append_cancel_left (List.append_cancel_right htext)
  exact not_isUnit_of_exposes (by decide) hunit

end Flat

end Retrieval

/-
  Retrieval/Proofs/RangeEnds.lean
  ===============================
  **The ends of a range in both requests.**

  The structured request takes an end out of its groups and writes down what is inside: a value,
  or nothing if that side is open.  The flat request writes the end as it stands.  Inside of the
  groups both say the same (`exists_spelling`), but the flat text has the parentheses of the groups
  around it.  So the two requests read a range alike exactly if neither end is a group
  (`range_ends_agree_iff`).
-/
import Mathlib.Logic.Function.Iterate
import Retrieval.Proofs.Escaping
import Retrieval.Proofs.Flat.Units
import Retrieval.Proofs.Structured.Assembly

namespace Retrieval

open Json

/-- How many groups an expression stands in. -/
def Query.groupings : Query → Nat
  | .group q => q.groupings + 1
  | _ => 0

theorem Query.groupings_eq_zero_iff {q : Query} : q.groupings = 0 ↔ q.isGroup = false := by
  cases q <;> simp [groupings, isGroup]

/-! ### Flat requests -/

namespace Flat

open Text Structured

/-- The text is how an end of a range is written: a star and nothing else stands for an open
    side, and a value is an escaped token or a quoted escaped phrase.  The empty value can only
    be quoted. -/
structure SpellsEnd (text : List Char) (bound : Option String) : Prop where
  star_iff : text = ['*'] ↔ bound = none
  value : ∀ v, bound = some v →
    (v ≠ "" ∧ text = escapeToken v.toList) ∨ text = quote (escapePhrase v.toList)

/-- The text of a range with the given texts of its ends. -/
def rangeChars (low high : List Char) : List Char :=
  '[' :: (low ++ " TO ".toList ++ high ++ [']'])

/-- The first character of a token is one that no reader stops at. -/
theorem exists_head_escapeToken {text : List Char} (h : text ≠ []) :
    ∃ c rest, escapeToken text = c :: rest ∧ c ≠ '*' ∧ c ≠ '"' ∧ c ≠ '(' := by
  obtain ⟨c, rest, hhead⟩ := List.exists_cons_of_ne_nil (escapeToken_ne_nil h)
  refine ⟨c, rest, hhead, ?_⟩
  rcases escapeToken_head hhead with rfl | hplain
  · decide
  · refine ⟨?_, ?_, ?_⟩ <;> rintro rfl <;> revert hplain <;> decide

theorem spellsEnd_star : SpellsEnd ['*'] none := ⟨iff_of_true rfl rfl, nofun⟩

theorem spellsEnd_token {v : String} (hv : v ≠ "") :
    SpellsEnd (escapeToken v.toList) (some v) := by
  obtain ⟨c, rest, hhead, hstar, -, -⟩ :=
    exists_head_escapeToken fun h => hv (String.toList_eq_nil_iff.mp h)
  refine ⟨iff_of_false ?_ nofun, ?_⟩
  · rw [hhead]
    exact fun h => hstar (List.cons.inj h).1
  · rintro _ ⟨⟩
    exact .inl ⟨hv, rfl⟩

theorem spellsEnd_quote (v : String) : SpellsEnd (quote (escapePhrase v.toList)) (some v) := by
  refine ⟨iff_of_false ?_ nofun, ?_⟩
  · intro h
    exact absurd (List.cons.inj h).1 (by decide)
  · rintro _ ⟨⟩
    exact .inr rfl

theorem spellsEnd_value (v : String) : SpellsEnd (value true v.toList) (some v) := by
  by_cases hv : v = ""
  · subst hv
    exact spellsEnd_quote ""
  · have hne : ¬ v.toList.isEmpty = true := by simpa using hv
    rw [Flat.value, if_neg hne, if_pos rfl]
    exact spellsEnd_token hv

/-- An end is not written in parentheses. -/
theorem SpellsEnd.ne_grouped {text : List Char} {bound : Option String}
    (h : SpellsEnd text bound) (inner rest rest' : List Char) :
    text ++ rest ≠ grouped inner ++ rest' := by
  intro heq
  cases bound with
  | none =>
    rw [h.star_iff.mpr rfl] at heq
    exact absurd (List.cons.inj heq).1 (by decide)
  | some v =>
    rcases h.value v rfl with ⟨hv, rfl⟩ | rfl
    · obtain ⟨c, tail, hhead, -, -, hparen⟩ :=
        exists_head_escapeToken fun h => hv (String.toList_eq_nil_iff.mp h)
      rw [hhead] at heq
      exact hparen (List.cons.inj heq).1
    · exact absurd (List.cons.inj heq).1 (by decide)

/-- Where an end is written, its first character says how. -/
theorem SpellsEnd.eq_of_append_eq {text text' rest rest' : List Char} {bound : Option String}
    (h : SpellsEnd text bound) (h' : SpellsEnd text' bound) (heq : text ++ rest = text' ++ rest') :
    text = text' := by
  cases bound with
  | none => rw [h.star_iff.mpr rfl, h'.star_iff.mpr rfl]
  | some v =>
    have hquoted : v ≠ "" → ∀ inner tail tail',
        escapeToken v.toList ++ tail ≠ quote inner ++ tail' := by
      intro hv inner tail tail' heq
      obtain ⟨c, _, hhead, -, hquote, -⟩ :=
        exists_head_escapeToken fun h => hv (String.toList_eq_nil_iff.mp h)
      rw [hhead] at heq
      exact hquote (List.cons.inj heq).1
    rcases h.value v rfl with ⟨hv, rfl⟩ | rfl <;> rcases h'.value v rfl with ⟨hv', rfl⟩ | rfl
    · rfl
    · exact (hquoted hv _ _ _ heq).elim
    · exact (hquoted hv' _ _ _ heq.symm).elim
    · rfl

/-- Inside of its groups, an escaped end is written as what the structured request takes it
    for. -/
theorem exists_spelling {q : Query} {bound : Option String} (h : rangeEnd q = .ok bound)
    (hescaped : false ∉ q.escaping) :
    ∃ text, SpellsEnd text bound ∧ queryChars q = grouped^[q.groupings] text := by
  induction q with
  | splat =>
    obtain rfl := Except.ok.inj h
    exact ⟨['*'], spellsEnd_star, rfl⟩
  | term values escaped =>
    obtain rfl : escaped = true := by simpa [Query.escaping] using hescaped
    rcases values with _ | ⟨v, _ | ⟨second, rest⟩⟩
    · cases h
    · obtain rfl := Except.ok.inj h
      exact ⟨_, spellsEnd_value v, rfl⟩
    · cases h
  | phrase v escaped =>
    obtain rfl := Except.ok.inj h
    obtain rfl : escaped = true := by simpa [Query.escaping] using hescaped
    exact ⟨_, spellsEnd_quote v, rfl⟩
  | group q ih =>
    rw [rangeEnd_group] at h
    obtain ⟨text, htext, hchars⟩ := ih h hescaped
    refine ⟨text, htext, ?_⟩
    rw [queryChars, hchars, Query.groupings, Function.iterate_succ_apply']
  | _ => cases h

/-- The text of a range is that of its ends exactly if neither of them is grouped. -/
theorem exists_rangeChars_iff {low high : Query} {lower upper : Option String}
    (hlow : rangeEnd low = .ok lower) (hhigh : rangeEnd high = .ok upper)
    (hescaped : false ∉ (Query.range low high).escaping) :
    (∃ L H, SpellsEnd L lower ∧ SpellsEnd H upper ∧
      queryChars (.range low high) = rangeChars L H) ↔
      low.isGroup = false ∧ high.isGroup = false := by
  rw [Query.escaping, List.mem_append, not_or] at hescaped
  obtain ⟨L₀, hL₀, hlowChars⟩ := exists_spelling hlow hescaped.1
  obtain ⟨H₀, hH₀, hhighChars⟩ := exists_spelling hhigh hescaped.2
  constructor
  · rintro ⟨L, H, hL, hH, hchars⟩
    have htexts : L ++ (" TO ".toList ++ H ++ [']'])
        = queryChars low ++ (" TO ".toList ++ queryChars high ++ [']']) := by
      rw [queryChars, rangeChars] at hchars
      simpa using (List.cons.inj hchars).2.symm
    -- A group begins with a parenthesis, and no end does.
    have hlowGroup : low.isGroup = false := by
      cases low with
      | group q => exact (hL.ne_grouped _ _ _ htexts).elim
      | _ => rfl
    rw [Query.groupings_eq_zero_iff.mpr hlowGroup, Function.iterate_zero_apply] at hlowChars
    rw [hlowChars] at htexts
    obtain rfl := hL.eq_of_append_eq hL₀ htexts
    refine ⟨hlowGroup, ?_⟩
    cases high with
    | group q =>
      have hends : H ++ [']'] = grouped (queryChars q) ++ [']'] := by
        simpa [queryChars] using htexts
      exact (hH.ne_grouped _ _ _ hends).elim
    | _ => rfl
  · rintro ⟨hlowGroup, hhighGroup⟩
    rw [Query.groupings_eq_zero_iff.mpr hlowGroup, Function.iterate_zero_apply] at hlowChars
    rw [Query.groupings_eq_zero_iff.mpr hhighGroup, Function.iterate_zero_apply] at hhighChars
    refine ⟨L₀, H₀, hL₀, hH₀, ?_⟩
    rw [queryChars, hlowChars, hhighChars, rangeChars]

end Flat

/-! ### Structured requests -/

namespace Structured

/-- What a range object on a field says under a name. -/
def bound? (name field : String) (object : Json) : Option Json :=
  ((object.member? "range").bind (member? field)).bind (member? name)

/-- The object of a field that has a value. -/
def fieldExists (field : String) : Json := single "exists" (single "field" (.string field))

theorem bound?_range (name field : String) (bounds : Json) :
    bound? name field (single "range" (single field bounds)) = bounds.member? name := by
  rw [bound?, member?_single_self, Option.bind_some, member?_single_self, Option.bind_some]

theorem bound?_fieldExists (name field : String) :
    bound? name field (fieldExists field) = none := by
  rw [bound?, fieldExists, member?_single_of_ne (by decide), Option.bind_none, Option.bind_none]

theorem bound?_rangeMatch (field : String) (lower upper : Option String) :
    bound? "gte" field (rangeMatch field lower upper) = lower.map .string ∧
      bound? "lte" field (rangeMatch field lower upper) = upper.map .string := by
  cases lower with
  | none =>
    cases upper with
    | none => exact ⟨bound?_fieldExists .., bound?_fieldExists ..⟩
    | some upper =>
      refine ⟨(bound?_range ..).trans (member?_record_eq_none ?_),
        (bound?_range ..).trans (member?_record [] ?_)⟩ <;> simp
  | some lower =>
    cases upper with
    | none =>
      refine ⟨(bound?_range ..).trans (member?_record [] ?_),
        (bound?_range ..).trans (member?_record_eq_none ?_)⟩ <;> simp
    | some upper =>
      refine ⟨(bound?_range ..).trans (member?_record [] ?_),
        (bound?_range ..).trans (member?_record [_] ?_)⟩ <;> simp

theorem rangeMatch_eq_fieldExists_iff (field : String) (lower upper : Option String) :
    rangeMatch field lower upper = fieldExists field ↔ lower = none ∧ upper = none := by
  cases lower <;> cases upper <;> simp [rangeMatch, fieldExists, single]

theorem scopedMatch_range_eq_ok_iff {s : Search} {field : String} {low high : Query}
    {object : Json} :
    scopedMatch s field (.range low high) = .ok object ↔
      ∃ lower upper, rangeEnd low = .ok lower ∧ rangeEnd high = .ok upper ∧
        rangeMatch field lower upper = object := by
  change (do
    let lower ← rangeEnd low
    let upper ← rangeEnd high
    pure (rangeMatch field lower upper)) = .ok object ↔ _
  simp only [bind_eq_ok_iff, pure_eq_ok_iff, exists_and_left]

/-- A condition on a named field is what its expression is, or its negation. -/
theorem clauseMatch_scoped {s : Search} {field : String} (hfield : field ≠ "") {q : Query}
    {object : Json} (h : scopedMatch s field q = .ok object) (included : Bool) :
    clauseMatch s (.field ⟨field, q, included⟩)
      = .ok (if included then object else negated object) := by
  have hscoped : (FieldClause.mk field q included).isUnscoped = false :=
    Bool.eq_false_iff.mpr fun hempty => hfield (String.isEmpty_iff.mp hempty)
  rw [clauseMatch, fieldMatch_eq_ok_iff, hscoped]
  exact ⟨object, h, rfl⟩

end Structured

/-! ### Both requests -/

open Flat Structured

/-- **The ends of a range.**  A side that the structured range leaves open is a star in the flat
    one, and a side with a value has this value there, as an escaped token or a quoted phrase.
    Both sides are open exactly if the structured request asks for a field that has a value.  But
    each group around an end puts it in parentheses, so the flat text reads like the structured
    range exactly if neither end is a group. -/
theorem range_ends_agree_iff {s : Search} {field : String} (hfield : field ≠ "") {low high : Query}
    (hescaped : false ∉ (Query.range low high).escaping) {object : Json}
    (h : scopedMatch s field (.range low high) = .ok object) :
    ∃ lower upper L H,
      bound? "gte" field object = lower.map .string ∧
      bound? "lte" field object = upper.map .string ∧
      SpellsEnd L lower ∧ SpellsEnd H upper ∧
      (object = fieldExists field ↔ L = ['*'] ∧ H = ['*']) ∧
      queryChars (.range low high)
        = rangeChars (grouped^[low.groupings] L) (grouped^[high.groupings] H) ∧
      (∀ included,
        clauseMatch s (.field ⟨field, .range low high, included⟩)
          = .ok (if included then object else negated object) ∧
        (clauseText (.field ⟨field, .range low high, included⟩)).toList
          = fieldOpening field included ++ queryChars (.range low high)
            ++ fieldClosing included) ∧
      ((∃ L H, SpellsEnd L lower ∧ SpellsEnd H upper ∧
          queryChars (.range low high) = rangeChars L H) ↔
        low.isGroup = false ∧ high.isGroup = false) := by
  obtain ⟨lower, upper, hlow, hhigh, rfl⟩ := scopedMatch_range_eq_ok_iff.mp h
  have hends := hescaped
  rw [Query.escaping, List.mem_append, not_or] at hends
  obtain ⟨L, hL, hlowChars⟩ := exists_spelling hlow hends.1
  obtain ⟨H, hH, hhighChars⟩ := exists_spelling hhigh hends.2
  obtain ⟨hgte, hlte⟩ := bound?_rangeMatch field lower upper
  refine ⟨lower, upper, L, H, hgte, hlte, hL, hH, ?_, ?_, ?_,
    exists_rangeChars_iff hlow hhigh hescaped⟩
  · rw [rangeMatch_eq_fieldExists_iff, hL.star_iff, hH.star_iff]
  · rw [queryChars, hlowChars, hhighChars, rangeChars]
  · intro included
    refine ⟨clauseMatch_scoped hfield h included, ?_⟩
    rw [clauseText, String.toList_ofList, clauseChars, fieldChars_eq hfield]

/-- A phrase that looks like the middle of a range, and an open side. -/
theorem range_ends_agree_iff_phraseEnd :
    "price" ≠ "" ∧ false ∉ (Query.range (.phraseOf "a TO b") .splat).escaping ∧
      ∃ object lower upper,
        scopedMatch (Search.ofIndex "venues") "price" (.range (.phraseOf "a TO b") .splat)
          = .ok object ∧
        bound? "gte" "price" object = lower.map .string ∧
        bound? "lte" "price" object = upper.map .string ∧
        ∃ L H, SpellsEnd L lower ∧ SpellsEnd H upper ∧
          queryChars (.range (.phraseOf "a TO b") .splat) = rangeChars L H := by
  have hescaped : false ∉ (Query.range (.phraseOf "a TO b") .splat).escaping := by decide
  obtain ⟨lower, upper, -, -, hgte, hlte, -, -, -, -, -, halike⟩ :=
    @range_ends_agree_iff (Search.ofIndex "venues") "price" (by decide) _ _ hescaped _ rfl
  exact ⟨by decide, hescaped, _, lower, upper, rfl, hgte, hlte, halike.mpr ⟨rfl, rfl⟩⟩

/-- The structured range begins at `a`, and the flat one at something in parentheses. -/
theorem grouped_end_reads_apart :
    scopedMatch (Search.ofIndex "venues") "name" (.range (.group (.exactly "a")) .splat)
        = .ok (single "range" (single "name" (single "gte" (.string "a")))) ∧
      clauseText (.field (.including "name" (.range (.group (.exactly "a")) .splat)))
        = "name:[(a) TO *]" ∧
      ¬ ∃ L H, SpellsEnd L (some "a") ∧ SpellsEnd H none ∧
        queryChars (.range (.group (.exactly "a")) .splat) = rangeChars L H := by
  refine ⟨rfl, by decide, ?_⟩
  rw [exists_rangeChars_iff rfl rfl (by decide)]
  decide

end Retrieval

/-
  Retrieval/Proofs/Flat/Protection.lean
  =====================================
  **Protected text stays where it is put.**

  A text is *protected* against a set of characters when each of them stands behind a
  backslash.  Which set is needed depends on the place: inside a string only the quote
  and the backslash matter (`endsString`), outside of one the brackets and the blanks
  matter as well (`upsets`).  Reading a text that is protected well enough does not move
  the reader, whatever the caller put into it.

  From the values the property rises to expressions: an escaped expression closes every
  bracket and string that it opens.
-/
import Retrieval.Proofs.Flat.Scanning
import Retrieval.Proofs.Numeral

namespace Retrieval.Flat

open Text Cursor

/-! ### Protected texts -/

/-- Every special character of the text stands behind a backslash. -/
inductive Protected (special : Char → Bool) : List Char → Prop
  | nil : Protected special []
  | guarded (c : Char) {rest : List Char} :
    Protected special rest → Protected special ('\\' :: c :: rest)
  | plain {c : Char} {rest : List Char} :
    special c = false → Protected special rest → Protected special (c :: rest)

/-- The characters that end a string or change where it ends. -/
def endsString (c : Char) : Bool := c == '\\' || c == '"'

/-- The characters that move a reader outside of a string, and the blanks. -/
def upsets (c : Char) : Bool := ['\\', '"', '(', ')', '[', ']'].contains c || isBlank c

theorem protected_protect (special : Char → Bool) (text : List Char) :
    Protected special (protect special text) := by
  induction text with
  | nil => exact .nil
  | cons c rest ih =>
    rw [protect]
    split
    · exact .guarded c ih
    · rename_i hc
      exact .plain (Bool.eq_false_iff.mpr hc) ih

theorem protected_of_forall {special : Char → Bool} {text : List Char}
    (h : ∀ c ∈ text, special c = false) : Protected special text := by
  induction text with
  | nil => exact .nil
  | cons c rest ih =>
    obtain ⟨hc, hrest⟩ := List.forall_mem_cons.mp h
    exact .plain hc (ih hrest)

theorem Protected.mono {special special' : Char → Bool} {text : List Char}
    (hspecial : ∀ c, special' c = true → special c = true) (h : Protected special text) :
    Protected special' text := by
  induction h with
  | nil => exact .nil
  | guarded c _ ih => exact .guarded c ih
  | plain hc _ ih =>
    refine .plain (Bool.eq_false_iff.mpr fun hc' => ?_) ih
    rw [hspecial _ hc'] at hc
    cases hc

theorem Protected.append {special : Char → Bool} {a b : List Char} (ha : Protected special a)
    (hb : Protected special b) : Protected special (a ++ b) := by
  induction ha with
  | nil => exact hb
  | guarded c _ ih => exact .guarded c ih
  | plain hc _ ih => exact .plain hc ih

theorem endsString_isReserved (c : Char) (h : endsString c = true) : isReserved c = true := by
  simp only [endsString, Bool.or_eq_true, beq_iff_eq] at h
  rcases h with rfl | rfl <;> decide

theorem upsets_breaksToken (c : Char) (h : upsets c = true) : breaksToken c = true := by
  simp only [upsets, Bool.or_eq_true, List.contains_iff_mem, List.mem_cons, List.not_mem_nil,
    or_false] at h
  rw [breaksToken, Bool.or_eq_true]
  rcases h with (rfl | rfl | rfl | rfl | rfl | rfl) | hblank
  case inr => exact Or.inr hblank
  all_goals exact Or.inl (by decide)

/-! ### Inside a string -/

theorem Protected.scan_quoted {text : List Char} (h : Protected endsString text) (depth : Nat) :
    (⟨depth, true, false⟩ : Cursor).scan text = some ⟨depth, true, false⟩ := by
  induction h with
  | nil => rfl
  | guarded c _ ih => exact ih
  | @plain c _ hc _ ih =>
    simp only [endsString, Bool.or_eq_false_iff, beq_eq_false_iff_ne] at hc
    rw [scan_cons, step?, if_neg hc.1, if_neg hc.2]
    exact ih

theorem exposed_quoted {text rest : List Char} (h : Protected endsString text) :
    (⟨0, true, false⟩ : Cursor).exposed (text ++ rest)
      = (⟨0, true, false⟩ : Cursor).exposed rest := by
  have hinside : (⟨0, true, false⟩ : Cursor).exposed text = [] := by
    induction h with
    | nil => rfl
    | guarded c _ ih => exact ih
    | @plain c _ hc _ ih =>
      simp only [endsString, Bool.or_eq_false_iff, beq_eq_false_iff_ne] at hc
      have hstep : (⟨0, true, false⟩ : Cursor).step? c = some ⟨0, true, false⟩ := by
        rw [step?, if_neg hc.1, if_neg hc.2]
      rw [exposed_cons_of_eq hstep, ih]
      rfl
  rw [exposed_append_of_eq (h.scan_quoted 0), hinside, List.nil_append]

theorem balanced_quote {text : List Char} (h : Protected endsString text) :
    Balanced (quote text) := by
  have hopening : (level 0).step? '"' = some ⟨0, true, false⟩ := by decide
  rw [Balanced, quote, scan_cons, hopening, Option.bind_some, scan_append_of_eq (h.scan_quoted 0)]
  rfl

theorem solid_quote {text : List Char} (h : Protected endsString text) : Solid (quote text) := by
  have hopening : (level 0).step? '"' = some ⟨0, true, false⟩ := by decide
  have hexposed : (level 0).exposed (quote text) = ['"'] := by
    rw [quote, exposed_cons_of_eq hopening, exposed_quoted h]
    rfl
  refine ⟨balanced_quote h, ?_⟩
  rw [hexposed, List.forall_mem_singleton]
  decide

/-! ### Outside of a string -/

theorem step?_of_not_upsets {c : Char} (h : upsets c = false) (depth : Nat) :
    (level depth).step? c = some (level depth) := by
  simp only [upsets, Bool.or_eq_false_iff, List.contains_eq_mem, decide_eq_false_iff_not,
    List.mem_cons, List.not_mem_nil, or_false, not_or] at h
  obtain ⟨⟨hbackslash, hquote, hparen, hparen', hbracket, hbracket'⟩, -⟩ := h
  rw [level, step?, if_neg hbackslash, if_neg hquote, if_neg (not_or.mpr ⟨hparen, hbracket⟩),
    if_neg (not_or.mpr ⟨hparen', hbracket'⟩)]

theorem Protected.solid {text : List Char} (h : Protected upsets text) : Solid text := by
  induction h with
  | nil => exact ⟨balanced_nil, List.forall_mem_nil _⟩
  | @guarded c rest _ ih =>
    have hexposed : (level 0).exposed ('\\' :: c :: rest) = '\\' :: (level 0).exposed rest := rfl
    refine ⟨ih.1, ?_⟩
    rw [hexposed, List.forall_mem_cons]
    exact ⟨by decide, ih.2⟩
  | @plain c rest hc _ ih =>
    have hstep := step?_of_not_upsets hc 0
    refine ⟨?_, ?_⟩
    · rw [Balanced, scan_cons, hstep]
      exact ih.1
    · rw [exposed_cons_of_eq hstep, if_pos rfl, List.singleton_append, List.forall_mem_cons]
      exact ⟨(Bool.or_eq_false_iff.mp hc).2, ih.2⟩

theorem upsets_of_isNumeral {c : Char} (h : isNumeral c = true) : upsets c = false := by
  rw [isNumeral, Bool.or_eq_true] at h
  rcases h with hdigit | hother
  · have hrange : 48 ≤ c.toNat ∧ c.toNat ≤ 57 := by
      simpa [Char.isDigit, UInt32.le_iff_toNat_le] using hdigit
    refine Bool.or_eq_false_iff.mpr ⟨?_, ?_⟩
    · rw [List.contains_eq_mem, decide_eq_false_iff_not]
      intro hmem
      simp only [List.mem_cons, List.not_mem_nil, or_false] at hmem
      rcases hmem with rfl | rfl | rfl | rfl | rfl | rfl <;> revert hrange <;> decide
    · have hapart : ∀ r ∈ blankRanges, r.2 < 48 ∨ 57 < r.1 := by decide
      rw [Bool.eq_false_iff]
      intro hblank
      obtain ⟨r, hr, hbetween⟩ := (isBlank_iff c).mp hblank
      have hoff := hapart r hr
      omega
  · simp only [List.contains_iff_mem, List.mem_cons, List.not_mem_nil, or_false] at hother
    rcases hother with rfl | rfl | rfl | rfl | rfl | rfl | rfl | rfl | rfl <;> decide

theorem solid_of_numeral {text : List Char} (h : Numeral text) : Solid text :=
  (protected_of_forall fun c hc => upsets_of_isNumeral (h.2 c hc)).solid

theorem solid_escapeToken (text : List Char) : Solid (escapeToken text) :=
  ((protected_protect breaksToken text).mono upsets_breaksToken).solid

theorem protected_escapePhrase (text : List Char) : Protected endsString (escapePhrase text) :=
  (protected_protect isReserved text).mono endsString_isReserved

/-! ### Escaped text can be told apart -/

theorem protect_injective {special : Char → Bool} (hspecial : special '\\' = true)
    {a b : List Char} (h : protect special a = protect special b) : a = b := by
  induction a generalizing b with
  | nil =>
    cases b with
    | nil => rfl
    | cons d b =>
      rw [protect, protect] at h
      split at h <;> cases h
  | cons c a ih =>
    cases b with
    | nil =>
      rw [protect, protect] at h
      split at h <;> cases h
    | cons d b =>
      rw [protect, protect] at h
      split at h <;> split at h
      · injection h with _ h
        injection h with hc h
        rw [hc, ih h]
      · rename_i hd
        injection h with hc _
        exact absurd (hc ▸ hspecial) hd
      · rename_i hc _
        injection h with hd _
        exact absurd (hd ▸ hspecial) hc
      · injection h with hc h
        rw [hc, ih h]

theorem escapeToken_ne_nil {text : List Char} (h : text ≠ []) : escapeToken text ≠ [] := by
  cases text with
  | nil => exact absurd rfl h
  | cons c rest =>
    rw [escapeToken, protect]
    split <;> exact List.cons_ne_nil _ _

theorem escapeToken_head {text rest : List Char} {c : Char} (h : escapeToken text = c :: rest) :
    c = '\\' ∨ breaksToken c = false := by
  cases text with
  | nil => cases h
  | cons d text =>
    rw [escapeToken, protect] at h
    split at h
    · exact Or.inl (List.cons.inj h).1.symm
    · rename_i hd
      obtain rfl := (List.cons.inj h).1
      exact Or.inr (Bool.eq_false_iff.mpr hd)

theorem value_injective {a b : List Char} (h : value true a = value true b) : a = b := by
  have hquote : ∀ text, escapeToken text ≠ quote [] := by
    intro text h
    rcases escapeToken_head h with hc | hc <;> revert hc <;> decide
  cases a with
  | nil =>
    cases b with
    | nil => rfl
    | cons d b => exact absurd h.symm (hquote _)
  | cons c a =>
    cases b with
    | nil => exact absurd h (hquote _)
    | cons d b => exact protect_injective (by decide) h

/-! ### Escaped expressions -/

/-- An expression without scoring functions whose values, phrases and words are escaped. -/
inductive Escaped : Query → Prop
  | splat : Escaped .splat
  | term (values : List String) : Escaped (.term values true)
  | phrase (value : String) : Escaped (.phrase value true)
  | words (value : String) : Escaped (.words value true)
  | group {q : Query} : Escaped q → Escaped (.group q)
  | boost {q : Query} (weight : Scalar) : Escaped q → Escaped (.boost q weight)
  | range {low high : Query} : Escaped low → Escaped high → Escaped (.range low high)
  | allOf {qs : List Query} : (∀ q ∈ qs, Escaped q) → Escaped (.allOf qs)
  | anyOf {qs : List Query} : (∀ q ∈ qs, Escaped q) → Escaped (.anyOf qs)

theorem queriesChars_eq_map (qs : List Query) : queriesChars qs = qs.map queryChars := by
  induction qs with
  | nil => rfl
  | cons q qs ih => rw [queriesChars, ih, List.map_cons]

theorem solid_value (text : List Char) : Solid (value true text) := by
  unfold value
  split
  · exact solid_quote .nil
  · exact solid_escapeToken text

theorem balanced_values (texts : List (List Char)) : Balanced (values true texts) := by
  unfold values
  split
  · exact balanced_quote .nil
  · refine balanced_joined (by decide) fun text htext => ?_
    obtain ⟨original, -, rfl⟩ := List.mem_map.mp htext
    exact (solid_value original).1

theorem solid_phrase (text : List Char) : Solid (phrase true text) :=
  solid_quote (protected_escapePhrase text)

theorem balanced_freeText (text : List Char) : Balanced (freeText true text) := by
  unfold freeText
  split
  · exact balanced_quote .nil
  · refine balanced_joined (by decide) fun token htoken => ?_
    obtain ⟨word, -, rfl⟩ := List.mem_map.mp htoken
    exact (solid_escapeToken word).1

theorem solid_weight (weight : Scalar) : Solid ('^' :: weight.display.toList) :=
  Solid.append (a := ['^']) (solid_of_any_eq_false (by decide) (by decide))
    (solid_of_numeral (weight.numeral_text _))

/-- An escaped expression closes every bracket and string that it opens. -/
theorem Escaped.balanced {q : Query} (h : Escaped q) : Balanced (queryChars q) := by
  induction h with
  | splat => decide
  | term values => exact balanced_values _
  | phrase value => exact (solid_phrase _).1
  | words value => exact balanced_freeText _
  | group _ ih => exact balanced_grouped ih
  | @boost q weight _ ih =>
    rw [queryChars]
    refine Balanced.append ?_ (solid_weight weight).1
    split
    · exact ih
    · exact balanced_grouped ih
  | range _ _ ihlow ihhigh =>
    rw [queryChars]
    exact balanced_bracketed ((ihlow.append (by decide)).append ihhigh)
  | allOf _ ih =>
    rw [queryChars, queriesChars_eq_map]
    exact balanced_joined (by decide) (List.forall_mem_map.mpr ih)
  | anyOf _ ih =>
    rw [queryChars, queriesChars_eq_map]
    exact balanced_joined (by decide) (List.forall_mem_map.mpr ih)

end Retrieval.Flat

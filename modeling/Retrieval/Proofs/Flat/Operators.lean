/-
  Retrieval/Proofs/Flat/Operators.lean
  ====================================
  **Operator words in query strings.**

  The operators `AND`, `OR` and `NOT` are whole words: a reader takes a token for one of
  them when it stands between blanks, outside of strings and without any protection
  (`bareOperators`).  Escaping works character by character.  It keeps every value and
  every word in one token, and it has no backslash for letters, so that a value or a word
  that is spelled like an operator becomes one.
-/
import Retrieval.Proofs.Flat.Protection
import Mathlib.Data.List.Basic

namespace Retrieval.Flat

open Text Cursor

/-! ### Tokens -/

/-- Cut a text at every blank that stands outside of strings and behind no backslash. -/
def tokens (s : Cursor) : List Char → List (List Char)
  | [] => [[]]
  | c :: rest =>
    if s.quoted = false ∧ s.guarded = false ∧ isBlank c = true then [] :: tokens s rest
    else (tokens ((s.step? c).getD s) rest).modifyHead (c :: ·)

/-- The words that operate on conditions. -/
def operatorWords : List (List Char) := ["AND".toList, "OR".toList, "NOT".toList]

def isOperator (token : List Char) : Bool := operatorWords.contains token

/-- The operators that a reader finds in a query string, in order. -/
def bareOperators (text : String) : List (List Char) :=
  (tokens (level 0) text.toList).filter isOperator

/-- The text is read as a part of one token. -/
def Unbroken (text : List Char) : Prop :=
  ∀ rest, tokens (level 0) (text ++ rest) = (tokens (level 0) rest).modifyHead (text ++ ·)

theorem tokens_cons_of_eq {s t : Cursor} {c : Char} (hstep : s.step? c = some t)
    (hc : isBlank c = false ∨ s.quoted = true ∨ s.guarded = true) (rest : List Char) :
    tokens s (c :: rest) = (tokens t rest).modifyHead (c :: ·) := by
  have hcut : ¬ (s.quoted = false ∧ s.guarded = false ∧ isBlank c = true) := by
    rintro ⟨hquoted, hguarded, hblank⟩
    rw [hquoted, hguarded, hblank] at hc
    rcases hc with hc | hc | hc <;> cases hc
  rw [tokens, if_neg hcut, hstep, Option.getD_some]

theorem unbroken_of_protected {text : List Char} (h : Protected upsets text) : Unbroken text := by
  intro rest
  induction h with
  | nil => exact (congrFun List.modifyHead_id _).symm
  | @guarded c text _ ih =>
    have hbackslash : (level 0).step? '\\' = some ⟨0, false, true⟩ := by decide
    have hguarded : (⟨0, false, true⟩ : Cursor).step? c = some (level 0) := rfl
    rw [List.cons_append, List.cons_append, tokens_cons_of_eq hbackslash (Or.inl (by decide)),
      tokens_cons_of_eq hguarded (Or.inr (Or.inr rfl)), ih, List.modifyHead_modifyHead,
      List.modifyHead_modifyHead]
    rfl
  | @plain c text hc _ ih =>
    have hblank : isBlank c = false := (Bool.or_eq_false_iff.mp hc).2
    rw [List.cons_append, tokens_cons_of_eq (step?_of_not_upsets hc 0) (Or.inl hblank), ih,
      List.modifyHead_modifyHead]
    rfl

theorem unbroken_quote : Unbroken (quote []) := by
  have hopening : (level 0).step? '"' = some ⟨0, true, false⟩ := by decide
  have hclosing : (⟨0, true, false⟩ : Cursor).step? '"' = some (level 0) := by decide
  intro rest
  have htext : quote [] ++ rest = '"' :: '"' :: rest := rfl
  rw [htext, tokens_cons_of_eq hopening (Or.inl (by decide)),
    tokens_cons_of_eq hclosing (Or.inl (by decide)), List.modifyHead_modifyHead]
  rfl

theorem unbroken_escapeToken (text : List Char) : Unbroken (escapeToken text) :=
  unbroken_of_protected ((protected_protect breaksToken text).mono upsets_breaksToken)

theorem unbroken_value (text : List Char) : Unbroken (value true text) := by
  unfold value
  split
  · exact unbroken_quote
  · exact unbroken_escapeToken text

theorem Unbroken.tokens_eq {text : List Char} (h : Unbroken text) :
    tokens (level 0) text = [text] := by
  simpa [tokens] using h []

/-- A token ends at the first blank behind it. -/
theorem Unbroken.tokens_append {text : List Char} (h : Unbroken text) (rest : List Char) :
    tokens (level 0) (text ++ ' ' :: rest) = text :: tokens (level 0) rest := by
  have hblank : tokens (level 0) (' ' :: rest) = [] :: tokens (level 0) rest := by
    rw [tokens, if_pos (by decide)]
  rw [h, hblank, List.modifyHead_cons, List.append_nil]

/-! ### Tokens side by side -/

theorem tokens_joined_blank {texts : List (List Char)} (hne : texts ≠ [])
    (htexts : ∀ text ∈ texts, Unbroken text) :
    tokens (level 0) (joined [' '] texts) = texts := by
  induction texts using joined.induct with
  | case1 => exact absurd rfl hne
  | case2 text => exact (htexts text (List.mem_singleton_self text)).tokens_eq
  | case3 text rest hrest ih =>
    obtain ⟨htext, htail⟩ := List.forall_mem_cons.mp htexts
    have hjoined : joined [' '] (text :: rest) = text ++ ' ' :: joined [' '] rest := by
      rw [joined, List.append_assoc, List.singleton_append]
      exact hrest
    rw [hjoined, htext.tokens_append, ih hrest htail]

theorem tokens_joined_orWord {texts : List (List Char)} (hne : texts ≠ [])
    (htexts : ∀ text ∈ texts, Unbroken text) :
    tokens (level 0) (joined orWord texts) = texts.intersperse "OR".toList := by
  have hor : Unbroken "OR".toList := unbroken_escapeToken "OR".toList
  induction texts using joined.induct with
  | case1 => exact absurd rfl hne
  | case2 text => exact (htexts text (List.mem_singleton_self text)).tokens_eq
  | case3 text rest hrest ih =>
    obtain ⟨htext, htail⟩ := List.forall_mem_cons.mp htexts
    have hjoined : joined orWord (text :: rest)
        = text ++ ' ' :: ("OR".toList ++ ' ' :: joined orWord rest) := by
      rw [joined, List.append_assoc]
      · rfl
      · exact hrest
    rw [hjoined, htext.tokens_append, hor.tokens_append, ih hrest htail]
    obtain ⟨second, rest, rfl⟩ := List.exists_cons_of_ne_nil hrest
    rfl

theorem tokens_values {texts : List (List Char)} (hne : texts ≠ []) :
    tokens (level 0) (values true texts)
      = (texts.map (value true)).intersperse "OR".toList := by
  have hvalues : ∀ text ∈ texts.map (value true), Unbroken text :=
    List.forall_mem_map.mpr fun text _ => unbroken_value text
  rw [values, if_neg (by simpa using hne)]
  exact tokens_joined_orWord (by simpa using hne) hvalues

theorem tokens_escapeWords {text : List Char} (hne : words text ≠ []) :
    tokens (level 0) (escapeWords text) = (words text).map escapeToken := by
  have hwords : ∀ token ∈ (words text).map escapeToken, Unbroken token :=
    List.forall_mem_map.mpr fun word _ => unbroken_escapeToken word
  rw [escapeWords]
  exact tokens_joined_blank (by simpa using hne) hwords

/-! ### Operators among the tokens -/

theorem value_eq_of_isOperator {text : List Char} (h : isOperator text = true) :
    value true text = text := by
  have hall : ∀ word ∈ operatorWords, value true word = word := by decide
  exact hall text (List.contains_iff_mem.mp h)

/-- Escaping neither takes an operator away nor makes one. -/
theorem isOperator_value (text : List Char) : isOperator (value true text) = isOperator text := by
  rw [Bool.eq_iff_iff]
  constructor
  · intro h
    have hfixed := value_injective (value_eq_of_isOperator h)
    rwa [hfixed] at h
  · intro h
    rw [value_eq_of_isOperator h]
    exact h

theorem filter_isOperator_cons_value (text : List Char) (others : List (List Char)) :
    (value true text :: others).filter isOperator
      = [text].filter isOperator ++ others.filter isOperator := by
  rw [List.filter_cons, List.filter_cons, isOperator_value]
  split
  · rename_i h
    rw [value_eq_of_isOperator h]
    rfl
  · rfl

theorem filter_isOperator_map_value (texts : List (List Char)) :
    (texts.map (value true)).filter isOperator = texts.filter isOperator := by
  induction texts with
  | nil => rfl
  | cons text texts ih =>
    rw [List.map_cons, filter_isOperator_cons_value, ih, ← List.filter_append]
    rfl

theorem filter_isOperator_intersperse_value (texts : List (List Char)) :
    ((texts.map (value true)).intersperse "OR".toList).filter isOperator
      = (texts.intersperse "OR".toList).filter isOperator := by
  have hor : isOperator "OR".toList = true := by decide
  induction texts with
  | nil => rfl
  | cons text texts ih =>
    cases texts with
    | nil => exact filter_isOperator_map_value [text]
    | cons second texts =>
      calc _ = [text].filter isOperator ++ ("OR".toList ::
              ((second :: texts).map (value true)).intersperse "OR".toList).filter isOperator :=
            filter_isOperator_cons_value _ _
        _ = [text].filter isOperator ++
              ("OR".toList :: (second :: texts).intersperse "OR".toList).filter isOperator := by
            rw [List.filter_cons_of_pos hor, List.filter_cons_of_pos hor, ih]
        _ = _ := (List.filter_append [text] _).symm

theorem mem_of_mem_intersperse {α : Type} {sep x : α} {l : List α} (h : x ∈ l.intersperse sep) :
    x = sep ∨ x ∈ l := by
  induction l with
  | nil => cases h
  | cons y l ih =>
    cases l with
    | nil => exact Or.inr h
    | cons z l =>
      rw [List.intersperse_cons_cons] at h
      rcases List.mem_cons.mp h with rfl | h
      · exact Or.inr List.mem_cons_self
      · rcases List.mem_cons.mp h with rfl | h
        · exact Or.inl rfl
        · exact (ih h).imp_right (List.mem_cons_of_mem y)

/-- Every separator counts, and so does every text that is an operator itself. -/
theorem length_filter_isOperator_intersperse (texts : List (List Char)) :
    ((texts.intersperse "OR".toList).filter isOperator).length
      = (texts.length - 1) + (texts.filter isOperator).length := by
  have hor : isOperator "OR".toList = true := by decide
  induction texts with
  | nil => rfl
  | cons text texts ih =>
    cases texts with
    | nil => simp
    | cons second texts =>
      rw [List.intersperse_cons_cons, List.filter_cons, List.filter_cons_of_pos hor,
        List.filter_cons (x := text)]
      simp only [List.length_cons] at ih ⊢
      split <;> simp only [List.length_cons, ih] <;> omega

/-- The operators are the separators exactly when no text is one itself. -/
theorem filter_isOperator_intersperse_iff (texts : List (List Char)) :
    (texts.intersperse "OR".toList).filter isOperator
        = List.replicate (texts.length - 1) "OR".toList ↔
      ∀ text ∈ texts, isOperator text = false := by
  have hlength := length_filter_isOperator_intersperse texts
  constructor
  · intro h
    rw [h, List.length_replicate] at hlength
    have hnone : texts.filter isOperator = [] := List.eq_nil_of_length_eq_zero (by omega)
    intro text htext
    exact Bool.eq_false_iff.mpr (List.filter_eq_nil_iff.mp hnone text htext)
  · intro h
    have hnone : texts.filter isOperator = [] :=
      List.filter_eq_nil_iff.mpr fun text htext => Bool.eq_false_iff.mp (h text htext)
    refine List.eq_replicate_iff.mpr ⟨by rw [hlength, hnone]; rfl, fun token htoken => ?_⟩
    obtain ⟨hmem, hoperator⟩ := List.mem_filter.mp htoken
    rcases mem_of_mem_intersperse hmem with hsep | htext
    · exact hsep
    · rw [h token htext] at hoperator
      cases hoperator

/-! ### Values and words -/

theorem bareOperators_oneOf (values : List String) :
    bareOperators (queryText (.oneOf values))
      = ((values.map String.toList).intersperse "OR".toList).filter isOperator := by
  rw [bareOperators, queryText, String.toList_ofList, Query.oneOf, queryChars]
  by_cases hempty : values = []
  · have hquote : Flat.values true ([].map String.toList) = quote [] := rfl
    rw [hempty, hquote, unbroken_quote.tokens_eq]
    rfl
  · rw [tokens_values (by simpa using hempty), filter_isOperator_intersperse_value]

theorem bareOperators_wordsOf (text : String) :
    bareOperators (queryText (.wordsOf text)) = (words text.toList).filter isOperator := by
  rw [bareOperators, queryText, String.toList_ofList, Query.wordsOf, queryChars, freeText]
  split
  · rename_i hblank
    rw [(words_eq_nil_iff _).mpr hblank, unbroken_quote.tokens_eq]
    rfl
  · rename_i hblank
    have hne : words text.toList ≠ [] := fun h => hblank ((words_eq_nil_iff _).mp h)
    have hvalue : (words text.toList).map escapeToken = (words text.toList).map (value true) := by
      refine List.map_congr_left fun word hword => ?_
      have hempty : ¬ word.isEmpty = true := fun h =>
        ne_nil_of_mem_words hword (List.isEmpty_iff.mp h)
      rw [value, if_neg hempty, if_pos rfl]
    rw [if_pos rfl, tokens_escapeWords hne, hvalue, filter_isOperator_map_value]

/-- **Which operators escaped text brings into a query string.**  Of several values these
    are the words between them and the values that are spelled like an operator, and of
    free text the words that are.  So nothing but the separators operates exactly when
    no value, and no word, is spelled like an operator. -/
theorem bareOperators_iff (values : List String) (text : String) :
    (bareOperators (queryText (.oneOf values))
        = ((values.map String.toList).intersperse "OR".toList).filter isOperator ∧
      (bareOperators (queryText (.oneOf values))
          = List.replicate (values.length - 1) "OR".toList ↔
        ∀ value ∈ values, isOperator value.toList = false)) ∧
    bareOperators (queryText (.wordsOf text)) = (words text.toList).filter isOperator ∧
      (bareOperators (queryText (.wordsOf text)) = [] ↔
        ∀ word ∈ words text.toList, isOperator word = false) := by
  constructor
  · have hiff := filter_isOperator_intersperse_iff (values.map String.toList)
    rw [List.length_map, List.forall_mem_map] at hiff
    rw [bareOperators_oneOf]
    exact ⟨rfl, hiff⟩
  · rw [bareOperators_wordsOf, List.filter_eq_nil_iff]
    exact ⟨rfl, forall₂_congr fun word _ => by rw [Bool.not_eq_true]⟩

/-- A value and a word of free text that are spelled like an operator stay bare. -/
theorem operator_left_bare :
    queryText (.exactly "OR") = "OR" ∧
      bareOperators (queryText (.exactly "OR")) = ["OR".toList] ∧
      bareOperators (queryText (.exactly "OR")) ≠ List.replicate (["OR"].length - 1) "OR".toList ∧
      queryText (.wordsOf "rock AND roll") = "rock AND roll" ∧
      bareOperators (queryText (.wordsOf "rock AND roll")) = ["AND".toList] := by
  decide

end Retrieval.Flat

/-
  Retrieval/Proofs/Flat/RoundTrip.lean
  ====================================
  **Escaped text is read back.**

  Escaping puts a backslash before every character that has a meaning.  Its counterpart is a
  reader that takes a backslash for the character behind it and stops at a character with a
  meaning that stands on its own (`readUntil?`).  What was escaped passes through the reader
  unchanged (`readUntil?_protect_append`), whatever stands behind it.  A token, a phrase between
  quotes and the words of free text are therefore read back as they were, and two lists of values
  that are written alike are the same list.
-/
import Retrieval.Proofs.Flat.Operators
import Retrieval.Proofs.Outcome

namespace Retrieval.Flat

open Text Cursor

/-! ### Reading with backslashes -/

/-- Read a text up to the first character that satisfies `stop`, where a backslash stands for
    the character behind it.  The outcome is what has been read and the rest of the text.
    `guarded` says that a backslash stands in front of the text, and one that has nothing behind
    it cannot be read. -/
def readUntil? (stop : Char → Bool) (guarded : Bool) : List Char → Option (List Char × List Char)
  | [] => if guarded then none else some ([], [])
  | c :: rest =>
    if guarded then (readUntil? stop false rest).map (Prod.map (c :: ·) id)
    else if c = '\\' then readUntil? stop true rest
    else if stop c then some ([], c :: rest)
    else (readUntil? stop false rest).map (Prod.map (c :: ·) id)

/-- Read a whole text. -/
def unprotect? (text : List Char) : Option (List Char) :=
  (readUntil? (fun _ => false) false text).map Prod.fst

/-- Read a string at the front of a text, up to the quote that ends it. -/
def readString? : List Char → Option (List Char × List Char)
  | '"' :: text =>
    match readUntil? (· == '"') false text with
    | some (content, '"' :: rest) => some (content, rest)
    | _ => none
  | _ => none

section

variable {stop : Char → Bool} {c : Char}

theorem readUntil?_guarded (rest : List Char) :
    readUntil? stop false ('\\' :: c :: rest)
      = (readUntil? stop false rest).map (Prod.map (c :: ·) id) := by
  simp [readUntil?]

theorem readUntil?_plain (hc : c ≠ '\\') (hstop : stop c = false) (rest : List Char) :
    readUntil? stop false (c :: rest)
      = (readUntil? stop false rest).map (Prod.map (c :: ·) id) := by
  simp [readUntil?, hc, hstop]

theorem readUntil?_stop (hc : c ≠ '\\') (hstop : stop c = true) (rest : List Char) :
    readUntil? stop false (c :: rest) = some ([], c :: rest) := by
  simp [readUntil?, hc, hstop]

end

theorem ne_backslash {special : Char → Bool} (hbackslash : special '\\' = true) {c : Char}
    (hc : special c = false) : c ≠ '\\' := by
  rintro rfl
  rw [hbackslash] at hc
  cases hc

/-- A reader takes up what was protected and goes on behind it. -/
theorem readUntil?_protect_append {special stop : Char → Bool} (hbackslash : special '\\' = true)
    (hstop : ∀ c, stop c = true → special c = true) (text rest : List Char) :
    readUntil? stop false (protect special text ++ rest)
      = (readUntil? stop false rest).map (Prod.map (text ++ ·) id) := by
  induction text with
  | nil =>
    rw [protect, List.nil_append]
    cases readUntil? stop false rest <;> rfl
  | cons c text ih =>
    rw [protect]
    by_cases hc : special c = true
    · rw [if_pos hc, List.cons_append, List.cons_append, readUntil?_guarded, ih]
      cases readUntil? stop false rest <;> rfl
    · -- What is not special is no backslash and does not stop the reader either.
      have hplain : c ≠ '\\' := ne_backslash hbackslash (Bool.eq_false_iff.mpr hc)
      have hgoes : stop c = false := Bool.eq_false_iff.mpr (mt (hstop c) hc)
      rw [if_neg hc, List.cons_append, readUntil?_plain hplain hgoes, ih]
      cases readUntil? stop false rest <;> rfl

theorem unprotect?_escapeToken (text : List Char) : unprotect? (escapeToken text) = some text := by
  have hread := @readUntil?_protect_append breaksToken (fun _ => false) (by decide) nofun text []
  rw [List.append_nil] at hread
  rw [unprotect?, escapeToken, hread]
  simp [readUntil?]

/-- The first bare quote is the closing one, so the string ends there. -/
theorem readString?_quote (text behind : List Char) :
    readString? (quote (escapePhrase text) ++ behind) = some (text, behind) := by
  have hquote : ∀ c, (c == '"') = true → isReserved c = true := by
    intro c hc
    rw [eq_of_beq hc]
    decide
  have htext : quote (escapePhrase text) ++ behind
      = '"' :: (protect isReserved text ++ '"' :: behind) := by
    simp [quote, escapePhrase]
  rw [htext, readString?, readUntil?_protect_append (by decide) hquote,
    readUntil?_stop (by decide) (by decide)]
  simp

/-! ### Backslashes in escaped text -/

/-- The text ends with a backslash that stands for the character behind it. -/
def EndsGuarding (text : List Char) : Prop :=
  ∃ front, (unprotect? front).isSome ∧ text = front ++ ['\\']

theorem EndsGuarding.guarded {text : List Char} (h : EndsGuarding text) (c : Char) :
    EndsGuarding ('\\' :: c :: text) := by
  obtain ⟨front, hfront, rfl⟩ := h
  refine ⟨'\\' :: c :: front, ?_, rfl⟩
  simpa [unprotect?, readUntil?_guarded] using hfront

theorem EndsGuarding.plain {text : List Char} (h : EndsGuarding text) {c : Char} (hc : c ≠ '\\') :
    EndsGuarding (c :: text) := by
  obtain ⟨front, hfront, rfl⟩ := h
  refine ⟨c :: front, ?_, rfl⟩
  simpa [unprotect?, readUntil?_plain hc] using hfront

/-- A special character of a protected text is such a backslash or stands behind one. -/
theorem Protected.endsGuarding {special : Char → Bool} (hbackslash : special '\\' = true)
    {text : List Char} (h : Protected special text) {before behind : List Char} {c : Char}
    (htext : text = before ++ c :: behind) (hc : special c = true) :
    EndsGuarding (before ++ [c]) ∨ EndsGuarding before := by
  have hfirst : EndsGuarding ['\\'] := ⟨[], rfl, rfl⟩
  induction h generalizing before with
  | nil => simp at htext
  | guarded d _ ih =>
    -- The character is the backslash of the pair, the one behind it, or comes later.
    rcases before with _ | ⟨x, _ | ⟨y, before⟩⟩
    · left
      obtain ⟨rfl, -⟩ := List.cons.inj htext
      exact hfirst
    · right
      obtain ⟨rfl, -⟩ := List.cons.inj htext
      exact hfirst
    · simp only [List.cons_append, List.cons.injEq] at htext
      obtain ⟨rfl, rfl, hrest⟩ := htext
      exact (ih hrest).imp (·.guarded d) (·.guarded d)
  | @plain d _ hd _ ih =>
    rcases before with _ | ⟨x, before⟩
    · obtain ⟨rfl, -⟩ := List.cons.inj htext
      rw [hc] at hd
      cases hd
    · simp only [List.cons_append, List.cons.injEq] at htext
      obtain ⟨rfl, hrest⟩ := htext
      have hplain : d ≠ '\\' := ne_backslash hbackslash hd
      exact (ih hrest).imp (·.plain hplain) (·.plain hplain)

/-! ### Words of free text -/

/-- Cut a text at every blank that stands behind no backslash.  `guarded` says that one stands
    in front of the text. -/
def splitBare (guarded : Bool) : List Char → List (List Char)
  | [] => [[]]
  | c :: rest =>
    if guarded = false ∧ isBlank c = true then [] :: splitBare false rest
    else (splitBare (!guarded && c == '\\') rest).modifyHead (c :: ·)

/-- The pieces between bare blanks that are not empty. -/
def bareWords (text : List Char) : List (List Char) :=
  (splitBare false text).filter fun piece => !piece.isEmpty

theorem exists_level_of_plain {c : Char} (h : endsString c = false) (depth : Nat) :
    ∃ depth', ((level depth).step? c).getD (level depth) = level depth' := by
  simp only [endsString, Bool.or_eq_false_iff, beq_eq_false_iff_ne] at h
  rw [level, step?, if_neg h.1, if_neg h.2]
  split_ifs
  all_goals exact ⟨_, rfl⟩

/-- Where every quote stands behind a backslash no string opens, and a reader that knows of
    strings cuts at the same blanks. -/
theorem tokens_eq_splitBare {text : List Char} (h : Protected endsString text) (depth : Nat) :
    tokens (level depth) text = splitBare false text := by
  induction h generalizing depth with
  | nil => rfl
  | @guarded c rest _ ih =>
    have hbackslash : (level depth).step? '\\' = some ⟨depth, false, true⟩ := rfl
    have hguarded : (⟨depth, false, true⟩ : Cursor).step? c = some (level depth) := rfl
    have hblank : isBlank '\\' = false := by decide
    rw [tokens_cons_of_eq hbackslash (.inl hblank), tokens_cons_of_eq hguarded (.inr (.inr rfl)),
      ih]
    simp [splitBare, hblank]
  | @plain c rest hc _ ih =>
    have hplain : (c == '\\') = false := (Bool.or_eq_false_iff.mp hc).1
    rw [tokens, splitBare]
    by_cases hblank : isBlank c = true
    · rw [if_pos ⟨rfl, rfl, hblank⟩, if_pos ⟨rfl, hblank⟩, ih]
    · -- A bracket leads to another depth, and cutting does not depend on the depth.
      obtain ⟨depth', hstep⟩ := exists_level_of_plain hc depth
      rw [if_neg (fun h => hblank h.2.2), if_neg (fun h => hblank h.2), hstep, ih, hplain]
      rfl

theorem protected_escapeWords (text : List Char) : Protected endsString (escapeWords text) := by
  have hblank : Protected endsString [' '] := .plain (by decide) .nil
  apply joined_induction .nil (fun _ _ ha hb => ha.append hb) hblank
  intro token htoken
  obtain ⟨word, -, rfl⟩ := List.mem_map.mp htoken
  apply (protected_protect breaksToken word).mono
  intro c hc
  rw [breaksToken, endsString_isReserved c hc, Bool.true_or]

/-- The bare blanks of escaped free text are the ones between its words. -/
theorem bareWords_escapeWords (text : List Char) :
    bareWords (escapeWords text) = (words text).map escapeToken := by
  by_cases hwords : words text = []
  · rw [escapeWords, hwords]
    rfl
  · have hsplit : splitBare false (escapeWords text) = (words text).map escapeToken := by
      rw [← tokens_eq_splitBare (protected_escapeWords text) 0, tokens_escapeWords hwords]
    rw [bareWords, hsplit, List.filter_eq_self, List.forall_mem_map]
    intro word hword
    simpa using escapeToken_ne_nil (ne_nil_of_mem_words hword)

/-! ### Lists of values -/

theorem eq_of_intersperse_eq {α : Type} {sep : α} {l l' : List α}
    (h : l.intersperse sep = l'.intersperse sep) : l = l' := by
  apply List.ext_getElem?
  intro i
  have hi := congrArg (fun m => m[2 * i]?) h
  simpa only [List.getElem?_intersperse_two_mul] using hi

theorem values_injective {a b : List (List Char)} (ha : a ≠ []) (hb : b ≠ [])
    (h : values true a = values true b) : a = b := by
  have hmap : a.map (value true) = b.map (value true) := by
    apply @eq_of_intersperse_eq _ "OR".toList
    rw [← tokens_values ha, ← tokens_values hb, h]
  exact List.map_injective_iff.mpr (fun _ _ => value_injective) hmap

/-- The empty list is written like the list of one empty value.  No other two lists are. -/
theorem queryText_oneOf_inj {vs ws : List String} (hvs : vs ≠ []) (hws : ws ≠ []) :
    queryText (.oneOf vs) = queryText (.oneOf ws) ↔ vs = ws := by
  constructor
  · intro h
    have hchars := String.ofList_injective h
    rw [Query.oneOf, Query.oneOf, queryChars, queryChars] at hchars
    have hlists := values_injective (by simpa using hvs) (by simpa using hws) hchars
    exact List.map_injective_iff.mpr (fun _ _ => String.toList_inj.mp) hlists
  · intro h
    rw [h]

/-- **Escaped text is read back.**  A token is read back whole, and every character with a
    meaning in it is a backslash that stands for the next character or has one in front of it.
    A quoted phrase ends at its own closing quote, and what is in between is the phrase.  Free
    text that is cut at the bare blanks gives its words.  So values cannot be taken for others,
    and lists of them that are written alike are the same. -/
theorem escaped_text_reads_back (text : List Char) {vs ws : List String} (hvs : vs ≠ [])
    (hws : ws ≠ []) :
    unprotect? (escapeToken text) = some text ∧
    (∀ before c behind, escapeToken text = before ++ c :: behind → breaksToken c = true →
      EndsGuarding (before ++ [c]) ∨ EndsGuarding before) ∧
    (∀ behind, readString? (quote (escapePhrase text) ++ behind) = some (text, behind)) ∧
    (bareWords (escapeWords text)).mapM unprotect? = some (words text) ∧
    (queryText (.oneOf vs) = queryText (.oneOf ws) ↔ vs = ws) := by
  refine ⟨unprotect?_escapeToken text, ?_, readString?_quote text, ?_, queryText_oneOf_inj hvs hws⟩
  · intro before c behind htext hc
    exact (protected_protect breaksToken text).endsGuarding (by decide) htext hc
  · rw [bareWords_escapeWords, mapM_map_eq_some_iff]
    intro word _
    exact unprotect?_escapeToken word

/-- Two words with a backslash and quotes, and two kinds of blanks between them. -/
def hostileText : List Char := "\\\" \t\"OR".toList

theorem escaped_text_reads_back_hostileText :
    ["a", "b"] ≠ [] ∧ ["a OR b"] ≠ [] ∧
      unprotect? (escapeToken hostileText) = some hostileText ∧
      escapeToken hostileText = "\\\\\\\"\\".toList ++ ' ' :: "\\\t\\\"OR".toList ∧
      (EndsGuarding ("\\\\\\\"\\".toList ++ [' ']) ∨ EndsGuarding "\\\\\\\"\\".toList) ∧
      readString? (quote (escapePhrase hostileText) ++ " AND".toList)
        = some (hostileText, " AND".toList) ∧
      (bareWords (escapeWords hostileText)).mapM unprotect?
        = some ["\\\"".toList, "\"OR".toList] ∧
      queryText (.oneOf ["a", "b"]) ≠ queryText (.oneOf ["a OR b"]) := by
  have htext : escapeToken hostileText = "\\\\\\\"\\".toList ++ ' ' :: "\\\t\\\"OR".toList := by
    decide
  obtain ⟨htoken, hspecial, hstring, hwords, hlists⟩ :=
    @escaped_text_reads_back hostileText ["a", "b"] ["a OR b"] (by decide) (by decide)
  refine ⟨by decide, by decide, htoken, htext, hspecial _ _ _ htext (by decide), hstring _, hwords,
    ?_⟩
  rw [Ne, hlists]
  decide

end Retrieval.Flat

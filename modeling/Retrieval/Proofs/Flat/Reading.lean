/-
  Retrieval/Proofs/Flat/Reading.lean
  ==================================
  **Reading conditions back from a query string.**

  A reader knows nothing of the tree that a text was made from.  It cuts the text where
  `OR` is exposed and otherwise where `AND` is exposed, takes off the parentheses around
  what is left, understands `(*:* -x)` as the negation of `x`, and takes any other text
  for one atom (`Reads`).

  Grouped texts side by side are read as their combination, whatever the groups hold.
-/
import Retrieval.Proofs.Flat.Scanning

namespace Retrieval.Flat

open Text Cursor

/-! ### The reader -/

/-- Cut a text at the first exposed occurrence of a word, which is dropped. -/
def cutFrom? (word : List Char) (s : Cursor) : List Char → Option (List Char × List Char)
  | [] => none
  | c :: rest =>
    if s = level 0 ∧ word <+: c :: rest then some ([], (c :: rest).drop word.length)
    else (s.step? c).bind fun t =>
      (cutFrom? word t rest).map fun cut => (c :: cut.1, cut.2)

/-- Cut a whole text. -/
def cut? (word text : List Char) : Option (List Char × List Char) := cutFrom? word (level 0) text

/-- Take off the parentheses around a whole text. -/
def enclosed? (text : List Char) : Option (List Char) :=
  if text = grouped (text.tail.dropLast) ∧ Balanced text.tail.dropLast then
    some text.tail.dropLast
  else none

/-- What stands in front of a negated condition. -/
def notWord : List Char := "*:* -".toList

/-- The condition that a text negates. -/
def negated? (text : List Char) : Option (List Char) :=
  if notWord <+: text then some (text.drop notWord.length) else none

theorem length_of_cutFrom? {word : List Char} {s : Cursor} {text first rest : List Char}
    (h : cutFrom? word s text = some (first, rest)) :
    first.length + (word.length + rest.length) = text.length := by
  induction text generalizing s first rest with
  | nil => cases h
  | cons c text ih =>
    rw [cutFrom?] at h
    split at h
    · rename_i hword
      obtain ⟨rfl, rfl⟩ := Prod.mk.inj (Option.some.inj h)
      have hle := hword.2.length_le
      rw [List.length_drop, List.length_nil]
      omega
    · obtain ⟨t, -, h⟩ := Option.bind_eq_some_iff.mp h
      obtain ⟨cut, hcut, h⟩ := Option.map_eq_some_iff.mp h
      obtain ⟨rfl, rfl⟩ := Prod.mk.inj h
      have hlength := ih hcut
      rw [List.length_cons, List.length_cons]
      omega

theorem length_of_enclosed? {text inner : List Char} (h : enclosed? text = some inner) :
    inner.length < text.length := by
  unfold enclosed? at h
  split at h
  · rename_i henclosed
    obtain rfl := Option.some.inj h
    have hlength := congrArg List.length henclosed.1
    rw [grouped, List.length_cons, List.length_append] at hlength
    omega
  · cases h

theorem length_of_negated? {text rest : List Char} (h : negated? text = some rest) :
    rest.length ≤ text.length := by
  unfold negated? at h
  split at h
  · obtain rfl := Option.some.inj h
    rw [List.length_drop]
    omega
  · cases h

theorem length_of_cut?_or {text first rest : List Char}
    (h : cut? orWord text = some (first, rest)) :
    first.length < text.length ∧ rest.length < text.length := by
  have hlength := length_of_cutFrom? h
  simp only [orWord, String.reduceToList, List.length_cons, List.length_nil] at hlength
  omega

theorem length_of_cut?_and {text first rest : List Char}
    (h : cut? andWord text = some (first, rest)) :
    first.length < text.length ∧ rest.length < text.length := by
  have hlength := length_of_cutFrom? h
  simp only [andWord, String.reduceToList, List.length_cons, List.length_nil] at hlength
  omega

/-- What a text says, given which atoms hold. -/
def Reads (holds : List Char → Prop) (text : List Char) : Prop :=
  match _ : cut? orWord text with
  | some (first, rest) => Reads holds first ∨ Reads holds rest
  | none =>
    match _ : cut? andWord text with
    | some (first, rest) => Reads holds first ∧ Reads holds rest
    | none =>
      match _ : enclosed? text with
      | some inner =>
        match _ : negated? inner with
        | some condition => ¬ Reads holds condition
        | none => Reads holds inner
      | none => holds text
termination_by text.length
decreasing_by
  · exact (length_of_cut?_or ‹_›).1
  · exact (length_of_cut?_or ‹_›).2
  · exact (length_of_cut?_and ‹_›).1
  · exact (length_of_cut?_and ‹_›).2
  · exact Nat.lt_of_le_of_lt (length_of_negated? ‹_›) (length_of_enclosed? ‹_›)
  · exact length_of_enclosed? ‹_›

section Reads

variable (holds : List Char → Prop)

theorem reads_eq (text : List Char) : Reads holds text =
    match cut? orWord text with
    | some (first, rest) => Reads holds first ∨ Reads holds rest
    | none =>
      match cut? andWord text with
      | some (first, rest) => Reads holds first ∧ Reads holds rest
      | none =>
        match enclosed? text with
        | some inner =>
          match negated? inner with
          | some condition => ¬ Reads holds condition
          | none => Reads holds inner
        | none => holds text := by
  rw [Reads]
  split
  case h_1 h => rw [h]
  case h_2 h =>
    rw [h]
    split
    case h_1 h => rw [h]
    case h_2 h =>
      rw [h]
      split
      case h_1 h =>
        rw [h]
        split
        case h_1 h => simp only [h]
        case h_2 h => simp only [h]
      case h_2 h => rw [h]

variable {holds} {text : List Char}

theorem reads_or {first rest : List Char} (h : cut? orWord text = some (first, rest)) :
    Reads holds text ↔ Reads holds first ∨ Reads holds rest := by
  rw [reads_eq, h]

theorem reads_and {first rest : List Char} (hor : cut? orWord text = none)
    (h : cut? andWord text = some (first, rest)) :
    Reads holds text ↔ Reads holds first ∧ Reads holds rest := by
  rw [reads_eq, hor, h]

theorem reads_enclosed {inner : List Char} (hor : cut? orWord text = none)
    (hand : cut? andWord text = none) (hinner : enclosed? text = some inner)
    (h : negated? inner = none) : Reads holds text ↔ Reads holds inner := by
  rw [reads_eq, hor, hand, hinner]
  simp only [h]

theorem reads_negated {inner condition : List Char} (hor : cut? orWord text = none)
    (hand : cut? andWord text = none) (hinner : enclosed? text = some inner)
    (h : negated? inner = some condition) : Reads holds text ↔ ¬ Reads holds condition := by
  rw [reads_eq, hor, hand, hinner]
  simp only [h]

theorem reads_atom (hor : cut? orWord text = none) (hand : cut? andWord text = none)
    (hinner : enclosed? text = none) : Reads holds text ↔ holds text := by
  rw [reads_eq, hor, hand, hinner]

end Reads

/-! ### Cutting between solid texts -/

theorem cut?_cons {word : List Char} {c : Char} {rest : List Char} (hword : ¬ word <+: c :: rest)
    (hstep : (level 0).step? c = some (level 0)) :
    cut? word (c :: rest) = (cut? word rest).map fun cut => (c :: cut.1, cut.2) := by
  rw [cut?, cutFrom?, if_neg (fun h => hword h.2), hstep, Option.bind_some, cut?]

/-- A word that begins with a blank does not begin inside of a solid text. -/
theorem cutFrom?_append {s t : Cursor} {a : List Char} (hscan : s.scan a = some t)
    (ha : ∀ c ∈ s.exposed a, isBlank c = false) (word b : List Char) :
    cutFrom? (' ' :: word) s (a ++ b)
      = (cutFrom? (' ' :: word) t b).map fun cut => (a ++ cut.1, cut.2) := by
  induction a generalizing s with
  | nil =>
    obtain rfl := Option.some.inj hscan
    exact (Option.map_id_apply).symm
  | cons c a ih =>
    rw [scan_cons] at hscan
    obtain ⟨u, hu, hscan⟩ := Option.bind_eq_some_iff.mp hscan
    rw [exposed_cons_of_eq hu, List.forall_mem_append] at ha
    have hword : ¬ (s = level 0 ∧ ' ' :: word <+: c :: (a ++ b)) := by
      rintro ⟨hs, hprefix⟩
      have hc := ha.1 c (by rw [if_pos hs]; exact List.mem_singleton_self c)
      obtain rfl := (List.cons_prefix_cons.mp hprefix).1
      revert hc
      decide
    rw [List.cons_append, cutFrom?, if_neg hword, hu, Option.bind_some, ih hscan ha.2,
      Option.map_map]
    rfl

theorem Solid.cut?_append {a : List Char} (ha : Solid a) (word b : List Char) :
    cut? (' ' :: word) (a ++ b)
      = (cut? (' ' :: word) b).map fun cut => (a ++ cut.1, cut.2) :=
  cutFrom?_append ha.1 ha.2 word b

theorem Solid.cut?_eq_none {a : List Char} (ha : Solid a) (word : List Char) :
    cut? (' ' :: word) a = none := by
  have hcut := ha.cut?_append word []
  rw [List.append_nil] at hcut
  exact hcut

theorem Solid.cut?_word {a : List Char} (ha : Solid a) (word b : List Char) :
    cut? (' ' :: word) (a ++ (' ' :: word) ++ b) = some (a, b) := by
  have hword : cut? (' ' :: word) (' ' :: word ++ b) = some ([], b) := by
    have hprefix : ' ' :: word <+: ' ' :: (word ++ b) := List.prefix_append (' ' :: word) b
    rw [List.cons_append, cut?, cutFrom?, if_pos ⟨rfl, hprefix⟩]
    simp
  rw [List.append_assoc, ha.cut?_append, hword, Option.map_some, List.append_nil]

/-- In front of a group, `AND` is not taken for `OR`. -/
theorem cut?_or_and (text : List Char) :
    cut? orWord (andWord ++ '(' :: text)
      = (cut? orWord ('(' :: text)).map fun cut => (andWord ++ cut.1, cut.2) := by
  have hblank : ¬ orWord <+: ' ' :: 'A' :: 'N' :: 'D' :: ' ' :: '(' :: text := by simp [orWord]
  have hblank' : ¬ orWord <+: ' ' :: '(' :: text := by simp [orWord]
  have hletter : ∀ {c : Char} (rest : List Char), c ≠ ' ' → ¬ orWord <+: c :: rest := by
    intro c rest hc hprefix
    exact hc (List.cons_prefix_cons.mp hprefix).1.symm
  have hand : andWord ++ '(' :: text = ' ' :: 'A' :: 'N' :: 'D' :: ' ' :: '(' :: text := rfl
  rw [hand, cut?_cons hblank (by decide), cut?_cons (hletter _ (by decide)) (by decide),
    cut?_cons (hletter _ (by decide)) (by decide), cut?_cons (hletter _ (by decide)) (by decide),
    cut?_cons hblank' (by decide)]
  simp only [Option.map_map]
  rfl

/-! ### Groups side by side -/

variable {texts : List (List Char)}

theorem joined_grouped_eq_cons (word text : List Char) (rest : List (List Char)) :
    ∃ tail, joined word ((text :: rest).map grouped) = '(' :: tail := by
  cases rest with
  | nil => exact ⟨_, rfl⟩
  | cons second rest => exact ⟨_, rfl⟩

theorem cut?_or_joined_and (htexts : ∀ text ∈ texts, Balanced text) :
    cut? orWord (joined andWord (texts.map grouped)) = none := by
  induction texts with
  | nil => rfl
  | cons text rest ih =>
    obtain ⟨htext, hrest⟩ := List.forall_mem_cons.mp htexts
    have hsolid := solid_grouped htext
    cases rest with
    | nil => exact hsolid.cut?_eq_none _
    | cons second rest =>
      have hjoined : joined andWord ((text :: second :: rest).map grouped)
          = grouped text ++ (andWord ++ joined andWord ((second :: rest).map grouped)) :=
        List.append_assoc ..
      have hfirst : ∀ b, cut? orWord (grouped text ++ b)
          = (cut? orWord b).map fun cut => (grouped text ++ cut.1, cut.2) :=
        hsolid.cut?_append _
      obtain ⟨tail, htail⟩ := joined_grouped_eq_cons andWord second rest
      have hcut := ih hrest
      rw [htail] at hcut
      rw [hjoined, hfirst, htail, cut?_or_and, hcut, Option.map_none, Option.map_none]

theorem enclosed?_grouped {text : List Char} (h : Balanced text) :
    enclosed? (grouped text) = some text := by
  have htext : (grouped text).tail.dropLast = text := by
    rw [grouped, List.tail_cons, List.dropLast_concat]
  rw [enclosed?, htext, if_pos ⟨rfl, h⟩]

variable (holds : List Char → Prop)

theorem reads_grouped_iff {text : List Char} (h : Balanced text) (hhead : text.head? ≠ some '*') :
    Reads holds (grouped text) ↔ Reads holds text := by
  have hsolid := solid_grouped h
  refine reads_enclosed (hsolid.cut?_eq_none _) (hsolid.cut?_eq_none _) (enclosed?_grouped h) ?_
  rw [negated?, if_neg]
  rintro ⟨rest, rfl⟩
  exact hhead rfl

theorem reads_negated_iff {text : List Char} (h : Balanced text) :
    Reads holds (grouped (notWord ++ text)) ↔ ¬ Reads holds text := by
  have hinner : Balanced (notWord ++ text) := Balanced.append (by decide) h
  have hsolid := solid_grouped hinner
  refine reads_negated (hsolid.cut?_eq_none _) (hsolid.cut?_eq_none _)
    (enclosed?_grouped hinner) ?_
  rw [negated?, if_pos (List.prefix_append _ _), List.drop_left]

theorem reads_solid_iff {text : List Char} (h : Solid text) (hhead : text.head? ≠ some '(') :
    Reads holds text ↔ holds text := by
  refine reads_atom (h.cut?_eq_none _) (h.cut?_eq_none _) ?_
  rw [enclosed?, if_neg]
  rintro ⟨htext, -⟩
  rw [htext] at hhead
  exact hhead rfl

/-- Groups with `AND` between them are read as the conjunction of what they hold. -/
theorem reads_joined_and_iff (htexts : ∀ text ∈ texts, Balanced text) (hne : texts ≠ []) :
    Reads holds (joined andWord (texts.map grouped))
      ↔ ∀ text ∈ texts, Reads holds (grouped text) := by
  induction texts with
  | nil => exact absurd rfl hne
  | cons text rest ih =>
    obtain ⟨htext, hrest⟩ := List.forall_mem_cons.mp htexts
    rw [List.forall_mem_cons]
    cases rest with
    | nil => exact (and_iff_left (List.forall_mem_nil _)).symm
    | cons second rest =>
      have hor := cut?_or_joined_and htexts
      have hcut : cut? andWord (joined andWord ((text :: second :: rest).map grouped))
          = some (grouped text, joined andWord ((second :: rest).map grouped)) :=
        (solid_grouped htext).cut?_word _ _
      rw [reads_and hor hcut, ih hrest (List.cons_ne_nil second rest)]

/-- Groups with `OR` between them are read as the disjunction of what they hold. -/
theorem reads_joined_or_iff (htexts : ∀ text ∈ texts, Balanced text) (hne : texts ≠ []) :
    Reads holds (joined orWord (texts.map grouped))
      ↔ ∃ text ∈ texts, Reads holds (grouped text) := by
  induction texts with
  | nil => exact absurd rfl hne
  | cons text rest ih =>
    obtain ⟨htext, hrest⟩ := List.forall_mem_cons.mp htexts
    have hsplit : (∃ t ∈ text :: rest, Reads holds (grouped t))
        ↔ Reads holds (grouped text) ∨ ∃ t ∈ rest, Reads holds (grouped t) := by
      simp only [List.mem_cons, exists_eq_or_imp]
    rw [hsplit]
    cases rest with
    | nil => exact (or_iff_left fun ⟨_, hmem, _⟩ => List.not_mem_nil hmem).symm
    | cons second rest =>
      have hcut : cut? orWord (joined orWord ((text :: second :: rest).map grouped))
          = some (grouped text, joined orWord ((second :: rest).map grouped)) :=
        (solid_grouped htext).cut?_word _ _
      rw [reads_or hcut, ih hrest (List.cons_ne_nil second rest)]

end Retrieval.Flat

/-
  Retrieval/Text/Blank.lean
  =========================
  **Blank characters and the words between them.**

  A character is *blank* when it has the White_Space property of the character
  database (version 17).  The property covers 25 characters in ten ranges, far
  more than the four blanks of plain ASCII text.

  `words` cuts a text into its maximal runs of non-blank characters.  It first
  cuts at every blank (`pieces`), which loses nothing but the blanks, and then
  drops the empty pieces.
-/
import Retrieval.Text.Ranges

namespace Retrieval.Text

/-- The blank characters as closed ranges of code points, ascending and apart. -/
def blankRanges : Ranges :=
  [(0x09, 0x0D), (0x20, 0x20), (0x85, 0x85), (0xA0, 0xA0), (0x1680, 0x1680),
   (0x2000, 0x200A), (0x2028, 0x2029), (0x202F, 0x202F), (0x205F, 0x205F), (0x3000, 0x3000)]

def isBlank (c : Char) : Bool := inRanges blankRanges c.toNat

theorem isBlank_iff (c : Char) :
    isBlank c = true ↔ ∃ r ∈ blankRanges, r.1 ≤ c.toNat ∧ c.toNat ≤ r.2 :=
  inRanges_iff (by decide) c.toNat

/-- Cut a text at every blank.  There is one piece more than there are blanks, and
    a piece may be empty. -/
def pieces : List Char → List (List Char)
  | [] => [[]]
  | c :: rest =>
    if isBlank c then [] :: pieces rest
    else match pieces rest with
      | [] => [[c]]
      | piece :: others => (c :: piece) :: others

/-- The words of a text: its maximal runs of non-blank characters, in order. -/
def words (text : List Char) : List (List Char) :=
  (pieces text).filter fun piece => !piece.isEmpty

/-- Whether a text has no character but blanks. -/
def allBlank (text : List Char) : Bool := text.all isBlank

theorem ne_nil_of_mem_words {text word : List Char} (h : word ∈ words text) : word ≠ [] := by
  have := (List.mem_filter.mp h).2
  intro hw
  simp [hw] at this

theorem words_cons_of_isBlank {c : Char} (hc : isBlank c = true) (rest : List Char) :
    words (c :: rest) = words rest := by
  rw [words, pieces, if_pos hc, List.filter_cons_of_neg (by decide), words]

theorem words_eq_nil_iff (text : List Char) : words text = [] ↔ allBlank text = true := by
  induction text with
  | nil => exact iff_of_true rfl rfl
  | cons c rest ih =>
    rw [allBlank, List.all_cons, Bool.and_eq_true]
    by_cases hc : isBlank c = true
    · rw [words_cons_of_isBlank hc, ih, and_iff_right hc, allBlank]
    · refine iff_of_false ?_ fun hblank => hc hblank.1
      rw [words, pieces, if_neg hc]
      split <;> exact List.cons_ne_nil _ _

end Retrieval.Text

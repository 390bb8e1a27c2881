/-
  Retrieval/Text/Hidden.lean
  ==========================
  **Characters that do not show by themselves.**

  A text that is shown for inspection must not hide anything.  A character is *hidden*
  when one cannot see it, or cannot tell where it stands: an invisible one, an extending
  mark, or a code point without a character.  All else shows as it is.
-/
import Retrieval.Text.Extending
import Retrieval.Text.Unassigned

namespace Retrieval.Text

/-- The invisible characters: controls, separators other than the space, format
    characters, private characters, and the fillers, which are letters but are to be
    ignored where they are not supported (version 17 of the character database). -/
def invisible : Ranges :=
  [(0x00, 0x1F), (0x7F, 0xA0), (0xAD, 0xAD), (0x600, 0x605), (0x61C, 0x61C), (0x6DD, 0x6DD),
   (0x70F, 0x70F), (0x890, 0x891), (0x8E2, 0x8E2), (0x115F, 0x1160), (0x1680, 0x1680),
   (0x180E, 0x180E), (0x2000, 0x200F), (0x2028, 0x202F), (0x205F, 0x2064), (0x2066, 0x206F),
   (0x3000, 0x3000), (0x3164, 0x3164), (0xE000, 0xF8FF), (0xFEFF, 0xFEFF), (0xFFA0, 0xFFA0),
   (0xFFF9, 0xFFFB), (0x110BD, 0x110BD), (0x110CD, 0x110CD), (0x13430, 0x1343F),
   (0x1BCA0, 0x1BCA3), (0x1D173, 0x1D17A), (0xE0001, 0xE0001), (0xE0020, 0xE007F),
   (0xF0000, 0xFFFFD), (0x100000, 0x10FFFD)]

theorem ascending_invisible : ascending invisible = true := by decide +kernel

/-- Whether a character does not show by itself. -/
def isHidden (c : Char) : Bool :=
  inRanges invisible c.toNat || inRanges extending c.toNat || inRanges unassigned c.toNat

/-- The hidden characters are those of the three tables. -/
theorem isHidden_iff (c : Char) :
    isHidden c = true ↔
      (∃ r ∈ invisible, r.1 ≤ c.toNat ∧ c.toNat ≤ r.2) ∨
        (∃ r ∈ extending, r.1 ≤ c.toNat ∧ c.toNat ≤ r.2) ∨
        ∃ r ∈ unassigned, r.1 ≤ c.toNat ∧ c.toNat ≤ r.2 := by
  rw [isHidden, Bool.or_eq_true, Bool.or_eq_true, or_assoc, inRanges_iff ascending_invisible,
    inRanges_iff ascending_extending, inRanges_iff ascending_unassigned]

/-- Whether a character stands between the space and the tilde. -/
def isPrintable (c : Char) : Bool := ' '.toNat ≤ c.toNat && c.toNat ≤ '~'.toNat

theorem isHidden_of_isPrintable {c : Char} (h : isPrintable c = true) : isHidden c = false := by
  obtain ⟨hspace, htilde⟩ : ' '.toNat ≤ c.toNat ∧ c.toNat ≤ '~'.toNat := by
    simpa [isPrintable] using h
  have hinvisible : ∀ r ∈ invisible, r.2 < ' '.toNat ∨ '~'.toNat < r.1 := by decide +kernel
  have hextending : ∀ r ∈ extending, '~'.toNat < r.1 := by decide +kernel
  have hunassigned : ∀ r ∈ unassigned, '~'.toNat < r.1 := by decide +kernel
  rw [Bool.eq_false_iff]
  intro hhidden
  rcases (isHidden_iff c).mp hhidden with ⟨r, hr, hrange⟩ | ⟨r, hr, hrange⟩ | ⟨r, hr, hrange⟩
  · have hapart := hinvisible r hr
    omega
  · have hapart := hextending r hr
    omega
  · have hapart := hunassigned r hr
    omega

theorem isHidden_of_all_isPrintable {text : List Char} (h : text.all isPrintable = true) :
    ∀ c ∈ text, isHidden c = false := fun c hc =>
  isHidden_of_isPrintable (List.all_eq_true.mp h c hc)

end Retrieval.Text

/-
  Retrieval/Proofs/Numeral.lean
  =============================
  **The characters of a number.**

  Numbers stand in requests without any protection.  That is safe, because whatever the
  style, a number is a *numeral*: it is written with the few characters of `isNumeral`,
  and with at least one of them.
-/
import Retrieval.Scalar

namespace Retrieval

open Decimal

/-- The characters that numbers are written with. -/
def isNumeral (c : Char) : Bool :=
  c.isDigit || ['.', '+', '-', 'e', 'N', 'a', 'i', 'n', 'f'].contains c

/-- A text that could be a number. -/
def Numeral (text : List Char) : Prop := text ≠ [] ∧ ∀ c ∈ text, isNumeral c = true

theorem Numeral.cons {c : Char} {text : List Char} (hc : isNumeral c = true)
    (htext : ∀ c ∈ text, isNumeral c = true) : Numeral (c :: text) :=
  ⟨List.cons_ne_nil c text, List.forall_mem_cons.mpr ⟨hc, htext⟩⟩

theorem Numeral.append {a b : List Char} (ha : Numeral a) (hb : ∀ c ∈ b, isNumeral c = true) :
    Numeral (a ++ b) :=
  ⟨List.append_ne_nil_of_left_ne_nil ha.1 b, List.forall_mem_append.mpr ⟨ha.2, hb⟩⟩

namespace Decimal

theorem numeral_digitChars (n : Nat) : Numeral (digitChars n) := by
  refine ⟨List.ne_nil_of_length_pos Nat.length_toDigits_pos, fun c hc => ?_⟩
  have hdigit : c.isDigit = true := Nat.isDigit_of_mem_toDigits (by decide) (by decide) hc
  rw [isNumeral, hdigit, Bool.true_or]

theorem numeral_signedChars (n : Int) : Numeral (signedChars n) := by
  unfold signedChars
  split
  · exact Numeral.cons (by decide) (numeral_digitChars _).2
  · exact numeral_digitChars _

variable (style : Style)

theorem numeral_placePoint {digits : List Char} (h : Numeral digits) (before : Int) :
    Numeral (style.placePoint digits before) := by
  have hzeros : ∀ n, ∀ c ∈ List.replicate n '0', isNumeral c = true := by
    intro n c hc
    rw [List.eq_of_mem_replicate hc]
    decide
  unfold Style.placePoint
  split
  · refine Numeral.cons (by decide) (List.forall_mem_cons.mpr ⟨by decide, ?_⟩)
    exact List.forall_mem_append.mpr ⟨hzeros _, h.2⟩
  · rename_i hbefore
    have hwhole : Numeral (digits.take before.toNat) := by
      refine ⟨fun htake => ?_, fun c hc => h.2 c (List.mem_of_mem_take hc)⟩
      rcases List.take_eq_nil_iff.mp htake with hzero | hnil
      · omega
      · exact h.1 hnil
    have hfraction : ∀ c ∈ digits.drop before.toNat, isNumeral c = true :=
      fun c hc => h.2 c (List.mem_of_mem_drop hc)
    dsimp only
    split
    · refine (hwhole.append (hzeros _)).append ?_
      split <;> exact List.all_eq_true.mp (by decide)
    · exact hwhole.append (List.forall_mem_cons.mpr ⟨by decide, hfraction⟩)

theorem numeral_scientific {digits : List Char} (h : Numeral digits) (e : Int) :
    Numeral (style.scientific digits e) := by
  have hmark : ∀ c ∈ (if style.plusSign && decide (0 ≤ e) then ['e', '+'] else ['e']),
      isNumeral c = true := by
    split <;> exact List.all_eq_true.mp (by decide)
  have hexponent := List.forall_mem_append.mpr ⟨hmark, (numeral_signedChars e).2⟩
  unfold Style.scientific
  match digits, h with
  | [], h => exact absurd rfl h.1
  | [d], h =>
    obtain ⟨hd, -⟩ := List.forall_mem_cons.mp h.2
    exact Numeral.cons hd hexponent
  | d :: d' :: fraction, h =>
    obtain ⟨hd, hfraction⟩ := List.forall_mem_cons.mp h.2
    refine Numeral.cons hd (List.forall_mem_cons.mpr ⟨by decide, ?_⟩)
    rw [List.append_assoc]
    exact List.forall_mem_append.mpr ⟨hfraction, hexponent⟩

theorem numeral_magnitude (x : Dyadic) : Numeral (style.magnitude x) := by
  unfold Style.magnitude
  split
  · split <;> exact ⟨by decide, List.all_eq_true.mp (by decide)⟩
  · have hdigits := numeral_digitChars (x.shortest style.tie).digits
    unfold Style.positive
    dsimp only
    split
    · exact numeral_placePoint style hdigits _
    · split
      · exact numeral_placePoint style hdigits _
      · exact numeral_scientific style hdigits _

end Decimal

/-- A scalar is written as a numeral, whatever its style and whatever its bits. -/
theorem Scalar.numeral_text (style : Style) (s : Scalar) : Numeral (s.text style).toList := by
  unfold Scalar.text
  split
  · exact ⟨by decide, List.all_eq_true.mp (by decide)⟩
  · have hmagnitude :
        Numeral (if s.isFinite then style.magnitude (Dyadic.ofBits64 s.bits) else "inf".toList) := by
      split
      · exact numeral_magnitude style _
      · exact ⟨by decide, List.all_eq_true.mp (by decide)⟩
    dsimp only
    rw [String.toList_ofList]
    split
    · exact Numeral.cons (by decide) hmagnitude.2
    · exact hmagnitude

end Retrieval

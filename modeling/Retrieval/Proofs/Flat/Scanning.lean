/-
  Retrieval/Proofs/Flat/Scanning.lean
  ===================================
  **Reading a query string from left to right.**

  The reader of a query string has to know three things about the place where it stands:
  how many brackets are open, whether it is inside a string, and whether the next
  character is protected by a backslash (`Cursor`).  One function says what a character
  does to the place (`Cursor.step?`), and everything else is a fold over it.

    * A text is *balanced* when reading it leaves the place as it was, without ever
      closing a bracket that the text did not open.  Balanced texts can be put side by
      side and between brackets.
    * A character is *exposed* when it is read outside of every bracket and string and
      without protection.  Words of the syntax only count where they are exposed.
    * A text is *solid* when it is balanced and exposes no blank.  Such a text cannot be
      torn apart by the words around it.
-/
import Retrieval.Flat.Expression

namespace Retrieval.Flat

open Text

/-! ### The place of a reader -/

/-- The place of a reader: the number of open brackets, whether a string is open, and
    whether the next character is protected. -/
structure Cursor where
  depth : Nat
  quoted : Bool
  guarded : Bool
deriving DecidableEq, Repr

namespace Cursor

/-- The place between so many brackets, outside of a string and without protection. -/
def level (depth : Nat) : Cursor := ⟨depth, false, false⟩

/-- The same place between `k` more brackets. -/
def raise (k : Nat) (s : Cursor) : Cursor := { s with depth := s.depth + k }

/-- Read a character.  A bracket that closes nothing is refused. -/
def step? : Cursor → Char → Option Cursor
  | ⟨depth, quoted, true⟩, _ => some ⟨depth, quoted, false⟩
  | ⟨depth, true, false⟩, c =>
    if c = '\\' then some ⟨depth, true, true⟩
    else if c = '"' then some ⟨depth, false, false⟩
    else some ⟨depth, true, false⟩
  | ⟨depth, false, false⟩, c =>
    if c = '\\' then some ⟨depth, false, true⟩
    else if c = '"' then some ⟨depth, true, false⟩
    else if c = '(' ∨ c = '[' then some ⟨depth + 1, false, false⟩
    else if c = ')' ∨ c = ']' then if depth = 0 then none else some ⟨depth - 1, false, false⟩
    else some ⟨depth, false, false⟩

/-- Read a text. -/
def scan (s : Cursor) (text : List Char) : Option Cursor := text.foldlM step? s

@[simp] theorem scan_nil (s : Cursor) : s.scan [] = some s := rfl

theorem scan_cons (s : Cursor) (c : Char) (text : List Char) :
    s.scan (c :: text) = (s.step? c).bind (·.scan text) := rfl

theorem scan_append (s : Cursor) (a b : List Char) :
    s.scan (a ++ b) = (s.scan a).bind (·.scan b) := List.foldlM_append

theorem scan_append_of_eq {s t : Cursor} {a : List Char} (h : s.scan a = some t) (b : List Char) :
    s.scan (a ++ b) = t.scan b := by
  rw [scan_append, h, Option.bind_some]

/-! ### Deeper places -/

theorem step?_raise {s t : Cursor} {c : Char} (h : s.step? c = some t) (k : Nat) :
    (s.raise k).step? c = some (t.raise k) := by
  obtain ⟨depth, quoted, guarded⟩ := s
  cases guarded <;> cases quoted <;> simp only [step?, raise] at h ⊢ <;> grind

theorem scan_raise {s t : Cursor} {text : List Char} (h : s.scan text = some t) (k : Nat) :
    (s.raise k).scan text = some (t.raise k) := by
  induction text generalizing s with
  | nil =>
    obtain rfl := Option.some.inj h
    rfl
  | cons c text ih =>
    rw [scan_cons] at h ⊢
    obtain ⟨u, hu, h⟩ := Option.bind_eq_some_iff.mp h
    rw [step?_raise hu, Option.bind_some, ih h]

/-! ### Exposed characters -/

/-- The characters of a text that are read outside of every bracket and string and
    without protection. -/
def exposed (s : Cursor) : List Char → List Char
  | [] => []
  | c :: rest =>
    (if s = level 0 then [c] else []) ++ ((s.step? c).map fun t => exposed t rest).getD []

theorem exposed_cons_of_eq {s t : Cursor} {c : Char} (h : s.step? c = some t) (rest : List Char) :
    s.exposed (c :: rest) = (if s = level 0 then [c] else []) ++ t.exposed rest := by
  rw [exposed, h, Option.map_some, Option.getD_some]

theorem exposed_append_of_eq {s t : Cursor} {a : List Char} (h : s.scan a = some t)
    (b : List Char) : s.exposed (a ++ b) = s.exposed a ++ t.exposed b := by
  induction a generalizing s with
  | nil =>
    obtain rfl := Option.some.inj h
    rfl
  | cons c a ih =>
    rw [scan_cons] at h
    obtain ⟨u, hu, h⟩ := Option.bind_eq_some_iff.mp h
    rw [List.cons_append, exposed_cons_of_eq hu, exposed_cons_of_eq hu, ih h, List.append_assoc]

/-- Between further brackets nothing is exposed. -/
theorem exposed_raise_succ {s t : Cursor} {text : List Char} (h : s.scan text = some t) (k : Nat) :
    (s.raise (k + 1)).exposed text = [] := by
  induction text generalizing s with
  | nil => rfl
  | cons c text ih =>
    rw [scan_cons] at h
    obtain ⟨u, hu, h⟩ := Option.bind_eq_some_iff.mp h
    have hdeep : s.raise (k + 1) ≠ level 0 := fun e => by cases congrArg depth e
    rw [exposed_cons_of_eq (step?_raise hu (k + 1)), if_neg hdeep, ih h, List.nil_append]

end Cursor

open Cursor

/-! ### Balanced texts -/

/-- Reading the text closes every bracket and string that it opens, and no others. -/
def Balanced (text : List Char) : Prop := (level 0).scan text = some (level 0)

instance (text : List Char) : Decidable (Balanced text) :=
  inferInstanceAs (Decidable (_ = _))

theorem Balanced.scan_level {text : List Char} (h : Balanced text) (depth : Nat) :
    (level depth).scan text = some (level depth) := by
  have hraise : (level 0).raise depth = level depth := by
    simp only [raise, level, Nat.zero_add]
  simpa only [hraise] using scan_raise h depth

theorem balanced_nil : Balanced [] := rfl

theorem Balanced.append {a b : List Char} (ha : Balanced a) (hb : Balanced b) :
    Balanced (a ++ b) := by
  rw [Balanced, scan_append_of_eq ha]
  exact hb

/-- What holds of the parts and of the separator, and can be put side by side, holds of the
    joined text. -/
theorem joined_induction {P : List Char → Prop} (hnil : P [])
    (happend : ∀ a b, P a → P b → P (a ++ b)) {separator : List Char} (hseparator : P separator)
    {texts : List (List Char)} (htexts : ∀ text ∈ texts, P text) : P (joined separator texts) := by
  induction texts using joined.induct with
  | case1 => exact hnil
  | case2 text => exact htexts text (List.mem_singleton_self text)
  | case3 text rest hrest ih =>
    obtain ⟨htext, htail⟩ := List.forall_mem_cons.mp htexts
    rw [joined]
    · exact happend _ _ (happend _ _ htext hseparator) (ih htail)
    · exact hrest

theorem balanced_joined {separator : List Char} (hseparator : Balanced separator)
    {texts : List (List Char)} (htexts : ∀ text ∈ texts, Balanced text) :
    Balanced (joined separator texts) :=
  joined_induction balanced_nil (fun _ _ ha hb => ha.append hb) hseparator htexts

/-- A balanced text between brackets is balanced. -/
theorem Balanced.enclosed {opening closing : Char} {text : List Char}
    (hopening : (level 0).step? opening = some (level 1))
    (hclosing : (level 1).step? closing = some (level 0)) (htext : Balanced text) :
    Balanced (opening :: (text ++ [closing])) := by
  rw [Balanced, scan_cons, hopening, Option.bind_some, scan_append_of_eq (htext.scan_level 1),
    scan_cons, hclosing]
  rfl

theorem balanced_grouped {text : List Char} (h : Balanced text) : Balanced (grouped text) :=
  h.enclosed (by decide) (by decide)

theorem balanced_bracketed {text : List Char} (h : Balanced text) :
    Balanced ('[' :: (text ++ [']'])) :=
  h.enclosed (by decide) (by decide)

/-! ### Solid texts -/

/-- The text is balanced, and no blank in it is exposed. -/
def Solid (text : List Char) : Prop :=
  Balanced text ∧ ∀ c ∈ (level 0).exposed text, isBlank c = false

theorem solid_of_any_eq_false {text : List Char} (hbalanced : Balanced text)
    (hexposed : ((level 0).exposed text).any isBlank = false) : Solid text := by
  refine ⟨hbalanced, fun c hc => Bool.eq_false_iff.mpr fun hblank => ?_⟩
  rw [List.any_eq_false] at hexposed
  exact hexposed c hc hblank

theorem Solid.append {a b : List Char} (ha : Solid a) (hb : Solid b) : Solid (a ++ b) := by
  refine ⟨ha.1.append hb.1, ?_⟩
  rw [exposed_append_of_eq ha.1, List.forall_mem_append]
  exact ⟨ha.2, hb.2⟩

/-- What stands between brackets is not exposed. -/
theorem exposed_enclosed {opening closing : Char} {text : List Char}
    (hopening : (level 0).step? opening = some (level 1))
    (hclosing : (level 1).step? closing = some (level 0)) (htext : Balanced text) :
    (level 0).exposed (opening :: (text ++ [closing])) = [opening] := by
  have hinner : (level 1).exposed text = [] := exposed_raise_succ htext 0
  rw [exposed_cons_of_eq hopening, if_pos rfl, exposed_append_of_eq (htext.scan_level 1), hinner,
    exposed_cons_of_eq hclosing, if_neg (by decide)]
  rfl

theorem exposed_grouped {text : List Char} (h : Balanced text) :
    (level 0).exposed (grouped text) = ['('] :=
  exposed_enclosed (by decide) (by decide) h

theorem solid_grouped {text : List Char} (h : Balanced text) : Solid (grouped text) := by
  refine ⟨balanced_grouped h, ?_⟩
  rw [exposed_grouped h, List.forall_mem_singleton]
  decide

theorem solid_bracketed {text : List Char} (h : Balanced text) :
    Solid ('[' :: (text ++ [']'])) := by
  refine ⟨balanced_bracketed h, ?_⟩
  rw [exposed_enclosed (by decide) (by decide) h, List.forall_mem_singleton]
  decide

end Retrieval.Flat

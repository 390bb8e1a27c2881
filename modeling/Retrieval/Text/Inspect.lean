/-
  Retrieval/Text/Inspect.lean
  ===========================
  **The inspection form: one line that shows a value with its constructors.**

  Messages that reject an expression show it in this form, so that a reader can see
  which constructor was met where:

      Boost { query: Term { values: ["a"], escape: true }, weight: Scalar(2.0) }

  A value is a *record* with named parts, a *variant* with unnamed parts, a bare
  name, a list or an optional value.  Texts stand between double quotes; what would
  not show, or would end the quotation, is written with a backslash.  All of a quoted text
  therefore shows (`isHidden_of_mem_quoted`).
-/
import Retrieval.Text.Hidden

namespace Retrieval.Text.Inspect

/-! ### Layout -/

/-- Texts with a comma and a space between them. -/
def commaSeparated (parts : List String) : String := String.intercalate ", " parts

def part (entry : String × String) : String := entry.1 ++ ": " ++ entry.2

/-- A record: its name and its named parts. -/
def record (name : String) (parts : List (String × String)) : String :=
  name ++ " \x7b " ++ commaSeparated (parts.map part) ++ " \x7d"

/-- A record with further parts that are not shown. -/
def openRecord (name : String) (parts : List (String × String)) : String :=
  name ++ " \x7b " ++ commaSeparated (parts.map part ++ [".."]) ++ " \x7d"

def variant (name content : String) : String := name ++ "(" ++ content ++ ")"

def list (items : List String) : String := "[" ++ commaSeparated items ++ "]"

def option : Option String → String
  | none => "None"
  | some content => variant "Some" content

def flag (b : Bool) : String := if b then "true" else "false"

/-! ### Quoted texts -/

def quotedChar (c : Char) : List Char :=
  match c with
  | '"' => ['\\', '"']
  | '\\' => ['\\', '\\']
  | '\t' => ['\\', 't']
  | '\r' => ['\\', 'r']
  | '\n' => ['\\', 'n']
  | '\x00' => ['\\', '0']
  | c => if isHidden c then '\\' :: 'u' :: '\x7b' :: (Nat.toDigits 16 c.toNat ++ ['\x7d']) else [c]

def quoted (text : String) : String :=
  "\"" ++ String.ofList (text.toList.flatMap quotedChar) ++ "\""

def quotedList (texts : List String) : String := list (texts.map quoted)

/-! ### Nothing is hidden -/

theorem isHidden_of_mem_toDigits {n : Nat} {c : Char} (h : c ∈ Nat.toDigits 16 n) :
    isHidden c = false := by
  have hdigit : ∀ d, d < 16 → isPrintable d.digitChar = true := by decide
  induction n using Nat.strongRecOn with
  | _ n ih =>
    by_cases hn : n < 16
    · rw [Nat.toDigits_of_lt_base hn, List.mem_singleton] at h
      rw [h]
      exact isHidden_of_isPrintable (hdigit n hn)
    · rw [Nat.toDigits_of_base_le (by decide) (Nat.le_of_not_lt hn), List.mem_append,
        List.mem_singleton] at h
      rcases h with h | rfl
      · exact ih (n / 16) (by omega) h
      · exact isHidden_of_isPrintable (hdigit (n % 16) (by omega))

theorem isHidden_of_mem_quotedChar (c : Char) : ∀ d ∈ quotedChar c, isHidden d = false := by
  unfold quotedChar
  split
  case h_7 =>
    split
    · -- A hidden character stands as its number between braces.
      have hsplit : ∀ digits : List Char, '\\' :: 'u' :: '\x7b' :: (digits ++ ['\x7d']) =
          ['\\', 'u', '\x7b'] ++ digits ++ ['\x7d'] := fun _ => rfl
      rw [hsplit, List.forall_mem_append, List.forall_mem_append]
      refine ⟨⟨isHidden_of_all_isPrintable (by decide), ?_⟩,
        isHidden_of_all_isPrintable (by decide)⟩
      intro d hd
      exact isHidden_of_mem_toDigits hd
    · rename_i hshows
      intro d hd
      rw [List.mem_singleton.mp hd]
      exact Bool.eq_false_iff.mpr hshows
  all_goals exact isHidden_of_all_isPrintable (by decide)

theorem isHidden_of_mem_quoted (text : String) : ∀ c ∈ (quoted text).toList, isHidden c = false := by
  rw [quoted, String.toList_append, String.toList_append, List.forall_mem_append,
    List.forall_mem_append]
  refine ⟨⟨isHidden_of_all_isPrintable (by decide), ?_⟩, isHidden_of_all_isPrintable (by decide)⟩
  intro c hc
  rw [String.toList_ofList] at hc
  obtain ⟨d, -, hd⟩ := List.mem_flatMap.mp hc
  exact isHidden_of_mem_quotedChar d c hd

end Retrieval.Text.Inspect

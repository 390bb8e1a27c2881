/-
  Retrieval/Proofs/Structured/Formula.lean
  ========================================
  **How the backend reads a script.**

  A script is an arithmetic formula over the score that a document has so far, the numbers
  in its fields, distances and the parameters.  The reader goes through the text from left
  to right, one token at a time (`token?`), and remembers its `Place`: the parentheses that
  are open, the products that are finished, and the product that it stands in.

    * `*` and `/` continue the product, so they combine from left to right;
    * `+` and the end of a parenthesis finish it, so `*` and `/` bind tighter than `+`;
    * a parenthesis may belong to a function, and then holds its arguments.

  A formula has a value in every domain of numbers that can be divided (`Formula.value?`).
  Division is exact, and gives zero where the divisor is zero.
-/
import Mathlib.Algebra.Field.Rat
import Mathlib.Data.Rat.Cast.Defs
import Retrieval.Json.Numeral
import Retrieval.Structured.Script

namespace Retrieval

/-! ### Exact numbers -/

namespace Decimal

/-- The number that a mantissa and an exponent stand for. -/
def Dyadic.rational (x : Dyadic) : ℚ := x.mantissa * 2 ^ x.exponent

end Decimal

/-- The number that the bits of a finite scalar stand for. -/
def Scalar.exact (s : Scalar) : ℚ :=
  let magnitude := (Decimal.Dyadic.ofBits64 s.bits).rational
  if s.isNegative then -magnitude else magnitude

def Number.exact : Number → ℚ
  | .natural n => n.toNat
  | .negative n => n.toInt
  | .real x => x.exact

def Json.exact? : Json → Option ℚ
  | .number n => some n.exact
  | _ => none

namespace Structured

/-! ### Formulas -/

inductive Formula where
  | number (n : ℚ)
  /-- The score that the document has so far. -/
  | score
  | parameter (name : String)
  /-- The number in a field. -/
  | field (name : String)
  /-- The distance along the great circle from the point in a field, in meters. -/
  | arcDistance (field : String) (lat lng : Formula)
  /-- The distance in the plane from the point in a field, in meters. -/
  | planeDistance (field : String) (lat lng : Formula)
  | power (base : Formula) (exponent : Nat)
  | sum (a b : Formula)
  | product (a b : Formula)
  | quotient (a b : Formula)

/-- What a script can ask about the document that it is run for. -/
structure Scene (K : Type) where
  score : K
  field : String → K
  arcDistance : String → K → K → K
  planeDistance : String → K → K → K

section Value

variable {K : Type} [DivisionRing K] (scene : Scene K) (parameters : Json)

/-- The value of a formula.  There is none where a parameter is missing or no number. -/
def Formula.value? : Formula → Option K
  | .number n => some n
  | .score => some scene.score
  | .parameter name => ((parameters.member? name).bind Json.exact?).map fun n : ℚ => (n : K)
  | .field name => some (scene.field name)
  | .arcDistance name lat lng => do pure (scene.arcDistance name (← value? lat) (← value? lng))
  | .planeDistance name lat lng => do pure (scene.planeDistance name (← value? lat) (← value? lng))
  | .power base exponent => do pure ((← value? base) ^ exponent)
  | .sum a b => do pure ((← value? a) + (← value? b))
  | .product a b => do pure ((← value? a) * (← value? b))
  | .quotient a b => do pure ((← value? a) / (← value? b))

end Value

/-! ### Tokens -/

/-- What an opening parenthesis belongs to. -/
inductive Callee where
  | group
  | arcDistance (field : String)
  | planeDistance (field : String)
  | power

/-- What a parenthesis stands for, given what is in it.  Powers have a whole exponent. -/
def Callee.apply? : Callee → List Formula → Option Formula
  | .group, [a] => some a
  | .arcDistance name, [lat, lng] => some (.arcDistance name lat lng)
  | .planeDistance name, [lat, lng] => some (.planeDistance name lat lng)
  | .power, [base, .number n] => if n = n.num.toNat then some (.power base n.num.toNat) else none
  | _, _ => none

inductive Link where
  | times
  | over

inductive Token where
  | operand (a : Formula)
  | opening (callee : Callee)
  | closing
  | comma
  | plus
  | link (l : Link)

/-- What follows a word at the beginning of a text. -/
def after? : List Char → List Char → Option (List Char)
  | [], text => some text
  | _ :: _, [] => none
  | c :: word, d :: text => if c = d then after? word text else none

def isNameChar (c : Char) : Bool := c.isAlphanum || c == '_'

/-- The characters that a text between apostrophes can hold as they are. -/
def isTextChar (c : Char) : Bool := c != '\'' && c != '\\'

def parameter? (text : List Char) : Option (Token × List Char) :=
  match text.takeWhile isNameChar with
  | [] => none
  | name => some (.operand (.parameter (String.ofList name)), text.dropWhile isNameChar)

/-- What is asked about a field. -/
def access? (field : String) (text : List Char) : Option (Token × List Char) :=
  match after? "'].value".toList text with
  | some rest => some (.operand (.field field), rest)
  | none =>
    match after? "'].arcDistance(".toList text with
    | some rest => some (.opening (.arcDistance field), rest)
    | none =>
      (after? "'].planeDistance(".toList text).map fun rest =>
        (.opening (.planeDistance field), rest)

/-- The characters of a number without a sign or an exponent. -/
def isLiteralChar (c : Char) : Bool := c.isDigit || c == '.'

/-- Digits, with or without a fraction. -/
def decimal? (text : List Char) : Option ℚ :=
  match Json.Numeral.digits text with
  | ([], _) => none
  | (whole, []) => some (Json.Numeral.ofDigits whole)
  | (whole, '.' :: text) =>
    match Json.Numeral.digits text with
    | (d :: fraction, []) =>
      some (Json.Numeral.ofDigits whole
        + Json.Numeral.ofDigits (d :: fraction) / 10 ^ (d :: fraction).length)
    | _ => none
  | _ => none

def literal? (text : List Char) : Option (Token × List Char) :=
  (decimal? (text.takeWhile isLiteralChar)).map fun n =>
    (.operand (.number n), text.dropWhile isLiteralChar)

/-- A name or a number at the beginning of a text. -/
def word? (text : List Char) : Option (Token × List Char) :=
  match after? "_score".toList text with
  | some rest => some (.operand .score, rest)
  | none =>
    match after? "params.".toList text with
    | some rest => parameter? rest
    | none =>
      match after? "Math.pow(".toList text with
      | some rest => some (.opening .power, rest)
      | none =>
        match after? "doc['".toList text with
        | some rest =>
          access? (String.ofList (rest.takeWhile isTextChar)) (rest.dropWhile isTextChar)
        | none => literal? text

/-- The token at the beginning of a text, behind any blanks, and what follows it. -/
def token? : List Char → Option (Token × List Char)
  | ' ' :: rest => token? rest
  | '(' :: rest => some (.opening .group, rest)
  | ')' :: rest => some (.closing, rest)
  | ',' :: rest => some (.comma, rest)
  | '+' :: rest => some (.plus, rest)
  | '*' :: rest => some (.link .times, rest)
  | '/' :: rest => some (.link .over, rest)
  | text => word? text

/-! ### The reader -/

/-- A product that is being read. -/
inductive Product where
  /-- No factor was read yet. -/
  | empty
  /-- A factor has to follow. -/
  | pending (a : Formula) (l : Link)
  /-- The product could end here. -/
  | complete (a : Formula)

def Product.factor? : Product → Formula → Option Product
  | .empty, b => some (.complete b)
  | .pending a .times, b => some (.complete (.product a b))
  | .pending a .over, b => some (.complete (.quotient a b))
  | .complete _, _ => none

/-- Finished products, with one more. -/
def addProduct : Option Formula → Formula → Formula
  | none, a => a
  | some total, a => .sum total a

/-- An open parenthesis: what it belongs to, the arguments that are finished, and the sum
    and the product that it stands in. -/
structure Frame where
  callee : Callee
  arguments : List Formula
  sum : Option Formula
  product : Product

/-- The place of a reader: the open parentheses, innermost first, and inside of them the
    products that are finished and the one that is not. -/
structure Place where
  frames : List Frame
  sum : Option Formula
  product : Product

namespace Place

def start : Place := ⟨[], none, .empty⟩

def step? : Place → Token → Option Place
  | ⟨frames, sum, product⟩, .operand a =>
    (product.factor? a).map fun product => ⟨frames, sum, product⟩
  | ⟨_, _, .complete _⟩, .opening _ => none
  | ⟨frames, sum, product⟩, .opening callee =>
    some ⟨⟨callee, [], sum, product⟩ :: frames, none, .empty⟩
  | ⟨frames, sum, .complete a⟩, .link l => some ⟨frames, sum, .pending a l⟩
  | ⟨frames, sum, .complete a⟩, .plus => some ⟨frames, some (addProduct sum a), .empty⟩
  | ⟨⟨callee, arguments, sum', product⟩ :: frames, sum, .complete a⟩, .comma =>
    some ⟨⟨callee, arguments ++ [addProduct sum a], sum', product⟩ :: frames, none, .empty⟩
  | ⟨⟨callee, arguments, sum', product⟩ :: frames, sum, .complete a⟩, .closing => do
    let result ← callee.apply? (arguments ++ [addProduct sum a])
    let product ← product.factor? result
    pure ⟨frames, sum', product⟩
  | _, _ => none

/-- The formula that ends at a place. -/
def finish? : Place → Option Formula
  | ⟨[], sum, .complete a⟩ => some (addProduct sum a)
  | _ => none

end Place

/-! ### Reading -/

theorem length_of_after? {word text rest : List Char} (h : after? word text = some rest) :
    text.length = word.length + rest.length := by
  induction word generalizing text with
  | nil =>
    obtain rfl := Option.some.inj h
    simp
  | cons c word ih =>
    cases text with
    | nil => cases h
    | cons d text =>
      rw [after?] at h
      split at h
      · rw [List.length_cons, List.length_cons, ih h]
        omega
      · cases h

theorem length_dropWhile_lt {p : Char → Bool} {text : List Char} (h : text.takeWhile p ≠ []) :
    (text.dropWhile p).length < text.length := by
  have hsplit := congrArg List.length (List.takeWhile_append_dropWhile (p := p) (l := text))
  have hpos := List.length_pos_iff.mpr h
  rw [List.length_append] at hsplit
  omega

theorem length_of_parameter? {text rest : List Char} {t : Token}
    (h : parameter? text = some (t, rest)) : rest.length < text.length := by
  unfold parameter? at h
  split at h
  · cases h
  · rename_i hne
    obtain ⟨-, rfl⟩ := Prod.mk.inj (Option.some.inj h)
    exact length_dropWhile_lt hne

theorem length_of_literal? {text rest : List Char} {t : Token}
    (h : literal? text = some (t, rest)) : rest.length < text.length := by
  obtain ⟨n, hn, heq⟩ := Option.map_eq_some_iff.mp h
  obtain ⟨-, rfl⟩ := Prod.mk.inj heq
  refine length_dropWhile_lt fun hnil => ?_
  rw [hnil] at hn
  cases hn

theorem length_of_access? {field : String} {text rest : List Char} {t : Token}
    (h : access? field text = some (t, rest)) : rest.length ≤ text.length := by
  unfold access? at h
  split at h
  · rename_i hafter
    obtain ⟨-, rfl⟩ := Prod.mk.inj (Option.some.inj h)
    have := length_of_after? hafter
    omega
  · split at h
    · rename_i hafter
      obtain ⟨-, rfl⟩ := Prod.mk.inj (Option.some.inj h)
      have := length_of_after? hafter
      omega
    · obtain ⟨rest', hafter, heq⟩ := Option.map_eq_some_iff.mp h
      obtain ⟨-, rfl⟩ := Prod.mk.inj heq
      have := length_of_after? hafter
      omega

theorem length_of_word? {text rest : List Char} {t : Token} (h : word? text = some (t, rest)) :
    rest.length < text.length := by
  unfold word? at h
  split at h
  · rename_i hafter
    obtain ⟨-, rfl⟩ := Prod.mk.inj (Option.some.inj h)
    have hlength := length_of_after? hafter
    simp at hlength
    omega
  · split at h
    · rename_i hafter
      have := length_of_parameter? h
      have := length_of_after? hafter
      omega
    · split at h
      · rename_i hafter
        obtain ⟨-, rfl⟩ := Prod.mk.inj (Option.some.inj h)
        have hlength := length_of_after? hafter
        simp at hlength
        omega
      · split at h
        · rename_i hafter
          have hfield := (length_of_access? h).trans (List.dropWhile_suffix isTextChar).length_le
          have hlength := length_of_after? hafter
          simp at hlength
          omega
        · exact length_of_literal? h

/-- A token has at least one character. -/
theorem length_of_token? {text rest : List Char} {t : Token} (h : token? text = some (t, rest)) :
    rest.length < text.length := by
  fun_induction token? text with
  | case1 text ih => exact (ih h).trans (Nat.lt_succ_self _)
  | case8 text => exact length_of_word? h
  | _ =>
    obtain ⟨-, rfl⟩ := Prod.mk.inj (Option.some.inj h)
    exact Nat.lt_succ_self _

/-- The formula that is read from a place on.  Blanks may stand behind it. -/
def readFrom (s : Place) (text : List Char) : Option Formula :=
  match _ht : token? text with
  | some (t, rest) =>
    match s.step? t with
    | some s => readFrom s rest
    | none => none
  | none => if text.all (· == ' ') then s.finish? else none
termination_by text.length
decreasing_by exact length_of_token? _ht

def read? (text : List Char) : Option Formula := readFrom .start text

theorem readFrom_eq (s : Place) (text : List Char) :
    readFrom s text =
      match token? text with
      | some (t, rest) =>
        match s.step? t with
        | some s => readFrom s rest
        | none => none
      | none => if text.all (· == ' ') then s.finish? else none := by
  rw [readFrom]
  split
  · rename_i ht
    rw [ht]
  · rename_i ht
    rw [ht]

theorem readFrom_of_token {s s' : Place} {text rest : List Char} {t : Token}
    (ht : token? text = some (t, rest)) (hs : s.step? t = some s') :
    readFrom s text = readFrom s' rest := by
  rw [readFrom_eq, ht]
  simp only [hs]

theorem readFrom_nil (s : Place) : readFrom s [] = s.finish? := readFrom_eq s []

theorem readFrom_blank (s : Place) (text : List Char) :
    readFrom s (' ' :: text) = readFrom s text := by
  have htoken : token? (' ' :: text) = token? text := rfl
  rw [readFrom_eq, htoken, readFrom_eq s text]
  rfl

theorem readFrom_operator {s s' : Place} {c : Char} {t : Token} {text : List Char}
    (ht : token? (' ' :: c :: ' ' :: text) = some (t, ' ' :: text)) (hs : s.step? t = some s') :
    readFrom s (' ' :: c :: ' ' :: text) = readFrom s' text := by
  rw [readFrom_of_token ht hs, readFrom_blank]

/-- The value of a script object, which holds its source and its parameters. -/
def scriptValue? {K : Type} [DivisionRing K] (scene : Scene K) (script : Json) : Option K := do
  let source ← (script.member? "source").bind Json.text?
  let parameters ← script.member? "params"
  let formula ← read? source.toList
  formula.value? scene parameters

end Structured

end Retrieval

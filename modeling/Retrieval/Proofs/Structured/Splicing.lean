/-
  Retrieval/Proofs/Structured/Splicing.lean
  =========================================
  **Texts that can be spliced into a formula.**

  The source of a script is put together from texts without a look at what they are put
  into.  Three predicates say what a text contributes wherever it stands:

    * a *factor* is one operand (`IsFactor`), and can follow `*` as well as `/`;
    * a *product* multiplies what stands before it by its value (`IsProduct`).  It can
      follow `*` and, since `m * a / b` is `m * (a / b)`, need not be in parentheses there;
    * a *sum* fills a parenthesis or an argument (`IsSum`).

  A word or a number goes on as far as its characters do, so all of this holds in front of
  a text that does not continue one (`Ends`).
-/
import Retrieval.Proofs.Structured.Formula

namespace Retrieval.Structured

/-! ### Single tokens -/

/-- No word and no number goes on. -/
def Ends (rest : List Char) : Prop :=
  ∀ c ∈ rest.head?, isNameChar c = false ∧ isLiteralChar c = false

@[simp] theorem ends_nil : Ends [] := by
  simp [Ends]

@[simp] theorem ends_cons_iff {c : Char} {rest : List Char} :
    Ends (c :: rest) ↔ isNameChar c = false ∧ isLiteralChar c = false := by
  simp [Ends]

theorem span_append {p : Char → Bool} (word rest : List Char) (hword : ∀ c ∈ word, p c = true)
    (hrest : ∀ c ∈ rest.head?, p c = false) :
    (word ++ rest).takeWhile p = word ∧ (word ++ rest).dropWhile p = rest := by
  rw [List.takeWhile_append_of_pos hword, List.dropWhile_append_of_pos hword]
  cases rest with
  | nil => simp
  | cons c rest =>
    have hc : p c = false := hrest c rfl
    simp [hc]

theorem isNameChar_of_mem_parameterName {n : Nat} {c : Char} (hc : c ∈ parameterName n) :
    isNameChar c = true := by
  rcases List.mem_cons.mp hc with rfl | hc
  · decide
  · have hdigit : c.isDigit = true := Nat.isDigit_of_mem_toDigits (by decide) (by decide) hc
    simp [isNameChar, Char.isAlphanum, hdigit]

theorem token?_reference (n : Nat) {rest : List Char} (hrest : Ends rest) :
    token? (reference n ++ rest)
      = some (.operand (.parameter (String.ofList (parameterName n))), rest) := by
  obtain ⟨htake, hdrop⟩ := span_append (p := isNameChar) (parameterName n) rest
    (fun c hc => isNameChar_of_mem_parameterName hc) (fun c hc => (hrest c hc).1)
  have hword : token? (reference n ++ rest) = parameter? (parameterName n ++ rest) := by
    rfl
  rw [hword, parameter?, htake, hdrop]
  rfl

theorem literal?_append {word rest : List Char} (hword : ∀ c ∈ word, isLiteralChar c = true)
    (hrest : Ends rest) :
    literal? (word ++ rest) = (decimal? word).map fun n => (.operand (.number n), rest) := by
  obtain ⟨htake, hdrop⟩ := span_append word rest hword fun c hc => (hrest c hc).2
  rw [literal?, htake, hdrop]

/-- A field is named up to the apostrophe. -/
theorem token?_field {field : String} (hfield : field.toList.all isTextChar = true)
    (rest : List Char) :
    token? (fieldSource field ++ rest) = access? field ('\'' :: ']' :: rest) := by
  obtain ⟨htake, hdrop⟩ := span_append (p := isTextChar) field.toList
    ('\'' :: ']' :: rest) (List.all_eq_true.mp hfield) (by simp [isTextChar])
  have hsource : fieldSource field ++ rest
      = "doc['".toList ++ (field.toList ++ '\'' :: ']' :: rest) := by
    unfold fieldSource
    simp
  have hword : token? ("doc['".toList ++ (field.toList ++ '\'' :: ']' :: rest))
      = access? (String.ofList ((field.toList ++ '\'' :: ']' :: rest).takeWhile isTextChar))
          ((field.toList ++ '\'' :: ']' :: rest).dropWhile isTextChar) := by
    rfl
  rw [hsource, hword, htake, hdrop, String.ofList_toList]

/-! ### Factors -/

/-- The text is read as one operand. -/
def IsFactor (text : List Char) (a : Formula) : Prop :=
  ∀ frames sum product product' rest, product.factor? a = some product' → Ends rest →
    readFrom ⟨frames, sum, product⟩ (text ++ rest) = readFrom ⟨frames, sum, product'⟩ rest

theorem isFactor_of_token {text : List Char} {a : Formula}
    (h : ∀ rest, Ends rest → token? (text ++ rest) = some (.operand a, rest)) :
    IsFactor text a := by
  intro frames sum product product' rest hproduct hrest
  refine readFrom_of_token (h rest hrest) ?_
  rw [Place.step?, hproduct]
  rfl

theorem isFactor_reference (n : Nat) :
    IsFactor (reference n) (.parameter (String.ofList (parameterName n))) :=
  isFactor_of_token fun _ hrest => token?_reference n hrest

theorem isFactor_score : IsFactor "_score".toList .score :=
  isFactor_of_token fun _ _ => rfl

theorem isFactor_fieldValue {field : String} (hfield : field.toList.all isTextChar = true) :
    IsFactor (fieldSource field ++ ".value".toList) (.field field) := by
  refine isFactor_of_token fun rest _ => ?_
  rw [List.append_assoc, token?_field hfield]
  rfl

theorem isFactor_number {text : List Char} {n : ℚ} (hchars : text.all isLiteralChar = true)
    (hvalue : decimal? text = some n)
    (htoken : ∀ rest, token? (text ++ rest) = literal? (text ++ rest)) :
    IsFactor text (.number n) := by
  refine isFactor_of_token fun rest hrest => ?_
  rw [htoken, literal?_append (List.all_eq_true.mp hchars) hrest, hvalue]
  rfl

/-- The numerals that stand in a source whatever the functions are. -/
theorem decimal?_constants :
    decimal? "1.0".toList = some 1 ∧ decimal? "2".toList = some 2 ∧
      decimal? "1000.0".toList = some 1000 := by
  decide +kernel

theorem isFactor_one : IsFactor "1.0".toList (.number 1) :=
  isFactor_number (by decide) decimal?_constants.1 fun _ => rfl

theorem isFactor_two : IsFactor "2".toList (.number 2) :=
  isFactor_number (by decide) decimal?_constants.2.1 fun _ => rfl

theorem isFactor_thousand : IsFactor "1000.0".toList (.number 1000) :=
  isFactor_number (by decide) decimal?_constants.2.2 fun _ => rfl

/-! ### Sums -/

/-- The text fills a parenthesis or an argument. -/
def IsSum (text : List Char) (a : Formula) : Prop :=
  ∃ sum b, addProduct sum b = a ∧ ∀ frames rest, Ends rest →
    readFrom ⟨frames, none, .empty⟩ (text ++ rest) = readFrom ⟨frames, sum, .complete b⟩ rest

theorem IsSum.read {text : List Char} {a : Formula} (h : IsSum text a) :
    read? text = some a := by
  obtain ⟨sum, b, rfl, hread⟩ := h
  have hend := hread [] [] ends_nil
  rw [List.append_nil, readFrom_nil] at hend
  exact hend

theorem IsFactor.isSum {text : List Char} {a : Formula} (h : IsFactor text a) : IsSum text a :=
  ⟨none, a, rfl, fun frames rest hrest => h frames none .empty _ rest rfl hrest⟩

theorem step?_opening {product product' : Product} {a : Formula}
    (h : product.factor? a = some product') (frames : List Frame) (sum : Option Formula)
    (callee : Callee) :
    Place.step? ⟨frames, sum, product⟩ (.opening callee)
      = some ⟨⟨callee, [], sum, product⟩ :: frames, none, .empty⟩ := by
  cases product with
  | complete b => cases h
  | _ => rfl

theorem step?_closing {callee : Callee} {arguments : List Formula} {total : Option Formula}
    {b a : Formula} {product product' : Product}
    (hresult : callee.apply? (arguments ++ [addProduct total b]) = some a)
    (hproduct : product.factor? a = some product') (frames : List Frame) (sum : Option Formula) :
    Place.step? ⟨⟨callee, arguments, sum, product⟩ :: frames, total, .complete b⟩ .closing
      = some ⟨frames, sum, product'⟩ := by
  simp [Place.step?, hresult, hproduct]

section Calls

variable {first second : List Char} {a b result : Formula}

theorem IsSum.call (h : IsSum first a) (opening : List Char) (callee : Callee)
    (hopening : ∀ rest, token? (opening ++ rest) = some (.opening callee, rest))
    (hresult : callee.apply? [a] = some result) :
    IsFactor (opening ++ first ++ [')']) result := by
  obtain ⟨total, last, rfl, hfirst⟩ := h
  intro frames sum product product' rest hproduct hrest
  have hends : Ends (')' :: rest) := ends_cons_iff.mpr (by decide)
  calc readFrom ⟨frames, sum, product⟩ (opening ++ first ++ [')'] ++ rest)
      = readFrom ⟨frames, sum, product⟩ (opening ++ (first ++ ')' :: rest)) := by simp
    _ = readFrom ⟨⟨callee, [], sum, product⟩ :: frames, none, .empty⟩ (first ++ ')' :: rest) :=
        readFrom_of_token (hopening _) (step?_opening hproduct ..)
    _ = readFrom ⟨⟨callee, [], sum, product⟩ :: frames, total, .complete last⟩ (')' :: rest) :=
        hfirst _ _ hends
    _ = readFrom ⟨frames, sum, product'⟩ rest :=
        readFrom_of_token rfl (step?_closing hresult hproduct ..)

theorem IsSum.call₂ (h : IsSum first a) (h' : IsSum second b) (opening : List Char)
    (callee : Callee)
    (hopening : ∀ rest, token? (opening ++ rest) = some (.opening callee, rest))
    (hresult : callee.apply? [a, b] = some result) :
    IsFactor (opening ++ first ++ ", ".toList ++ second ++ [')']) result := by
  obtain ⟨total, last, rfl, hfirst⟩ := h
  obtain ⟨total', last', rfl, hsecond⟩ := h'
  intro frames sum product product' rest hproduct hrest
  have hends : Ends (')' :: rest) := ends_cons_iff.mpr (by decide)
  have hends' : Ends (',' :: ' ' :: (second ++ ')' :: rest)) := ends_cons_iff.mpr (by decide)
  calc readFrom ⟨frames, sum, product⟩ (opening ++ first ++ ", ".toList ++ second ++ [')'] ++ rest)
      = readFrom ⟨frames, sum, product⟩
          (opening ++ (first ++ ',' :: ' ' :: (second ++ ')' :: rest))) := by simp
    _ = readFrom ⟨⟨callee, [], sum, product⟩ :: frames, none, .empty⟩
          (first ++ ',' :: ' ' :: (second ++ ')' :: rest)) :=
        readFrom_of_token (hopening _) (step?_opening hproduct ..)
    _ = readFrom ⟨⟨callee, [], sum, product⟩ :: frames, total, .complete last⟩
          (',' :: ' ' :: (second ++ ')' :: rest)) := hfirst _ _ hends'
    _ = readFrom ⟨⟨callee, [addProduct total last], sum, product⟩ :: frames, none, .empty⟩
          (' ' :: (second ++ ')' :: rest)) := readFrom_of_token rfl rfl
    _ = readFrom ⟨⟨callee, [addProduct total last], sum, product⟩ :: frames, none, .empty⟩
          (second ++ ')' :: rest) := readFrom_blank ..
    _ = readFrom ⟨⟨callee, [addProduct total last], sum, product⟩ :: frames, total',
          .complete last'⟩ (')' :: rest) := hsecond _ _ hends
    _ = readFrom ⟨frames, sum, product'⟩ rest :=
        readFrom_of_token rfl (step?_closing hresult hproduct ..)

theorem IsSum.parenthesized (h : IsSum first a) : IsFactor (parenthesized first) a :=
  h.call ['('] .group (fun _ => rfl) rfl

end Calls

/-! ### Products -/

section Value

variable {K : Type} [DivisionRing K] (scene : Scene K) (parameters : Json)

attribute [local simp] Formula.value?

/-- What the next factor is multiplied by, unless it divides. -/
def Product.multiplier? : Product → Option K
  | .empty => some 1
  | .pending a .times => a.value? scene parameters
  | _ => none

/-- The text multiplies what stands before it by a number. -/
def IsProduct (text : List Char) (v : K) : Prop :=
  ∀ product m, Product.multiplier? scene parameters product = some m →
    ∃ a, a.value? scene parameters = some (m * v) ∧ ∀ frames sum rest, Ends rest →
      readFrom ⟨frames, sum, product⟩ (text ++ rest) = readFrom ⟨frames, sum, .complete a⟩ rest

/-- The text is a formula with a value. -/
def IsTotal (text : List Char) (v : K) : Prop :=
  ∃ a, IsSum text a ∧ a.value? scene parameters = some v

variable {scene parameters} {s t : List Char} {u v : K}

theorem IsFactor.isProduct {a : Formula} (h : IsFactor s a)
    (ha : a.value? scene parameters = some v) : IsProduct scene parameters s v := by
  intro product m hm
  match product, hm with
  | .empty, hm =>
    obtain rfl := Option.some.inj hm
    refine ⟨a, by rw [ha, one_mul], fun frames sum rest hrest => ?_⟩
    exact h frames sum _ _ rest rfl hrest
  | .pending b .times, hm =>
    have hb : b.value? scene parameters = some m := hm
    refine ⟨.product b a, by simp [hb, ha], fun frames sum rest hrest => ?_⟩
    exact h frames sum _ _ rest rfl hrest

theorem IsProduct.isTotal (h : IsProduct scene parameters s v) : IsTotal scene parameters s v := by
  obtain ⟨a, ha, hread⟩ := h .empty 1 rfl
  rw [one_mul] at ha
  exact ⟨a, ⟨none, a, rfl, fun frames rest hrest => hread frames none rest hrest⟩, ha⟩

theorem IsProduct.times (hs : IsProduct scene parameters s u)
    (ht : IsProduct scene parameters t v) :
    IsProduct scene parameters (s ++ " * ".toList ++ t) (u * v) := by
  intro product m hm
  obtain ⟨a, ha, hreads⟩ := hs product m hm
  obtain ⟨b, hb, hreadt⟩ := ht (.pending a .times) (m * u) ha
  refine ⟨b, by rw [hb, mul_assoc], fun frames sum rest hrest => ?_⟩
  have hends : Ends (' ' :: '*' :: ' ' :: (t ++ rest)) := ends_cons_iff.mpr (by decide)
  calc readFrom ⟨frames, sum, product⟩ (s ++ " * ".toList ++ t ++ rest)
      = readFrom ⟨frames, sum, product⟩ (s ++ ' ' :: '*' :: ' ' :: (t ++ rest)) := by simp
    _ = readFrom ⟨frames, sum, .complete a⟩ (' ' :: '*' :: ' ' :: (t ++ rest)) :=
        hreads _ _ _ hends
    _ = readFrom ⟨frames, sum, .pending a .times⟩ (t ++ rest) := readFrom_operator rfl rfl
    _ = readFrom ⟨frames, sum, .complete b⟩ rest := hreadt _ _ _ hrest

/-- A quotient need not be in parentheses to be multiplied. -/
theorem IsProduct.over (hs : IsProduct scene parameters s u) {b : Formula} (ht : IsFactor t b)
    (hb : b.value? scene parameters = some v) :
    IsProduct scene parameters (s ++ " / ".toList ++ t) (u / v) := by
  intro product m hm
  obtain ⟨a, ha, hreads⟩ := hs product m hm
  refine ⟨.quotient a b, ?_, fun frames sum rest hrest => ?_⟩
  · simp [ha, hb, mul_div_assoc]
  have hends : Ends (' ' :: '/' :: ' ' :: (t ++ rest)) := ends_cons_iff.mpr (by decide)
  calc readFrom ⟨frames, sum, product⟩ (s ++ " / ".toList ++ t ++ rest)
      = readFrom ⟨frames, sum, product⟩ (s ++ ' ' :: '/' :: ' ' :: (t ++ rest)) := by simp
    _ = readFrom ⟨frames, sum, .complete a⟩ (' ' :: '/' :: ' ' :: (t ++ rest)) :=
        hreads _ _ _ hends
    _ = readFrom ⟨frames, sum, .pending a .over⟩ (t ++ rest) := readFrom_operator rfl rfl
    _ = readFrom ⟨frames, sum, .complete (.quotient a b)⟩ rest := ht _ _ _ _ _ rfl hrest

theorem IsTotal.plus (hs : IsTotal scene parameters s u) (ht : IsProduct scene parameters t v) :
    IsTotal scene parameters (s ++ " + ".toList ++ t) (u + v) := by
  obtain ⟨_, ⟨total, last, rfl, hreads⟩, ha⟩ := hs
  obtain ⟨b, hb, hreadt⟩ := ht .empty 1 rfl
  rw [one_mul] at hb
  refine ⟨_, ⟨some (addProduct total last), b, rfl, fun frames rest hrest => ?_⟩, ?_⟩
  · have hends : Ends (' ' :: '+' :: ' ' :: (t ++ rest)) := ends_cons_iff.mpr (by decide)
    calc readFrom ⟨frames, none, .empty⟩ (s ++ " + ".toList ++ t ++ rest)
        = readFrom ⟨frames, none, .empty⟩ (s ++ ' ' :: '+' :: ' ' :: (t ++ rest)) := by simp
      _ = readFrom ⟨frames, total, .complete last⟩ (' ' :: '+' :: ' ' :: (t ++ rest)) :=
          hreads _ _ hends
      _ = readFrom ⟨frames, some (addProduct total last), .empty⟩ (t ++ rest) :=
          readFrom_operator rfl rfl
      _ = readFrom ⟨frames, some (addProduct total last), .complete b⟩ rest :=
          hreadt _ _ _ hrest
  · change (Formula.sum (addProduct total last) b).value? scene parameters = some (u + v)
    simp [ha, hb]

theorem IsTotal.parenthesized (h : IsTotal scene parameters s v) :
    IsProduct scene parameters (parenthesized s) v := by
  obtain ⟨a, hsum, ha⟩ := h
  exact hsum.parenthesized.isProduct ha

/-! ### Distances -/

theorem IsTotal.arcDistance (hs : IsTotal scene parameters s u) (ht : IsTotal scene parameters t v)
    {field : String} (hfield : field.toList.all isTextChar = true) :
    IsProduct scene parameters
      (fieldSource field ++ ".arcDistance(".toList ++ s ++ ", ".toList ++ t ++ [')'])
      (scene.arcDistance field u v) := by
  obtain ⟨a, hs, ha⟩ := hs
  obtain ⟨b, ht, hb⟩ := ht
  have hcall := hs.call₂ ht (fieldSource field ++ ".arcDistance(".toList) (.arcDistance field)
    (fun rest => by rw [List.append_assoc, token?_field hfield]; rfl) rfl
  exact hcall.isProduct (by simp [ha, hb])

theorem IsTotal.planeDistance (hs : IsTotal scene parameters s u)
    (ht : IsTotal scene parameters t v) {field : String}
    (hfield : field.toList.all isTextChar = true) :
    IsProduct scene parameters
      (fieldSource field ++ ".planeDistance(".toList ++ s ++ ", ".toList ++ t ++ [')'])
      (scene.planeDistance field u v) := by
  obtain ⟨a, hs, ha⟩ := hs
  obtain ⟨b, ht, hb⟩ := ht
  have hcall := hs.call₂ ht (fieldSource field ++ ".planeDistance(".toList) (.planeDistance field)
    (fun rest => by rw [List.append_assoc, token?_field hfield]; rfl) rfl
  exact hcall.isProduct (by simp [ha, hb])

theorem IsTotal.squared (h : IsTotal scene parameters s v) :
    IsProduct scene parameters ("Math.pow(".toList ++ s ++ ", ".toList ++ "2".toList ++ [')'])
      (v ^ 2) := by
  obtain ⟨a, hs, ha⟩ := h
  have hcall := hs.call₂ isFactor_two.isSum "Math.pow(".toList .power (fun _ => rfl) rfl
  exact hcall.isProduct (by simp [ha])

/-- From meters to kilometers. -/
theorem IsProduct.overThousand (h : IsProduct scene parameters s v) :
    IsProduct scene parameters (s ++ " / ".toList ++ "1000.0".toList) (v / 1000) :=
  h.over isFactor_thousand (by simp)

end Value

end Retrieval.Structured

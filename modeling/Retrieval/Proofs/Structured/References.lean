/-
  Retrieval/Proofs/Structured/References.lean
  ===========================================
  **What a source refers to.**

  The names that stand behind `params.` in a text can be read off without a look at its
  structure (`referredNames`).  In a source they are the names of the parameters that are bound
  for it, each of them once and in the order of binding (`referredNames_functionSource`).

  A source is put together from references, fields and fixed texts.  The fixed texts begin and
  end with characters that no reference has in it, so no reference comes about where two
  parts meet, and a source refers to what its parts refer to (`referredNames_between`).  Only a
  field is copied as it is and might bring in a reference of its own.
-/
import Retrieval.Proofs.Dict
import Retrieval.Proofs.Structured.Scoring

namespace Retrieval

/-! ### The numbers of a function -/

namespace Query

/-- The numbers of a scoring function, in the order in which they are bound. -/
def numbers : Query → List Scalar
  | .distance _ lat lng _ => [lat, lng]
  | .reciprocal q x y z => y :: x :: (numbers q ++ [z])
  | .group q => numbers q
  | _ => []

/-- The fields that a scoring function reads. -/
def fieldsRead : Query → List String
  | .distance field _ _ _ => [field]
  | .reciprocal q _ _ _ => fieldsRead q
  | .fieldValue field => [field]
  | .group q => fieldsRead q
  | _ => []

end Query

/-- The weight of a function is bound before the function. -/
def BoostFunction.numbers (f : BoostFunction) : List Scalar := f.weight :: f.function.numbers

namespace Structured

/-! ### The parameters that a source refers to -/

/-- The name that a text refers to with its first characters. -/
def nameAhead? (text : List Char) : Option String :=
  (after? "params.".toList text).map fun rest => String.ofList (rest.takeWhile isNameChar)

/-- The names that a text refers to, from the left to the right. -/
def referredNames : List Char → List String
  | [] => []
  | c :: rest => (nameAhead? (c :: rest)).toList ++ referredNames rest

/-- The names of so many parameters, from the given number on. -/
def parameterNames (first count : Nat) : List String :=
  (List.range' first count).map fun n => String.ofList (parameterName n)

/-- The character is in no reference. -/
def isSeparator (c : Char) : Bool := !isNameChar c && c != '.'

theorem after?_append_cons {word : List Char} {c : Char} (hc : c ∉ word) (s t : List Char) :
    after? word (s ++ c :: t) = (after? word s).map fun rest => rest ++ c :: t := by
  induction word generalizing s with
  | nil => rfl
  | cons d word ih =>
    obtain ⟨hcd, hword⟩ := not_or.mp (mt List.mem_cons.mpr hc)
    cases s with
    | nil => simp [after?, Ne.symm hcd]
    | cons e s =>
      rw [List.cons_append, after?, after?]
      by_cases he : d = e
      · rw [if_pos he, if_pos he]
        exact ih hword s
      · rw [if_neg he, if_neg he]
        rfl

theorem prefix_of_after? {word text rest : List Char} (h : after? word text = some rest) :
    word <+: text := by
  induction word generalizing text with
  | nil => exact List.nil_prefix
  | cons c word ih =>
    cases text with
    | nil => cases h
    | cons d text =>
      rw [after?] at h
      by_cases hcd : c = d
      · rw [if_pos hcd] at h
        exact List.cons_prefix_cons.mpr ⟨hcd, ih h⟩
      · rw [if_neg hcd] at h
        cases h

section Separators

variable {c : Char} (hc : isSeparator c = true)
include hc

theorem nameAhead?_append_cons (s t : List Char) : nameAhead? (s ++ c :: t) = nameAhead? s := by
  have hname : isNameChar c = false := by
    rw [isSeparator, Bool.and_eq_true, Bool.not_eq_true'] at hc
    exact hc.1
  have hword : c ∉ "params.".toList := by
    have hnone : "params.".toList.any isSeparator = false := by decide
    intro hmem
    exact List.any_eq_false.mp hnone c hmem hc
  have hend (rest : List Char) :
      (rest ++ c :: t).takeWhile isNameChar = rest.takeWhile isNameChar := by
    induction rest with
    | nil => simp [hname]
    | cons d rest ih => simp only [List.cons_append, List.takeWhile_cons, ih]
  unfold nameAhead?
  rw [after?_append_cons hword, Option.map_map]
  congr 1
  funext rest
  exact congrArg String.ofList (hend rest)

theorem referredNames_append_cons (s t : List Char) :
    referredNames (s ++ c :: t) = referredNames s ++ referredNames t := by
  induction s with
  | nil =>
    have hnone : nameAhead? (c :: t) = none := nameAhead?_append_cons hc [] t
    change (nameAhead? (c :: t)).toList ++ referredNames t = referredNames t
    rw [hnone]
    rfl
  | cons d s ih =>
    have hahead : nameAhead? (d :: (s ++ c :: t)) = nameAhead? (d :: s) :=
      nameAhead?_append_cons hc (d :: s) t
    rw [List.cons_append, referredNames, referredNames, hahead, ih, List.append_assoc]

end Separators

theorem referredNames_append_of_last {s : List Char} (h : s.getLast?.any isSeparator = true)
    (t : List Char) : referredNames (s ++ t) = referredNames s ++ referredNames t := by
  obtain ⟨c, hlast, hc⟩ := (Option.any_eq_true _ _).mp h
  obtain ⟨front, rfl⟩ := List.getLast?_eq_some_iff.mp hlast
  have hend := (referredNames_append_cons hc front []).trans (List.append_nil _)
  rw [hend, List.append_assoc]
  exact referredNames_append_cons hc front t

/-- The text refers to nothing and ends with a separator. -/
def opens (text : List Char) : Bool :=
  text.getLast?.any isSeparator && (referredNames text).isEmpty

/-- The text refers to nothing and begins with a separator. -/
def closes (text : List Char) : Bool :=
  text.head?.any isSeparator && (referredNames text).isEmpty

theorem referredNames_opening {text : List Char} (h : opens text = true) (t : List Char) :
    referredNames (text ++ t) = referredNames t := by
  rw [opens, Bool.and_eq_true, List.isEmpty_iff] at h
  rw [referredNames_append_of_last h.1, h.2, List.nil_append]

theorem referredNames_closing {text : List Char} (h : closes text = true) (s : List Char) :
    referredNames (s ++ text) = referredNames s := by
  rw [closes, Bool.and_eq_true, List.isEmpty_iff] at h
  obtain ⟨c, hfirst, hc⟩ := (Option.any_eq_true _ _).mp h.1
  obtain ⟨rest, rfl⟩ := List.head?_eq_some_iff.mp hfirst
  have hrest : referredNames rest = [] := (List.append_eq_nil_iff.mp h.2).2
  rw [referredNames_append_cons hc, hrest, List.append_nil]

theorem referredNames_between {text : List Char} (hopens : opens text = true)
    (hcloses : closes text = true) (s t : List Char) :
    referredNames (s ++ text ++ t) = referredNames s ++ referredNames t := by
  have hlast : (s ++ text).getLast?.any isSeparator = true := by
    rw [opens, Bool.and_eq_true] at hopens
    obtain ⟨c, hlast, hc⟩ := (Option.any_eq_true _ _).mp hopens.1
    rw [List.getLast?_append, hlast]
    exact hc
  rw [referredNames_append_of_last hlast, referredNames_closing hcloses]

theorem referredNames_of_not_infix {text : List Char} (h : ¬ "params.".toList <:+: text) :
    referredNames text = [] := by
  induction text with
  | nil => rfl
  | cons c text ih =>
    have hrest : ¬ "params.".toList <:+: text := by
      intro hinfix
      exact h (List.infix_cons hinfix)
    have hahead : nameAhead? (c :: text) = none := by
      rw [nameAhead?, Option.map_eq_none_iff, Option.eq_none_iff_forall_ne_some]
      intro rest hafter
      exact h (prefix_of_after? hafter).isInfix
    rw [referredNames, hahead, ih hrest]
    rfl

theorem not_infix_parameterName (n : Nat) : ¬ "params.".toList <:+: parameterName n := by
  intro h
  have hdot : isNameChar '.' = true := isNameChar_of_mem_parameterName (h.subset (by decide))
  revert hdot
  decide

theorem referredNames_reference (n : Nat) :
    referredNames (reference n) = [String.ofList (parameterName n)] := by
  have htake : (parameterName n).takeWhile isNameChar = parameterName n := by
    have hspan := span_append (p := isNameChar) (parameterName n) []
      (fun c hc => isNameChar_of_mem_parameterName hc) (by simp)
    rw [List.append_nil] at hspan
    exact hspan.1
  have hreference : referredNames (reference n)
      = String.ofList ((parameterName n).takeWhile isNameChar)
        :: referredNames (parameterName n) := by
    rfl
  rw [hreference, htake, referredNames_of_not_infix (not_infix_parameterName n)]

/-! ### The names in a source -/

/-- The field can be copied without a reference coming in. -/
def IsPlainField (field : String) : Prop := ¬ "params.".toList <:+: field.toList

instance (field : String) : Decidable (IsPlainField field) :=
  inferInstanceAs (Decidable (¬ _))

theorem referredNames_fieldValue {field : String} (hfield : IsPlainField field) :
    referredNames (fieldSource field ++ ".value".toList) = [] := by
  unfold fieldSource
  rw [List.append_assoc, List.append_assoc, referredNames_opening (by decide),
    ← List.append_assoc, referredNames_between (by decide) (by decide),
    referredNames_of_not_infix hfield]
  rfl

theorem referredNames_call {field : String} (hfield : IsPlainField field) {method : List Char}
    (hopens : opens ("']".toList ++ method) = true)
    (hcloses : closes ("']".toList ++ method) = true) (t : List Char) :
    referredNames (fieldSource field ++ method ++ t) = referredNames t := by
  unfold fieldSource
  rw [List.append_assoc, List.append_assoc, List.append_assoc, referredNames_opening (by decide),
    ← List.append_assoc _ method, ← List.append_assoc,
      referredNames_between hopens hcloses, referredNames_of_not_infix hfield, List.nil_append]

theorem referredNames_distanceSource {field : String} (hfield : IsPlainField field)
    (shape : DistanceShape) (lat lng : List Char) :
    referredNames (distanceSource field shape lat lng)
      = referredNames lat ++ referredNames lng := by
  cases shape with
  | arc =>
    change referredNames ("(".toList ++ (fieldSource field ++ ".arcDistance(".toList ++ lat
      ++ ", ".toList ++ lng ++ ") / 1000.0)".toList)) = _
    rw [referredNames_opening (by decide), referredNames_closing (by decide),
      referredNames_between (by decide) (by decide),
      referredNames_call hfield (by decide) (by decide)]
  | square =>
    change referredNames ("Math.pow(".toList ++ fieldSource field ++ ".planeDistance(".toList
      ++ lat ++ ", ".toList ++ lng ++ ") / 1000.0, 2)".toList) = _
    rw [referredNames_closing (by decide), referredNames_between (by decide) (by decide),
      List.append_assoc, List.append_assoc, referredNames_opening (by decide),
      ← List.append_assoc, referredNames_call hfield (by decide) (by decide)]

theorem referredNames_reciprocalSource (inner x y z : List Char) :
    referredNames (reciprocalSource inner x y z)
      = referredNames y ++ referredNames x ++ referredNames inner ++ referredNames z := by
  unfold reciprocalSource
  rw [referredNames_closing (by decide), referredNames_between (by decide) (by decide),
    referredNames_between (by decide) (by decide), referredNames_between (by decide) (by decide)]

theorem referredNames_parenthesized (source : List Char) :
    referredNames (parenthesized source) = referredNames source := by
  change referredNames ("(".toList ++ (source ++ [')'])) = _
  rw [referredNames_opening (by decide), referredNames_closing (by decide)]

theorem referredNames_joined (terms : List (List Char)) :
    referredNames (Text.joined " + ".toList terms) = terms.flatMap referredNames := by
  induction terms with
  | nil => rfl
  | cons term terms ih =>
    cases terms with
    | nil => simp [Text.joined]
    | cons second terms =>
      change referredNames (term ++ " + ".toList ++ Text.joined " + ".toList (second :: terms)) = _
      rw [referredNames_between (by decide) (by decide), ih]
      rfl

/-! ### The order of the parameters -/

theorem parameterNames_append (first m n : Nat) :
    parameterNames first m ++ parameterNames (first + m) n = parameterNames first (m + n) := by
  rw [parameterNames, parameterNames, ← List.map_append, List.range'_append_1]
  rfl

theorem bound_functionSource {q : Query} {bound bound' : List Scalar} {source : List Char}
    (h : functionSource bound q = (.ok source, bound')) : bound' = bound ++ q.numbers := by
  induction q generalizing bound bound' source with
  | distance field lat lng shape => exact (Prod.mk.inj h).2.symm
  | reciprocal q x y z ih =>
    obtain ⟨inner, inner', hinner, -, rfl⟩ := functionSource_reciprocal_eq_ok_iff.mp h
    rw [ih hinner, Query.numbers]
    simp only [List.append_assoc, List.cons_append, List.nil_append]
  | fieldValue field =>
    obtain ⟨-, rfl⟩ := Prod.mk.inj h
    exact (List.append_nil bound).symm
  | group q ih =>
    obtain ⟨inner, hinner, -⟩ := functionSource_group_eq_ok_iff.mp h
    exact ih hinner
  | _ => cases h

/-- A function refers to the parameters that are bound for it, from the left to the right. -/
theorem referredNames_functionSource {q : Query} {bound bound' : List Scalar}
    {source : List Char} (h : functionSource bound q = (.ok source, bound'))
    (hfields : ∀ field ∈ q.fieldsRead, IsPlainField field) :
    referredNames source = parameterNames (bound.length + 1) q.numbers.length := by
  induction q generalizing bound bound' source with
  | distance field lat lng shape =>
    obtain ⟨hsource, -⟩ := Prod.mk.inj h
    obtain rfl := Except.ok.inj hsource
    rw [referredNames_distanceSource (hfields field (List.mem_singleton_self field)),
      referredNames_reference, referredNames_reference]
    rfl
  | reciprocal q x y z ih =>
    obtain ⟨inner, inner', hinner, rfl, -⟩ := functionSource_reciprocal_eq_ok_iff.mp h
    have hnames : referredNames inner
        = parameterNames (bound.length + 1 + 2) q.numbers.length := by
      have hinner := ih hinner hfields
      rw [List.length_append] at hinner
      exact hinner
    have hlast : inner'.length + 1 = bound.length + 1 + (2 + q.numbers.length) := by
      rw [bound_functionSource hinner, List.length_append, List.length_append]
      simp only [List.length_cons, List.length_nil]
      omega
    have hlength : (Query.reciprocal q x y z).numbers.length = 2 + q.numbers.length + 1 := by
      simp only [Query.numbers, List.length_cons, List.length_append, List.length_nil]
      omega
    -- The dividend and the factor are bound before the inner function, the rest after it.
    rw [referredNames_reciprocalSource, referredNames_reference, referredNames_reference,
      referredNames_reference, hnames, hlast, hlength, ← parameterNames_append,
      ← parameterNames_append]
    rfl
  | fieldValue field =>
    obtain ⟨hsource, -⟩ := Prod.mk.inj h
    obtain rfl := Except.ok.inj hsource
    exact referredNames_fieldValue (hfields field (List.mem_singleton_self field))
  | group q ih =>
    obtain ⟨inner, hinner, rfl⟩ := functionSource_group_eq_ok_iff.mp h
    rw [referredNames_parenthesized]
    exact ih hinner hfields
  | _ => cases h

theorem bound_summands {functions : List BoostFunction} {bound bound' : List Scalar}
    {terms : List (List Char)} (h : Script.summands bound functions = .ok (terms, bound')) :
    bound' = bound ++ functions.flatMap BoostFunction.numbers := by
  induction functions generalizing bound terms with
  | nil =>
    obtain ⟨-, rfl⟩ := Prod.mk.inj (Except.ok.inj h)
    rw [List.flatMap_nil, List.append_nil]
  | cons f functions ih =>
    obtain ⟨body, inner, others, hbody, hothers, -⟩ := summands_cons_eq_ok_iff.mp h
    rw [ih hothers, bound_functionSource hbody, List.flatMap_cons, BoostFunction.numbers]
    simp only [List.append_assoc, List.cons_append, List.nil_append]

theorem referredNames_summands {functions : List BoostFunction} {bound bound' : List Scalar}
    {terms : List (List Char)} (h : Script.summands bound functions = .ok (terms, bound'))
    (hfields : ∀ f ∈ functions, ∀ field ∈ f.function.fieldsRead, IsPlainField field) :
    terms.flatMap referredNames
      = parameterNames (bound.length + 1) (functions.flatMap BoostFunction.numbers).length := by
  induction functions generalizing bound terms with
  | nil =>
    obtain ⟨rfl, -⟩ := Prod.mk.inj (Except.ok.inj h)
    rfl
  | cons f functions ih =>
    obtain ⟨hf, hfunctions⟩ := List.forall_mem_cons.mp hfields
    obtain ⟨body, inner, others, hbody, hothers, rfl⟩ := summands_cons_eq_ok_iff.mp h
    have hnames : referredNames body
        = parameterNames (bound.length + 1 + 1) f.function.numbers.length := by
      have hbody := referredNames_functionSource hbody hf
      rw [List.length_append] at hbody
      exact hbody
    have hinner : inner.length + 1 = bound.length + 1 + f.numbers.length := by
      rw [bound_functionSource hbody, List.length_append, List.length_append,
        BoostFunction.numbers]
      simp only [List.length_cons, List.length_nil]
      omega
    rw [List.flatMap_cons, referredNames_between (by decide) (by decide),
      referredNames_parenthesized, referredNames_reference, hnames, ih hothers hfunctions, hinner,
      List.flatMap_cons, List.length_append, ← parameterNames_append]
    rfl

/-! ### The parameters of a script -/

theorem keys_parameterMembers (first : Nat) (bound : List Scalar) :
    (parameterMembers first bound).map Prod.fst = parameterNames first bound.length := by
  induction bound generalizing first with
  | nil => rfl
  | cons x bound ih =>
    rw [parameterMembers, List.map_cons, ih]
    rfl

theorem nodup_parameterNames (first count : Nat) : (parameterNames first count).Nodup := by
  refine List.Nodup.map ?_ List.nodup_range'
  intro m n h
  exact parameterName_injective (String.ofList_injective h)

/-- The parameters of a script are numbered from one on and hold the numbers in their order.
    Where the fields are plain, its source refers to each of them once, in the same order. -/
structure Parametrizes (script : Json) (fields : List String) (numbers : List Scalar) :
    Prop where
  refers : ∃ source, script.member? "source" = some (.string source) ∧
    ((∀ field ∈ fields, IsPlainField field) →
      referredNames source.toList = parameterNames 1 numbers.length)
  holds : ∃ members, script.member? "params" = some (.object members) ∧
    (members.map Prod.fst).Perm (parameterNames 1 numbers.length) ∧
    ∀ k x, numbers[k]? = some x → x.isFinite = true →
      Dict.get? members (String.ofList (parameterName (k + 1))) = some (.number (.real x))

theorem parametrizes_toJson {script : Script} {fields : List String} {numbers : List Scalar}
    (hbound : script.bound = numbers)
    (hsource : (∀ field ∈ fields, IsPlainField field) →
      referredNames script.source = parameterNames 1 numbers.length) :
    Parametrizes script.toJson fields numbers := by
  subst hbound
  have hkeys := keys_parameterMembers 1 script.bound
  constructor
  · refine ⟨String.ofList script.source, member?_source script, ?_⟩
    rw [String.toList_ofList]
    exact hsource
  · refine ⟨Dict.ofEntries (parameterMembers 1 script.bound), member?_params script, ?_, ?_⟩
    · have hnodup : ((parameterMembers 1 script.bound).map Prod.fst).Nodup := by
        rw [hkeys]
        exact nodup_parameterNames 1 script.bound.length
      rw [← hkeys]
      exact (Dict.ofEntries_perm hnodup).map Prod.fst
    · intro k x hk hx
      obtain ⟨hlt, rfl⟩ := List.getElem?_eq_some_iff.mp hk
      have hsplit : script.bound
          = script.bound.take k ++ script.bound[k] :: script.bound.drop (k + 1) := by
        rw [List.getElem_cons_drop, List.take_append_drop]
      have hmember := get?_parameterMembers 1 (script.bound.take k) script.bound[k]
        (script.bound.drop (k + 1)) []
      rw [← hsplit, List.length_take_of_le hlt.le, Json.ofScalar, if_pos hx, Nat.add_comm 1]
        at hmember
      exact hmember

theorem parametrizes_ofFunction {q : Query} {script : Script}
    (h : Script.ofFunction q = .ok script) :
    Parametrizes script.toJson q.fieldsRead q.numbers := by
  unfold Script.ofFunction at h
  split at h
  · rename_i source bound hsource
    obtain rfl := Except.ok.inj h
    exact parametrizes_toJson (bound_functionSource hsource) (referredNames_functionSource hsource)
  · cases h

theorem parametrizes_ofBoosts {functions : List BoostFunction} {script : Script}
    (h : Script.ofBoosts functions = .ok (some script)) :
    Parametrizes script.toJson (functions.flatMap fun f => f.function.fieldsRead)
      (functions.flatMap BoostFunction.numbers) := by
  obtain ⟨terms, bound, hterms, hscript⟩ := ofBoosts_eq_ok_iff.mp h
  by_cases hnil : terms = []
  · rw [if_pos hnil] at hscript
    cases hscript
  · rw [if_neg hnil] at hscript
    obtain rfl := Option.some.inj hscript
    refine parametrizes_toJson (bound_summands hterms) ?_
    intro hfields
    have hnames := referredNames_summands hterms
      fun f hf field hfield => hfields field (List.mem_flatMap.mpr ⟨f, hf, hfield⟩)
    have hstart : referredNames "_score".toList = [] := by decide
    have hone : referredNames "1.0".toList = [] := by decide
    rw [referredNames_between (by decide) (by decide), referredNames_parenthesized,
      referredNames_between (by decide) (by decide), referredNames_joined, hnames, hstart, hone]
    rfl

end Structured

end Retrieval

/-
  Retrieval/Proofs/Structured/Scoring.lean
  ========================================
  **The scripts compute the functions.**

  A scoring function has a value for a document (`Scene.scoreOf`).  The source that is
  written for it is a product of this value, whatever numbers were bound before it and
  whatever numbers are bound after it: binding only ever appends, so a parameter that the
  source refers to still stands for the same number when the script is complete.

  The nested functions follow by induction: the source of a reciprocal is a quotient whose
  divisor contains the source of the inner function behind a `*`, and a product can stand
  there without parentheses.  The script of a weighted sum adds the products one by one.
-/
import Retrieval.Proofs.Denotation
import Retrieval.Proofs.Structured.Assembly
import Retrieval.Proofs.Structured.Splicing

namespace Retrieval

open Structured

/-! ### Values of scoring functions -/

/-- The expression names fields that can stand between apostrophes, and finite numbers. -/
def Query.isWritable : Query → Bool
  | .distance field lat lng _ => field.toList.all isTextChar && lat.isFinite && lng.isFinite
  | .reciprocal q x y z => isWritable q && x.isFinite && y.isFinite && z.isFinite
  | .fieldValue field => field.toList.all isTextChar
  | .group q => isWritable q
  | _ => true

def BoostFunction.isWritable (f : BoostFunction) : Bool :=
  f.weight.isFinite && f.function.isWritable

namespace Structured

variable {K : Type} [DivisionRing K] (scene : Scene K)

/-- The value of a scoring function.  Distances are in kilometers. -/
def Scene.scoreOf : Query → K
  | .distance field lat lng .arc => scene.arcDistance field lat.exact lng.exact / 1000
  | .distance field lat lng .square => (scene.planeDistance field lat.exact lng.exact / 1000) ^ 2
  | .reciprocal q x y z => y.exact / (x.exact * scoreOf q + z.exact)
  | .fieldValue field => scene.field field
  | .group q => scoreOf q
  | _ => 0

/-- The sum of weighted functions. -/
def Scene.weightedSum (functions : List BoostFunction) : K :=
  (functions.map fun f => f.weight.exact * scene.scoreOf f.function).sum

theorem exact_of_isZero {w : Scalar} (h : w.isZero = true) : w.exact = 0 := by
  have hbits : w.bits.toNat % Nat.pow 2 63 = 0 := by simpa [Scalar.isZero] using h
  have hexponent : w.bits.toNat / Nat.pow 2 52 % Nat.pow 2 11 = 0 := by
    simp only [Nat.pow_eq, Nat.reducePow] at hbits ⊢
    omega
  have hfraction : w.bits.toNat % Nat.pow 2 52 = 0 := by
    simp only [Nat.pow_eq, Nat.reducePow] at hbits ⊢
    omega
  simp [Scalar.exact, Decimal.Dyadic.rational, Decimal.Dyadic.ofBits64, Decimal.Dyadic.ofFields,
    hexponent, hfraction]

/-- A function without a weight adds nothing. -/
theorem weightedSum_filter_isActive (functions : List BoostFunction) :
    scene.weightedSum (functions.filter BoostFunction.isActive) = scene.weightedSum functions := by
  induction functions with
  | nil => rfl
  | cons f functions ih =>
    unfold Scene.weightedSum at ih ⊢
    by_cases hf : f.isActive = true
    · rw [List.filter_cons_of_pos hf, List.map_cons, List.sum_cons, ih, List.map_cons,
        List.sum_cons]
    · have hzero : f.weight.exact = 0 :=
        exact_of_isZero (by simpa [BoostFunction.isActive] using hf)
      rw [List.filter_cons_of_neg hf, ih, List.map_cons, List.sum_cons, hzero]
      simp

/-! ### Parameters -/

theorem parameterName_injective {m n : Nat} (h : parameterName m = parameterName n) : m = n := by
  have hdigits : Nat.toDigits 10 m = Nat.toDigits 10 n := List.tail_eq_of_cons_eq h
  rw [← Nat.ofDigitChars_ten_toDigits (n := m), hdigits, Nat.ofDigitChars_ten_toDigits]

theorem parameterMembers_ne {n first : Nat} (h : n < first) (bound : List Scalar) :
    ∀ entry ∈ parameterMembers first bound, entry.1 ≠ String.ofList (parameterName n) := by
  induction bound generalizing first with
  | nil => simp [parameterMembers]
  | cons x bound ih =>
    rw [parameterMembers, List.forall_mem_cons]
    refine ⟨fun heq => ?_, ih (Nat.lt_succ_of_lt h)⟩
    have hname := parameterName_injective (String.ofList_injective heq)
    omega

theorem get?_parameterMembers (first : Nat) (before : List Scalar) (x : Scalar)
    (after : List Scalar) (members : Dict Json) :
    Dict.get? (Dict.insertAll members (parameterMembers first (before ++ x :: after)))
      (String.ofList (parameterName (first + before.length))) = some (Json.ofScalar x) := by
  induction before generalizing first members with
  | nil =>
    have hafter := parameterMembers_ne (Nat.lt_succ_self first) after
    exact (Dict.get?_insertAll_of_forall_ne hafter _).trans (Dict.get?_insert_self ..)
  | cons y before ih =>
    have hnext := ih (first + 1) (Dict.insert (String.ofList (parameterName first))
      (Json.ofScalar y) members)
    rw [Nat.add_right_comm] at hnext
    exact hnext

/-- The parameters of a script. -/
def boundParameters (bound : List Scalar) : Json := Json.record (parameterMembers 1 bound)

/-- A reference stands for the number that was bound for it. -/
theorem value?_reference {bound all : List Scalar} {x : Scalar} (h : bound ++ [x] <+: all)
    (hx : x.isFinite = true) :
    (Formula.parameter (String.ofList (parameterName (bound.length + 1)))).value? scene
      (boundParameters all) = some (x.exact : K) := by
  obtain ⟨after, rfl⟩ := h
  have hmember := get?_parameterMembers 1 bound x after []
  rw [Nat.add_comm 1] at hmember
  have hvalue : (boundParameters (bound ++ [x] ++ after)).member?
      (String.ofList (parameterName (bound.length + 1))) = some (Json.ofScalar x) := by
    rw [List.append_assoc]
    exact hmember
  rw [Formula.value?, hvalue, Json.ofScalar, if_pos hx]
  rfl

theorem isProduct_reference {bound all : List Scalar} {x : Scalar} (h : bound ++ [x] <+: all)
    (hx : x.isFinite = true) :
    IsProduct scene (boundParameters all) (reference (bound.length + 1)) (x.exact : K) :=
  (isFactor_reference _).isProduct (value?_reference scene h hx)

theorem isProduct_references {bound all : List Scalar} {x y : Scalar}
    (h : bound ++ [x, y] <+: all) (hx : x.isFinite = true) (hy : y.isFinite = true) :
    IsProduct scene (boundParameters all) (reference (bound.length + 1)) (x.exact : K) ∧
      IsProduct scene (boundParameters all) (reference (bound.length + 2)) (y.exact : K) := by
  have hfirst : bound ++ [x] <+: all := List.IsPrefix.trans ⟨[y], by simp⟩ h
  have hsecond : bound ++ [x] ++ [y] <+: all := by simpa using h
  constructor
  · exact isProduct_reference scene hfirst hx
  · simpa using isProduct_reference scene hsecond hy

/-! ### Functions -/

theorem functionSource_reciprocal_eq_ok_iff {bound bound' : List Scalar} {q : Query}
    {x y z : Scalar} {source : List Char} :
    functionSource bound (.reciprocal q x y z) = (.ok source, bound') ↔
      ∃ inner inner', functionSource (bound ++ [y, x]) q = (.ok inner, inner') ∧
        reciprocalSource inner (reference (bound.length + 2)) (reference (bound.length + 1))
          (reference (inner'.length + 1)) = source ∧ inner' ++ [z] = bound' := by
  rw [functionSource]
  rcases functionSource (bound ++ [y, x]) q with ⟨e | inner, inner'⟩
  · simp
  · simp only [Prod.mk.injEq, Except.ok.injEq]
    constructor
    · rintro ⟨hsource, hbound⟩
      exact ⟨inner, inner', ⟨rfl, rfl⟩, hsource, hbound⟩
    · rintro ⟨_, _, ⟨rfl, rfl⟩, hsource, hbound⟩
      exact ⟨hsource, hbound⟩

theorem functionSource_group_eq_ok_iff {bound bound' : List Scalar} {q : Query}
    {source : List Char} :
    functionSource bound (.group q) = (.ok source, bound') ↔
      ∃ inner, functionSource bound q = (.ok inner, bound') ∧ parenthesized inner = source := by
  rw [functionSource]
  rcases functionSource bound q with ⟨e | inner, inner'⟩
  · simp
  · simp only [Prod.mk.injEq, Except.ok.injEq]
    constructor
    · rintro ⟨hsource, hbound⟩
      exact ⟨inner, ⟨rfl, hbound⟩, hsource⟩
    · rintro ⟨_, ⟨rfl, hbound⟩, hsource⟩
      exact ⟨hsource, hbound⟩

theorem prefix_functionSource (bound : List Scalar) (q : Query) :
    bound <+: (functionSource bound q).2 := by
  induction q generalizing bound with
  | distance field lat lng shape => exact List.prefix_append _ _
  | reciprocal q x y z ih =>
    have hinner := (List.prefix_append bound [y, x]).trans (ih (bound ++ [y, x]))
    rw [functionSource]
    generalize functionSource (bound ++ [y, x]) q = result at hinner
    match result with
    | (.ok inner, bound') => exact hinner.trans (List.prefix_append _ _)
    | (.error e, bound') => exact hinner
  | group q ih =>
    have hinner := ih bound
    rw [functionSource]
    generalize functionSource bound q = result at hinner
    match result with
    | (.ok inner, bound') => exact hinner
    | (.error e, bound') => exact hinner
  | _ => exact List.prefix_refl _

theorem distanceSource_arc (field : String) (lat lng : List Char) :
    distanceSource field .arc lat lng
      = parenthesized (fieldSource field ++ ".arcDistance(".toList ++ lat ++ ", ".toList ++ lng
          ++ [')'] ++ " / ".toList ++ "1000.0".toList) := by
  unfold distanceSource parenthesized
  simp

theorem distanceSource_square (field : String) (lat lng : List Char) :
    distanceSource field .square lat lng
      = "Math.pow(".toList ++ (fieldSource field ++ ".planeDistance(".toList ++ lat ++ ", ".toList
          ++ lng ++ [')'] ++ " / ".toList ++ "1000.0".toList) ++ ", ".toList ++ "2".toList
          ++ [')'] := by
  unfold distanceSource
  simp

theorem reciprocalSource_eq (inner x y z : List Char) :
    reciprocalSource inner x y z
      = y ++ " / ".toList ++ parenthesized (x ++ " * ".toList ++ inner ++ " + ".toList ++ z) := by
  simp [reciprocalSource, parenthesized]

theorem isProduct_distanceSource {bound all : List Scalar} {field : String} {lat lng : Scalar}
    {shape : DistanceShape} (hall : bound ++ [lat, lng] <+: all)
    (h : (Query.distance field lat lng shape).isWritable = true) :
    IsProduct scene (boundParameters all)
      (distanceSource field shape (reference (bound.length + 1)) (reference (bound.length + 2)))
      (scene.scoreOf (.distance field lat lng shape)) := by
  simp only [Query.isWritable, Bool.and_eq_true] at h
  obtain ⟨⟨hfield, hlat⟩, hlng⟩ := h
  obtain ⟨hlat, hlng⟩ := isProduct_references scene hall hlat hlng
  cases shape with
  | arc =>
    have hmeters := hlat.isTotal.arcDistance hlng.isTotal hfield
    have hdistance := hmeters.overThousand.isTotal.parenthesized
    rw [distanceSource_arc, Scene.scoreOf]
    exact hdistance
  | square =>
    have hmeters := hlat.isTotal.planeDistance hlng.isTotal hfield
    have hdistance := hmeters.overThousand.isTotal.squared
    rw [distanceSource_square, Scene.scoreOf]
    exact hdistance

/-- The source of a function computes its value, wherever it is spliced in. -/
theorem isProduct_functionSource {q : Query} {bound bound' all : List Scalar} {source : List Char}
    (h : functionSource bound q = (.ok source, bound')) (hall : bound' <+: all)
    (hq : q.isWritable = true) :
    IsProduct scene (boundParameters all) source (scene.scoreOf q) := by
  -- `all` stays fixed: what is bound in a nested function is a part of it at every depth.
  induction q generalizing bound bound' source with
  | distance field lat lng shape =>
    obtain ⟨hsource, rfl⟩ := Prod.mk.inj h
    obtain rfl := Except.ok.inj hsource
    exact isProduct_distanceSource scene hall hq
  | reciprocal q x y z ih =>
    simp only [Query.isWritable, Bool.and_eq_true] at hq
    obtain ⟨⟨⟨hq, hx⟩, hy⟩, hz⟩ := hq
    have hinnerBound := prefix_functionSource (bound ++ [y, x]) q
    obtain ⟨inner, inner', hinner, rfl, rfl⟩ := functionSource_reciprocal_eq_ok_iff.mp h
    rw [hinner] at hinnerBound
    have hbefore : inner' <+: all := (List.prefix_append inner' [z]).trans hall
    obtain ⟨hdividend, hfactor⟩ := isProduct_references scene (hinnerBound.trans hbefore) hy hx
    obtain ⟨divisor, hdivisor, hvalue⟩ :=
      (hfactor.times (ih hinner hbefore hq)).isTotal.plus (isProduct_reference scene hall hz)
    rw [reciprocalSource_eq, Scene.scoreOf]
    exact hdividend.over hdivisor.parenthesized hvalue
  | fieldValue field =>
    obtain ⟨hsource, rfl⟩ := Prod.mk.inj h
    obtain rfl := Except.ok.inj hsource
    exact (isFactor_fieldValue hq).isProduct rfl
  | group q ih =>
    obtain ⟨inner, hinner, rfl⟩ := functionSource_group_eq_ok_iff.mp h
    exact (ih hinner hall hq).isTotal.parenthesized
  | _ => cases h

/-! ### Scripts -/

theorem member?_source (script : Script) :
    script.toJson.member? "source" = some (.string (String.ofList script.source)) :=
  member?_record [] (by simp)

theorem member?_params (script : Script) :
    script.toJson.member? "params" = some (boundParameters script.bound) :=
  member?_record [_, _] (by simp)

theorem scriptValue?_toJson {script : Script} {v : K}
    (h : IsTotal scene (boundParameters script.bound) script.source v) :
    scriptValue? scene script.toJson = some v := by
  obtain ⟨a, hsum, ha⟩ := h
  unfold scriptValue?
  rw [member?_source, member?_params]
  simp [Json.text?, hsum.read, ha]

theorem scriptValue?_ofFunction {q : Query} {script : Script} (h : Script.ofFunction q = .ok script)
    (hq : q.isWritable = true) : scriptValue? scene script.toJson = some (scene.scoreOf q) := by
  unfold Script.ofFunction at h
  split at h
  · rename_i source bound hsource
    obtain rfl := Except.ok.inj h
    exact scriptValue?_toJson scene
      (isProduct_functionSource scene hsource (List.prefix_refl bound) hq).isTotal
  · cases h

theorem summands_cons_eq_ok_iff {bound bound' : List Scalar} {f : BoostFunction}
    {functions : List BoostFunction} {terms : List (List Char)} :
    Script.summands bound (f :: functions) = .ok (terms, bound') ↔
      ∃ body inner others, functionSource (bound ++ [f.weight]) f.function = (.ok body, inner) ∧
        Script.summands inner functions = .ok (others, bound') ∧
        (reference (bound.length + 1) ++ " * ".toList ++ parenthesized body) :: others = terms := by
  rw [Script.summands]
  cases functionSource (bound ++ [f.weight]) f.function with
  | mk result inner =>
    cases result with
    | error e => simp
    | ok body =>
      simp only [bind_eq_ok_iff, pure_eq_ok_iff, Prod.exists, Prod.mk.injEq, Except.ok.injEq]
      constructor
      · rintro ⟨others, _, hothers, rfl, rfl⟩
        exact ⟨body, inner, others, ⟨rfl, rfl⟩, hothers, rfl⟩
      · rintro ⟨_, _, others, ⟨rfl, rfl⟩, hothers, rfl⟩
        exact ⟨others, bound', hothers, rfl, rfl⟩

theorem prefix_summands {functions : List BoostFunction} {bound bound' : List Scalar}
    {terms : List (List Char)} (h : Script.summands bound functions = .ok (terms, bound')) :
    bound <+: bound' := by
  induction functions generalizing bound terms with
  | nil =>
    obtain ⟨-, rfl⟩ := Prod.mk.inj (Except.ok.inj h)
    exact List.prefix_refl bound
  | cons f functions ih =>
    obtain ⟨body, inner, others, hbody, hothers, -⟩ := summands_cons_eq_ok_iff.mp h
    have hinner := prefix_functionSource (bound ++ [f.weight]) f.function
    rw [hbody] at hinner
    exact (List.prefix_append bound [f.weight]).trans (hinner.trans (ih hothers))

theorem length_summands {functions : List BoostFunction} {bound bound' : List Scalar}
    {terms : List (List Char)} (h : Script.summands bound functions = .ok (terms, bound')) :
    terms.length = functions.length := by
  induction functions generalizing bound terms with
  | nil =>
    obtain ⟨rfl, -⟩ := Prod.mk.inj (Except.ok.inj h)
    rfl
  | cons f functions ih =>
    obtain ⟨body, inner, others, -, hothers, rfl⟩ := summands_cons_eq_ok_iff.mp h
    rw [List.length_cons, List.length_cons, ih hothers]

/-- Each summand is the product of a weight and a function. -/
theorem isProduct_summands {functions : List BoostFunction} {bound bound' all : List Scalar}
    {terms : List (List Char)} (h : Script.summands bound functions = .ok (terms, bound'))
    (hall : bound' <+: all) (hwritable : ∀ f ∈ functions, f.isWritable = true) :
    List.Forall₂ (fun f term => IsProduct scene (boundParameters all) term
      (f.weight.exact * scene.scoreOf f.function)) functions terms := by
  induction functions generalizing bound terms with
  | nil =>
    obtain ⟨rfl, -⟩ := Prod.mk.inj (Except.ok.inj h)
    exact .nil
  | cons f functions ih =>
    obtain ⟨hf, hfunctions⟩ := List.forall_mem_cons.mp hwritable
    simp only [BoostFunction.isWritable, Bool.and_eq_true] at hf
    obtain ⟨hweight, hfunction⟩ := hf
    obtain ⟨body, inner, others, hbody, hothers, rfl⟩ := summands_cons_eq_ok_iff.mp h
    have hinner := prefix_functionSource (bound ++ [f.weight]) f.function
    rw [hbody] at hinner
    have hafter : inner <+: all := (prefix_summands hothers).trans hall
    have hfactor := isProduct_reference scene (hinner.trans hafter) hweight
    have hvalue := (isProduct_functionSource scene hbody hafter hfunction).isTotal.parenthesized
    exact .cons (hfactor.times hvalue) (ih hothers hfunctions)

/-- A sum goes on with the joined summands. -/
theorem isTotal_joined {parameters : Json} {functions : List BoostFunction}
    {terms : List (List Char)}
    (h : List.Forall₂ (fun f term => IsProduct scene parameters term
      (f.weight.exact * scene.scoreOf f.function)) functions terms)
    (hne : terms ≠ []) {s : List Char} {u : K} (hs : IsTotal scene parameters s u) :
    IsTotal scene parameters (s ++ " + ".toList ++ Text.joined " + ".toList terms)
      (u + scene.weightedSum functions) := by
  induction h generalizing s u with
  | nil => exact absurd rfl hne
  | @cons f term functions terms hterm hterms ih =>
    have hfirst := hs.plus hterm
    cases terms with
    | nil =>
      cases hterms
      simpa [Text.joined, Scene.weightedSum] using hfirst
    | cons second terms =>
      have hall := ih (List.cons_ne_nil second terms) hfirst
      rw [add_assoc] at hall
      simpa [Text.joined, Scene.weightedSum] using hall

theorem ofBoosts_eq_ok_iff {functions : List BoostFunction} {script? : Option Script} :
    Script.ofBoosts functions = .ok script? ↔
      ∃ terms bound, Script.summands [] functions = .ok (terms, bound) ∧
        (if terms = [] then none
          else some ⟨"_score".toList ++ " * ".toList ++ parenthesized ("1.0".toList ++ " + ".toList
            ++ Text.joined " + ".toList terms), bound⟩) = script? := by
  rw [Script.ofBoosts, bind_eq_ok_iff]
  simp only [Prod.exists]
  refine exists_congr fun terms => exists_congr fun bound => and_congr_right fun _ => ?_
  cases terms with
  | nil => exact pure_eq_ok_iff
  | cons term terms =>
    rw [if_neg (List.cons_ne_nil term terms)]
    simp [pure_eq_ok_iff, parenthesized]

theorem ofBoosts_eq_none_iff {functions : List BoostFunction} {script? : Option Script}
    (h : Script.ofBoosts functions = .ok script?) : script? = none ↔ functions = [] := by
  obtain ⟨terms, bound, hterms, rfl⟩ := ofBoosts_eq_ok_iff.mp h
  have hempty : terms = [] ↔ functions = [] := by
    rw [← List.length_eq_zero_iff, ← List.length_eq_zero_iff, length_summands hterms]
  rw [← hempty]
  by_cases hnil : terms = [] <;> simp [hnil]

/-- The script of boost functions computes the raised score. -/
theorem scriptValue?_ofBoosts {functions : List BoostFunction} {script : Script}
    (h : Script.ofBoosts functions = .ok (some script))
    (hwritable : ∀ f ∈ functions, f.isWritable = true) :
    scriptValue? scene script.toJson
      = some (scene.score * (1 + scene.weightedSum functions)) := by
  obtain ⟨terms, bound, hterms, hscript⟩ := ofBoosts_eq_ok_iff.mp h
  by_cases hnil : terms = []
  · rw [if_pos hnil] at hscript
    cases hscript
  · rw [if_neg hnil] at hscript
    obtain rfl := Option.some.inj hscript
    have hproducts := isProduct_summands scene hterms (List.prefix_refl bound) hwritable
    have hone : IsTotal scene (boundParameters bound) "1.0".toList 1 :=
      (isFactor_one.isProduct (by simp [Formula.value?])).isTotal
    have hscore : IsProduct scene (boundParameters bound) "_score".toList scene.score :=
      isFactor_score.isProduct rfl
    have hraised := (isTotal_joined scene hproducts hnil hone).parenthesized
    exact scriptValue?_toJson scene (hscore.times hraised).isTotal

end Structured

end Retrieval

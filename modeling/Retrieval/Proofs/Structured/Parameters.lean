/-
  Retrieval/Proofs/Structured/Parameters.lean
  ===========================================
  **Numbers stay out of the sources.**

  What is written for a scoring function depends on how many numbers were bound before it, not
  on the numbers (`functionSource_withoutNumbers`).  Two scripts that are the same up to their
  numbers are both written as the one without numbers is, so they have the same source.  For a
  weighted sum the weights have to be zero in the same places, since a function without a
  weight is not written at all.

  A source can therefore be used again, and all that changes from one request to the next is
  what its parameters hold (`sources_ignore_numbers`).
-/
import Retrieval.Proofs.Structured.References
import Retrieval.Proofs.Structured.Rescoring

namespace Retrieval

/-! ### Expressions without numbers -/

namespace Query

mutual

/-- The expression with a zero for each of its numbers. -/
def withoutNumbers : Query → Query
  | .group q => .group (withoutNumbers q)
  | .boost q _ => .boost (withoutNumbers q) .zero
  | .range low high => .range (withoutNumbers low) (withoutNumbers high)
  | .allOf qs => .allOf (withoutNumbersAll qs)
  | .anyOf qs => .anyOf (withoutNumbersAll qs)
  | .distance field _ _ shape => .distance field .zero .zero shape
  | .reciprocal q _ _ _ => .reciprocal (withoutNumbers q) .zero .zero .zero
  | q => q

/-- The expressions of a list with a zero for each of their numbers. -/
def withoutNumbersAll : List Query → List Query
  | [] => []
  | q :: qs => withoutNumbers q :: withoutNumbersAll qs

end

end Query

namespace BoostFunction

/-- The function without its numbers.  Of the weight it is kept whether it is zero. -/
def withoutNumbers (f : BoostFunction) : BoostFunction :=
  ⟨f.function.withoutNumbers, if f.weight.isZero then .zero else .one⟩

theorem isActive_withoutNumbers (f : BoostFunction) : f.withoutNumbers.isActive = f.isActive := by
  unfold withoutNumbers isActive
  by_cases hzero : f.weight.isZero = true
  · rw [if_pos hzero, hzero]
    rfl
  · rw [if_neg hzero, Bool.not_eq_true _ |>.mp hzero]
    rfl

end BoostFunction

namespace Structured

/-! ### Sources without numbers -/

/-- Both computations succeed, with results that agree under `f`, or both fail. -/
def AgreeOn {α β : Type} (f : α → β) (x y : Except Failure α) : Prop :=
  ((∃ a, x = .ok a) ↔ ∃ b, y = .ok b) ∧ ∀ a b, x = .ok a → y = .ok b → f a = f b

theorem agreeOn_of_map_eq {α β : Type} {f : α → β} {x y : Except Failure α}
    (h : x.toOption.map f = y.toOption.map f) : AgreeOn f x y := by
  cases x with
  | error e =>
    cases y with
    | error e' => exact ⟨by simp, by simp⟩
    | ok b => cases h
  | ok a =>
    cases y with
    | error e' => cases h
    | ok b =>
      refine ⟨by simp, ?_⟩
      rintro _ _ ⟨⟩ ⟨⟩
      exact Option.some.inj h

/-- Two functions were written alike, with as many numbers bound after them, or neither was
    written. -/
inductive WrittenAlike :
    Except Failure (List Char) × List Scalar → Except Failure (List Char) × List Scalar → Prop
  | written (source : List Char) {after after' : List Scalar} :
    after.length = after'.length → WrittenAlike (.ok source, after) (.ok source, after')
  | refused (e e' : Failure) (after after' : List Scalar) :
    WrittenAlike (.error e, after) (.error e', after')

/-- What is written for a function depends on how many numbers are bound before it, and not on
    any number. -/
theorem functionSource_withoutNumbers {bound bound' : List Scalar}
    (h : bound.length = bound'.length) (q : Query) :
    WrittenAlike (functionSource bound q.withoutNumbers) (functionSource bound' q) := by
  induction q generalizing bound bound' with
  | distance field lat lng shape =>
    rw [Query.withoutNumbers, functionSource, functionSource, h]
    exact .written _ (by simp [h])
  | reciprocal q x y z ih =>
    have hinner : WrittenAlike (functionSource (bound ++ [.zero, .zero]) q.withoutNumbers)
        (functionSource (bound' ++ [y, x]) q) := ih (by simp [h])
    rw [Query.withoutNumbers, functionSource, functionSource]
    generalize functionSource (bound ++ [.zero, .zero]) q.withoutNumbers = r at hinner
    generalize functionSource (bound' ++ [y, x]) q = r' at hinner
    cases hinner with
    | written source hlength =>
      dsimp only
      rw [h, hlength]
      exact .written _ (by simp [hlength])
    | refused e e' after after' => exact .refused e e' after after'
  | fieldValue field => exact .written _ h
  | group q ih =>
    have hinner := ih h
    rw [Query.withoutNumbers, functionSource, functionSource]
    generalize functionSource bound q.withoutNumbers = r at hinner
    generalize functionSource bound' q = r' at hinner
    cases hinner with
    | written source hlength => exact .written _ hlength
    | refused e e' after after' => exact .refused e e' after after'
  | _ => exact .refused _ _ _ _

theorem summands_withoutNumbers {bound bound' : List Scalar} (h : bound.length = bound'.length)
    (functions : List BoostFunction) :
    (Script.summands bound (functions.map BoostFunction.withoutNumbers)).toOption.map Prod.fst
      = (Script.summands bound' functions).toOption.map Prod.fst := by
  induction functions generalizing bound bound' with
  | nil => rfl
  | cons f functions ih =>
    have hbody : WrittenAlike
        (functionSource (bound ++ [f.withoutNumbers.weight]) f.withoutNumbers.function)
        (functionSource (bound' ++ [f.weight]) f.function) :=
      functionSource_withoutNumbers (by simp [h]) f.function
    rw [List.map_cons, Script.summands, Script.summands]
    generalize functionSource (bound ++ [f.withoutNumbers.weight]) f.withoutNumbers.function = r
      at hbody
    generalize functionSource (bound' ++ [f.weight]) f.function = r' at hbody
    cases hbody with
    | @written body after after' hlength =>
      have hothers := ih hlength
      dsimp only
      generalize Script.summands after (functions.map BoostFunction.withoutNumbers) = others
        at hothers
      generalize Script.summands after' functions = others' at hothers
      rcases others with e | ⟨terms, bound⟩ <;> rcases others' with e' | ⟨terms', bound'⟩ <;>
        cases hothers
      · rfl
      · rw [h]
        rfl
    | refused e e' after after' => rfl

theorem ofBoosts_withoutNumbers (functions : List BoostFunction) :
    (Script.ofBoosts (functions.map BoostFunction.withoutNumbers)).toOption.map
        (Option.map Script.source)
      = (Script.ofBoosts functions).toOption.map (Option.map Script.source) := by
  have hsummands := summands_withoutNumbers (rfl : ([] : List Scalar).length = 0) functions
  rw [Script.ofBoosts, Script.ofBoosts]
  generalize Script.summands [] (functions.map BoostFunction.withoutNumbers) = terms at hsummands
  generalize Script.summands [] functions = terms' at hsummands
  rcases terms with e | ⟨terms, bound⟩ <;> rcases terms' with e' | ⟨terms', bound'⟩ <;>
    cases hsummands
  · rfl
  · rcases terms with _ | ⟨term, terms⟩ <;> rfl

theorem ofFunction_withoutNumbers (q : Query) :
    (Script.ofFunction q.withoutNumbers).toOption.map Script.source
      = (Script.ofFunction q).toOption.map Script.source := by
  have hsource := functionSource_withoutNumbers (rfl : ([] : List Scalar).length = 0) q
  rw [Script.ofFunction, Script.ofFunction]
  generalize functionSource [] q.withoutNumbers = r at hsource
  generalize functionSource [] q = r' at hsource
  cases hsource with
  | written source hlength => rfl
  | refused e e' after after' => rfl

theorem isFunction_withoutNumbers (q : Query) : q.withoutNumbers.isFunction = q.isFunction := by
  cases q <;> rfl

theorem filter_isActive_withoutNumbers (functions : List BoostFunction) :
    (functions.map BoostFunction.withoutNumbers).filter BoostFunction.isActive
      = (functions.filter BoostFunction.isActive).map BoostFunction.withoutNumbers := by
  rw [List.filter_map]
  congr 2
  funext f
  exact f.isActive_withoutNumbers

/-! ### Orders and boost functions -/

/-- The script in an entry of an order. -/
def entryScript? (entry : Json) : Option Json :=
  (entry.member? "_script").bind (Json.member? "script")

theorem entryScript?_eq_some {q : Query} {direction : SortDirection} {entry : Json}
    (h : sortEntry ⟨.function q, direction⟩ = .ok entry) :
    ∃ script, Script.ofFunction q = .ok script ∧ entryScript? entry = some script.toJson := by
  obtain ⟨-, script, hscript, rfl⟩ := sortEntry_function_eq_ok_iff.mp h
  refine ⟨script, hscript, ?_⟩
  rw [entryScript?, member?_single_self]
  exact member?_record [_] (by simp)

theorem agreeOn_sortEntry {q q' : Query} (h : q.withoutNumbers = q'.withoutNumbers)
    (direction : SortDirection) :
    AgreeOn (fun entry => (entryScript? entry).bind (Json.member? "source"))
      (sortEntry ⟨.function q, direction⟩) (sortEntry ⟨.function q', direction⟩) := by
  have hfunction : q.isFunction = q'.isFunction := by
    rw [← isFunction_withoutNumbers q, h, isFunction_withoutNumbers]
  have hscripts : AgreeOn Script.source (Script.ofFunction q) (Script.ofFunction q') := by
    apply agreeOn_of_map_eq
    rw [← ofFunction_withoutNumbers q, h, ofFunction_withoutNumbers]
  constructor
  · have hdefined (q : Query) : (∃ entry, sortEntry ⟨.function q, direction⟩ = .ok entry) ↔
        q.isFunction = true ∧ ∃ script, Script.ofFunction q = .ok script := by
      simp only [sortEntry_function_eq_ok_iff]
      constructor
      · rintro ⟨entry, hq, script, hscript, -⟩
        exact ⟨hq, script, hscript⟩
      · rintro ⟨hq, script, hscript⟩
        exact ⟨_, hq, script, hscript, rfl⟩
    rw [hdefined, hdefined, hfunction, hscripts.1]
  · intro entry entry' hentry hentry'
    obtain ⟨script, hscript, hjson⟩ := entryScript?_eq_some hentry
    obtain ⟨script', hscript', hjson'⟩ := entryScript?_eq_some hentry'
    dsimp only
    rw [hjson, hjson', Option.bind_some, Option.bind_some, member?_source, member?_source,
      hscripts.2 script script' hscript hscript']

theorem agreeOn_ofBoosts {functions functions' : List BoostFunction}
    (h : (functions.map fun f => (f.function.withoutNumbers, f.weight.isZero))
      = functions'.map fun f => (f.function.withoutNumbers, f.weight.isZero)) :
    AgreeOn (Option.map Script.source)
      (Script.ofBoosts (functions.filter BoostFunction.isActive))
      (Script.ofBoosts (functions'.filter BoostFunction.isActive)) := by
  have herased : functions.map BoostFunction.withoutNumbers
      = functions'.map BoostFunction.withoutNumbers := by
    have hcopies := congrArg
      (List.map fun (q, isZero) => BoostFunction.mk q (if isZero then .zero else .one)) h
    rw [List.map_map, List.map_map] at hcopies
    exact hcopies
  apply agreeOn_of_map_eq
  rw [← ofBoosts_withoutNumbers, ← ofBoosts_withoutNumbers (functions'.filter _),
    ← filter_isActive_withoutNumbers, ← filter_isActive_withoutNumbers, herased]

/-- **Script sources can be used again for other numbers.**  Functions that are the same up to
    their numbers, with the weights zero in the same places, all have a script or all have
    none, and the sources are the same.  The parameters are numbered from one on and hold the
    numbers in the order of binding, which is also the order in which a source refers to
    them. -/
theorem sources_ignore_numbers :
    (∀ s s' : Search, (s.boostFunctions.map fun f => (f.function.withoutNumbers, f.weight.isZero))
        = (s'.boostFunctions.map fun f => (f.function.withoutNumbers, f.weight.isZero)) →
      AgreeOn (Option.map Script.source)
        (Script.ofBoosts s.activeBoostFunctions) (Script.ofBoosts s'.activeBoostFunctions)) ∧
    (∀ (q q' : Query) (direction : SortDirection), q.withoutNumbers = q'.withoutNumbers →
      AgreeOn (fun entry => (entryScript? entry).bind (Json.member? "source"))
        (sortEntry ⟨.function q, direction⟩) (sortEntry ⟨.function q', direction⟩)) ∧
    (∀ (s : Search) (script : Script),
      Script.ofBoosts s.activeBoostFunctions = .ok (some script) →
      Parametrizes script.toJson (s.activeBoostFunctions.flatMap fun f => f.function.fieldsRead)
        (s.activeBoostFunctions.flatMap BoostFunction.numbers)) ∧
    ∀ (q : Query) (direction : SortDirection) (entry : Json),
      sortEntry ⟨.function q, direction⟩ = .ok entry →
      ∃ script, entryScript? entry = some script ∧ Parametrizes script q.fieldsRead q.numbers := by
  refine ⟨?_, ?_, ?_, ?_⟩
  · intro s s' h
    exact agreeOn_ofBoosts h
  · intro q q' direction h
    exact agreeOn_sortEntry h direction
  · intro s script h
    exact parametrizes_ofBoosts h
  · intro q direction entry h
    obtain ⟨script, hscript, hjson⟩ := entryScript?_eq_some h
    exact ⟨script.toJson, hjson, parametrizes_ofFunction hscript⟩

/-- The thousand of the first function is the second of thirteen numbers. -/
theorem sources_ignore_numbers_scoredSearch :
    let erased := { scoredSearch with
      boostFunctions := scoredSearch.boostFunctions.map BoostFunction.withoutNumbers }
    ∃ script script' entry entry' members,
      Script.ofBoosts scoredSearch.activeBoostFunctions = .ok (some script) ∧
      Script.ofBoosts erased.activeBoostFunctions = .ok (some script') ∧
      script.source = script'.source ∧ script.bound ≠ script'.bound ∧
      referredNames script.source = parameterNames 1 13 ∧
      script.toJson.member? "params" = some (.object members) ∧
      Dict.get? members "p2" = some (.number (.real ⟨0x408F400000000000⟩)) ∧
      sortEntry ⟨.function (.distanceTo "geo" .one .zero), .ascending⟩ = .ok entry ∧
      sortEntry ⟨.function (.distanceTo "geo" .zero .one), .ascending⟩ = .ok entry' ∧
      (entryScript? entry).bind (Json.member? "source")
        = (entryScript? entry').bind (Json.member? "source") ∧
      ∃ script, entryScript? entry = some script ∧ Parametrizes script ["geo"] [.one, .zero] := by
  intro erased
  obtain ⟨hboosts, hsort, hparameters, hsortParameters⟩ := sources_ignore_numbers
  obtain ⟨script, hscript, hbound⟩ :
      ∃ script, Script.ofBoosts scoredSearch.activeBoostFunctions = .ok (some script) ∧
        script.bound = scoredSearch.activeBoostFunctions.flatMap BoostFunction.numbers :=
    ⟨_, rfl, rfl⟩
  obtain ⟨script', hscript', hbound'⟩ :
      ∃ script, Script.ofBoosts erased.activeBoostFunctions = .ok (some script) ∧
        script.bound = erased.activeBoostFunctions.flatMap BoostFunction.numbers :=
    ⟨_, rfl, rfl⟩
  obtain ⟨entry, hentry⟩ :
      ∃ entry, sortEntry ⟨.function (.distanceTo "geo" .one .zero), .ascending⟩ = .ok entry :=
    ⟨_, rfl⟩
  obtain ⟨entry', hentry'⟩ :
      ∃ entry, sortEntry ⟨.function (.distanceTo "geo" .zero .one), .ascending⟩ = .ok entry :=
    ⟨_, rfl⟩
  have hsource : script.source = script'.source := by
    have hsame := (hboosts scoredSearch erased (by decide +kernel)).2 _ _ hscript hscript'
    exact Option.some.inj hsame
  obtain ⟨⟨source, hmember, hrefers⟩, members, hmembers, -, hholds⟩ := hparameters _ _ hscript
  have hnames : referredNames script.source = parameterNames 1 13 := by
    rw [member?_source] at hmember
    obtain rfl := Json.string.inj (Option.some.inj hmember)
    have hcount : (scoredSearch.activeBoostFunctions.flatMap BoostFunction.numbers).length = 13 :=
      rfl
    have hnames := hrefers (by decide +kernel)
    rw [String.toList_ofList, hcount] at hnames
    exact hnames
  refine ⟨script, script', entry, entry', members, hscript, hscript', hsource, ?_, hnames,
    hmembers, ?_, hentry, hentry', ?_, ?_⟩
  · rw [hbound, hbound']
    decide
  · have hname : String.ofList (parameterName 2) = "p2" := by decide
    have hsecond := hholds 1 ⟨0x408F400000000000⟩ (by decide) (by decide)
    rw [hname] at hsecond
    exact hsecond
  · have hlike : (Query.distanceTo "geo" .one .zero).withoutNumbers
        = (Query.distanceTo "geo" .zero .one).withoutNumbers := by
      rfl
    exact (hsort _ _ .ascending hlike).2 entry entry' hentry hentry'
  · exact hsortParameters _ .ascending entry hentry

end Structured

end Retrieval

/-
  Retrieval/Proofs/Structured/Rescoring.lean
  ==========================================
  **The scores that a structured request asks for.**

  Two scripts can stand in a request.  One replaces the score of the documents that match:
  it is in a `function_score` around the condition, and the filters stand around that.  The
  other one is in the order of the matches.

  A condition that comes from a clause or from boost queries is never a `function_score`,
  and never looks like a condition with filters (`IsUnscored`).  So a request without an
  active boost function leaves all scores as they are, and the equation for the raised
  score holds of every search.
-/
import Retrieval.Proofs.Structured.Congruence
import Retrieval.Proofs.Structured.Scoring

namespace Retrieval.Structured

open Json

/-! ### Scripts in a request -/

/-- The condition inside of filters, which leave scores alone. -/
def unfiltered (query : Json) : Json :=
  match (query.member? "bool").bind (member? "filter"),
    (query.member? "bool").bind (member? "must") with
  | some _, some (.array [condition]) => condition
  | _, _ => query

/-- The script whose value replaces the score. -/
def replacingScript? (body : Json) : Option Json :=
  match body.member? "boost_mode", body.member? "functions" with
  | some (.string "replace"), some (.array [function]) =>
    (function.member? "script_score").bind (member? "script")
  | _, _ => none

/-- The score that a query object gives a document whose score is the one of the scene. -/
def queryScore? {K : Type} [DivisionRing K] (scene : Scene K) (query : Json) : Option K :=
  match (unfiltered query).member? "function_score" with
  | some body => (replacingScript? body).bind (scriptValue? scene)
  | none => some scene.score

/-- The script that a body orders the matches by. -/
def sortScript? (body : Json) : Option Json :=
  match body.member? "sort" with
  | some (.array [entry]) =>
    match (entry.member? "_script").bind (member? "type") with
    | some (.string "number") => (entry.member? "_script").bind (member? "script")
    | _ => none
  | _ => none

/-! ### Conditions -/

/-- No script replaces the score, and no filters stand outside. -/
def IsUnscored (condition : Json) : Prop :=
  condition.member? "function_score" = none ∧ unfiltered condition = condition

theorem isUnscored_single {kind : String} {body : Json} (hkind : kind ≠ "function_score")
    (hbody : kind = "bool" → body.member? "filter" = none) : IsUnscored (single kind body) := by
  constructor
  · exact member?_single_of_ne hkind body
  · unfold unfiltered
    by_cases hbool : kind = "bool"
    · rw [hbool, member?_single_self, Option.bind_some, hbody hbool]
    · rw [member?_single_of_ne hbool, Option.bind_none]

theorem isUnscored_combination {members : List (String × Json)}
    (h : ∀ entry ∈ members, entry.1 ≠ "filter") : IsUnscored (combination members) :=
  isUnscored_single (by decide) fun _ => member?_record_eq_none h

theorem isUnscored_valuesMatch (field : String) (values : List String) :
    IsUnscored (valuesMatch field values) := by
  unfold valuesMatch
  split <;> exact isUnscored_single (by decide) (by simp)

theorem isUnscored_rangeMatch (field : String) (low high : Option String) :
    IsUnscored (rangeMatch field low high) := by
  unfold rangeMatch
  split <;> exact isUnscored_single (by decide) (by simp)

theorem isUnscored_textMatch (s : Search) (kind : TextMatch) (text : String) :
    IsUnscored (textMatch s kind text) := by
  unfold textMatch
  split
  · exact isUnscored_single (by decide) (by simp)
  · exact isUnscored_combination (by simp)

theorem isUnscored_scopedLeaf {s : Search} {field : String} {q : Query} {j : Json}
    (h : scopedLeaf s field q = .ok j) : IsUnscored j := by
  cases q with
  | term values escaped =>
    obtain rfl := Except.ok.inj h
    exact isUnscored_valuesMatch field values
  | phrase value escaped =>
    obtain rfl := Except.ok.inj h
    exact isUnscored_single (by decide) (by simp)
  | words value escaped =>
    obtain rfl := Except.ok.inj h
    exact isUnscored_single (by decide) (by simp)
  | range low high =>
    obtain ⟨lowEnd, -, h⟩ := bind_eq_ok_iff.mp h
    obtain ⟨highEnd, -, h⟩ := bind_eq_ok_iff.mp h
    obtain rfl := pure_eq_ok_iff.mp h
    exact isUnscored_rangeMatch field lowEnd highEnd
  | _ => cases h

theorem isUnscored_unscopedLeaf {s : Search} {q : Query} {j : Json}
    (h : unscopedLeaf s q = .ok j) : IsUnscored j := by
  cases q with
  | term values escaped | phrase value escaped | words value escaped =>
    obtain rfl := Except.ok.inj h
    exact isUnscored_textMatch s _ _
  | _ => cases h

theorem isUnscored_expressionMatch {leaf : Query → Except Failure Json}
    (hleaf : ∀ q j, leaf q = .ok j → IsUnscored j) (q : Query) :
    ∀ j, expressionMatch leaf q = .ok j → IsUnscored j := by
  induction q with
  | splat =>
    intro j h
    obtain rfl := Except.ok.inj h
    exact isUnscored_single (by decide) (by simp)
  | group q ih => exact ih
  | boost q w ih =>
    intro j h
    obtain ⟨inner, -, rfl⟩ := expressionMatch_boost_eq_ok_iff.mp h
    exact isUnscored_combination (by simp)
  | allOf qs ih =>
    intro j h
    obtain ⟨js, -, rfl⟩ := expressionMatch_allOf_eq_ok_iff.mp h
    exact isUnscored_combination (by simp)
  | anyOf qs ih =>
    intro j h
    obtain ⟨js, -, rfl⟩ := expressionMatch_anyOf_eq_ok_iff.mp h
    exact isUnscored_combination (by simp)
  | _ => intro j h; exact hleaf _ j h

theorem isUnscored_fieldMatch {s : Search} {clause : FieldClause} {j : Json}
    (h : fieldMatch s clause = .ok j) : IsUnscored j := by
  obtain ⟨condition, hcondition, rfl⟩ := fieldMatch_eq_ok_iff.mp h
  split
  · split at hcondition
    · exact isUnscored_expressionMatch (fun _ _ => isUnscored_unscopedLeaf) _ _ hcondition
    · exact isUnscored_expressionMatch (fun _ _ => isUnscored_scopedLeaf) _ _ hcondition
  · exact isUnscored_combination (by simp)

theorem isUnscored_clauseCondition {s : Search} {j : Json} (h : clauseCondition s = .ok j) :
    IsUnscored j := by
  unfold clauseCondition at h
  split at h
  · rename_i clause _
    cases clause with
    | field clause => exact isUnscored_fieldMatch h
    | allOf cs =>
      obtain ⟨js, -, rfl⟩ := clauseMatch_allOf_eq_ok_iff.mp h
      exact isUnscored_combination (by simp)
    | anyOf cs =>
      obtain ⟨js, -, rfl⟩ := clauseMatch_anyOf_eq_ok_iff.mp h
      exact isUnscored_combination (by simp)
  · obtain rfl := pure_eq_ok_iff.mp h
    exact isUnscored_single (by decide) (by simp)

theorem isUnscored_withBoostQueries {s : Search} {condition j : Json}
    (h : withBoostQueries s condition = .ok j) (hcondition : IsUnscored condition) :
    IsUnscored j := by
  obtain ⟨preferred, demoted, -, rfl⟩ := withBoostQueries_eq_ok_iff.mp h
  dsimp only
  split
  · split
    · exact hcondition
    · exact isUnscored_combination (by simp)
  · exact isUnscored_single (by decide) (by simp)

/-! ### Scores -/

theorem unfiltered_filtered (condition : Json) (filters : List Json) :
    unfiltered (filtered condition filters) = condition := by
  have hfilter : (record [("must", .array [condition]), ("filter", .array filters)]).member?
      "filter" = some (.array filters) := member?_record [_] (by simp)
  have hmust : (record [("must", .array [condition]), ("filter", .array filters)]).member?
      "must" = some (.array [condition]) := member?_record [] (by simp)
  unfold unfiltered filtered combination
  rw [member?_single_self, Option.bind_some, Option.bind_some, hfilter, hmust]

theorem unfiltered_scored (condition : Json) (script : Script) :
    unfiltered (scored condition script) = scored condition script := by
  unfold unfiltered scored
  rw [member?_single_of_ne (by decide), Option.bind_none]

section Scores

variable {K : Type} [DivisionRing K] (scene : Scene K)

theorem queryScore?_of_scored {query condition : Json} {script : Script}
    (h : unfiltered query = scored condition script) :
    queryScore? scene query = scriptValue? scene script.toJson := by
  have hmode : (record [("query", condition),
      ("functions", .array [single "script_score" (single "script" script.toJson)]),
      ("boost_mode", .string "replace")]).member? "boost_mode" = some (.string "replace") :=
    member?_record [_, _] (by simp)
  have hfunctions : (record [("query", condition),
      ("functions", .array [single "script_score" (single "script" script.toJson)]),
      ("boost_mode", .string "replace")]).member? "functions"
        = some (.array [single "script_score" (single "script" script.toJson)]) :=
    member?_record [_] (by simp)
  unfold queryScore?
  simp only [h, scored, replacingScript?, hmode, hfunctions, member?_single_self, Option.bind_some]

theorem queryScore?_of_unscored {query : Json}
    (h : (unfiltered query).member? "function_score" = none) :
    queryScore? scene query = some scene.score := by
  unfold queryScore?
  rw [h]

end Scores

/-- Inside of the filters stands the script of the boost functions, if there is any. -/
theorem unfiltered_querySection {s : Search} {query : Json} (h : querySection s = .ok query) :
    ∃ script?, Script.ofBoosts s.activeBoostFunctions = .ok script? ∧
      match script? with
      | none => (unfiltered query).member? "function_score" = none
      | some script => ∃ condition, unfiltered query = scored condition script := by
  obtain ⟨clause, raised, condition, filters, hclause, hraised, hcondition, -, rfl⟩ :=
    querySection_eq_ok_iff.mp h
  obtain ⟨script?, hscript, rfl⟩ := withBoostFunctions_eq_ok_iff.mp hcondition
  have hunscored := isUnscored_withBoostQueries hraised (isUnscored_clauseCondition hclause)
  have hfilters : ∀ j, unfiltered j = j →
      unfiltered (if filters.isEmpty then j else filtered j filters) = j := by
    intro j hj
    split
    · exact hj
    · exact unfiltered_filtered j filters
  refine ⟨script?, hscript, ?_⟩
  cases script? with
  | none =>
    rw [Option.elim_none, hfilters raised hunscored.2]
    exact hunscored.1
  | some script => exact ⟨raised, hfilters _ (unfiltered_scored raised script)⟩

theorem sortScript?_of_entry {b : Json} {q : Query} {direction : SortDirection} {entry : Json}
    (hmember : b.member? "sort" = some (.array [entry]))
    (hentry : sortEntry ⟨.function q, direction⟩ = .ok entry) :
    ∃ script, Script.ofFunction q = .ok script ∧ sortScript? b = some script.toJson := by
  obtain ⟨-, script, hscript, rfl⟩ := sortEntry_function_eq_ok_iff.mp hentry
  have htype : (record [("type", .string "number"), ("script", script.toJson),
      ("order", .string direction.word)]).member? "type" = some (.string "number") :=
    member?_record [] (by simp)
  have hinner : (record [("type", .string "number"), ("script", script.toJson),
      ("order", .string direction.word)]).member? "script" = some script.toJson :=
    member?_record [_] (by simp)
  refine ⟨script, hscript, ?_⟩
  unfold sortScript?
  simp only [hmember, member?_single_self, Option.bind_some, htype, hinner]

/-! ### Functions without a weight -/

/-- Functions without a weight leave no trace in a body. -/
theorem body_drop_inactive (s : Search) :
    body { s with boostFunctions := s.activeBoostFunctions } = body s := by
  have hactive : { s with boostFunctions := s.activeBoostFunctions }.activeBoostFunctions
      = s.activeBoostFunctions := by
    simp [Search.activeBoostFunctions, List.filter_filter]
  have hquery : querySection { s with boostFunctions := s.activeBoostFunctions } = querySection s :=
    querySection_congr rfl rfl rfl rfl rfl hactive
  unfold body
  rw [hquery]
  rfl

/-! ### The request -/

theorem queryScore?_querySection {s : Search} {query : Json} (h : querySection s = .ok query)
    (hwritable : ∀ f ∈ s.activeBoostFunctions, f.isWritable = true) :
    (((unfiltered query).member? "function_score").isSome = true ↔ s.activeBoostFunctions ≠ []) ∧
      ∀ {K : Type} [DivisionRing K] (scene : Scene K), queryScore? scene query
        = some (scene.score * (1 + scene.weightedSum s.boostFunctions)) := by
  obtain ⟨script?, hscript, hunfiltered⟩ := unfiltered_querySection h
  have hempty := ofBoosts_eq_none_iff hscript
  cases script? with
  | none =>
    have hnone : s.boostFunctions.filter BoostFunction.isActive = [] := hempty.mp rfl
    refine ⟨by simp [hunfiltered, hempty.mp rfl], fun scene => ?_⟩
    rw [queryScore?_of_unscored scene hunfiltered, ← weightedSum_filter_isActive, hnone]
    simp [Scene.weightedSum]
  | some script =>
    obtain ⟨condition, hscored⟩ := hunfiltered
    have hne : s.activeBoostFunctions ≠ [] := fun hnil => by cases hempty.mpr hnil
    refine ⟨by simp [hscored, scored, member?_single_self, hne], fun scene => ?_⟩
    rw [queryScore?_of_scored scene hscored, ← weightedSum_filter_isActive]
    exact scriptValue?_ofBoosts scene hscript hwritable

/-- **The scripts of a structured request compute the intended formulas.**  Its query
    section raises the score by the weighted sum of the boost functions, its order goes by
    the value of the function in it, and functions without a weight leave no trace. -/
theorem body_scripts_compute {s : Search} {b : Json} (h : body s = .ok b)
    (hwritable : ∀ f ∈ s.activeBoostFunctions, f.isWritable = true) :
    (∃ query, b.member? "query" = some query ∧
      (((unfiltered query).member? "function_score").isSome = true ↔
        s.activeBoostFunctions ≠ []) ∧
      ∀ {K : Type} [DivisionRing K] (scene : Scene K), queryScore? scene query
        = some (scene.score * (1 + scene.weightedSum s.boostFunctions))) ∧
    (∀ q direction, s.sort = some ⟨.function q, direction⟩ → q.isWritable = true →
      ∃ script, sortScript? b = some script ∧
        ∀ {K : Type} [DivisionRing K] (scene : Scene K),
          scriptValue? scene script = some (scene.scoreOf q)) ∧
    body { s with boostFunctions := s.activeBoostFunctions } = .ok b := by
  refine ⟨?_, ?_, ?_⟩
  · obtain ⟨query, hquery, hmember⟩ := body_eq_ok h
    exact ⟨query, hmember, queryScore?_querySection hquery hwritable⟩
  · intro q direction hsort hq
    obtain ⟨entry, hentry, hmember⟩ := body_sort_eq_ok h hsort
    obtain ⟨script, hscript, hjson⟩ := sortScript?_of_entry hmember hentry
    exact ⟨script.toJson, hjson, fun scene => scriptValue?_ofFunction scene hscript hq⟩
  · rw [body_drop_inactive, h]

/-- A search with nested functions, one of them without a weight, and an order by a
    function.  A thousand and two stand out among its numbers. -/
def scoredSearch : Search :=
  { Search.ofIndex "venues" with
    clause := some (.field (.including "name" (.wordsOf "pizza")))
    filters := [.field (.including "city" (.exactly "nyc"))]
    boostFunctions := [
      ⟨.reciprocal (.distance "geo" .one .zero .arc) .one ⟨0x408F400000000000⟩ .one,
        ⟨0x4000000000000000⟩⟩,
      ⟨.phraseOf "pizza", .zero⟩,
      ⟨.reciprocal (.reciprocal (.fieldValue "popularity") .one .one .one) .one .one .one, .one⟩]
    sort := some ⟨.function (.reciprocal (.distance "geo" .one .zero .square) .one .one .one),
      .descending⟩ }

theorem body_scripts_compute_scoredSearch :
    ∃ b query script, body scoredSearch = .ok b ∧ b.member? "query" = some query ∧
      sortScript? b = some script ∧
      ∀ {K : Type} [DivisionRing K] (scene : Scene K),
        queryScore? scene query = some (scene.score *
          (1 + (2 * (1000 / (scene.arcDistance "geo" 1 0 / 1000 + 1))
            + 1 / (1 / (scene.field "popularity" + 1) + 1)))) ∧
        scriptValue? scene script
          = some (1 / ((scene.planeDistance "geo" 1 0 / 1000) ^ 2 + 1)) := by
  have hok : (body scoredSearch).toOption.isSome = true := by decide +kernel
  have hone : Scalar.one.exact = 1 := by decide +kernel
  have hzero : Scalar.zero.exact = 0 := by decide +kernel
  have htwo : (⟨0x4000000000000000⟩ : Scalar).exact = 2 := by decide +kernel
  have hthousand : (⟨0x408F400000000000⟩ : Scalar).exact = 1000 := by decide +kernel
  cases h : body scoredSearch with
  | error e =>
    rw [h] at hok
    cases hok
  | ok b =>
    obtain ⟨⟨query, hmember, -, hscore⟩, hsort, -⟩ := body_scripts_compute h (by decide)
    obtain ⟨script, hscript, hvalue⟩ := hsort _ .descending rfl (by decide)
    refine ⟨b, query, script, rfl, hmember, hscript, fun scene => ⟨?_, ?_⟩⟩
    · rw [hscore]
      simp [scoredSearch, Scene.weightedSum, Scene.scoreOf, hone, hzero, htwo, hthousand]
    · rw [hvalue]
      simp [Scene.scoreOf, hone, hzero]

end Retrieval.Structured

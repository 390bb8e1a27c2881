/-
  Retrieval/Proofs/Structured/QueryObject.lean
  ============================================
  **How the backend reads a query object.**

  A query object is a JSON object with one member, whose name is the *kind* of the
  object.  The kinds that look into documents are the leaves: which documents they match
  is left to an interpretation.  The other kinds combine:

    * `match_all` matches everything;
    * `bool` demands every `must` and `filter`, forbids every `must_not`, and asks for
      `minimum_should_match` of its `should`, which is none beside a `must` or a `filter`
      and one otherwise, unless it says so;
    * `boosting` matches what its `positive` matches, and `function_score` what its
      `query` matches.

  The rules are stated on the JSON value itself (`Matches`), so what is proved about them
  is about the request as it is sent.  The second half reads the objects that the
  structured request is put together from.
-/
import Retrieval.Structured.Body

namespace Retrieval.Structured

open Json

/-! ### The rules -/

/-- The kinds of query objects that look into documents. -/
def leafKinds : List String :=
  ["term", "terms", "match", "match_phrase", "multi_match", "range", "exists", "geo_distance"]

/-- At least `n` of the propositions hold. -/
def AtLeast : Nat → List Prop → Prop
  | 0, _ => True
  | _ + 1, [] => False
  | n + 1, p :: ps => (p ∧ AtLeast n ps) ∨ AtLeast (n + 1) ps

/-- How many of the `should` of a `bool` have to hold. -/
def shouldsNeeded (members : Dict Json) : Nat :=
  match Dict.get? members "minimum_should_match" with
  | some (.number (.natural n)) => n.toNat
  | _ =>
    if (Dict.get? members "must").isSome || (Dict.get? members "filter").isSome then 0 else 1

/-- What a member of a `bool` demands of the conditions in it.  The members that are not
    named here weigh the score. -/
def Demand (needed : Nat) (name : String) (conditions : List Prop) : Prop :=
  if name = "must" ∨ name = "filter" then ∀ p ∈ conditions, p
  else if name = "must_not" then ∀ p ∈ conditions, ¬ p
  else if name = "should" then AtLeast needed conditions
  else True

mutual

/-- Whether a query object matches, given which leaves do. -/
def Matches (leaf : Json → Prop) : Json → Prop
  | .object [(kind, body)] =>
    if kind = "match_all" then True
    else if kind ∈ leafKinds then leaf (.object [(kind, body)])
    else
      match body with
      | .object members =>
        if kind = "bool" then DemandsMet leaf (shouldsNeeded members) members
        else if kind = "boosting" then MemberMatches leaf "positive" members
        else if kind = "function_score" then MemberMatches leaf "query" members
        else False
      | _ => False
  | _ => False

/-- Whether what the members of a `bool` demand is met.  A member holds a list of
    conditions, or a single one. -/
def DemandsMet (leaf : Json → Prop) (needed : Nat) : List (String × Json) → Prop
  | [] => True
  | (name, value) :: rest =>
    (match value with
      | .array items => Demand needed name (matchEach leaf items)
      | other => Demand needed name [Matches leaf other]) ∧ DemandsMet leaf needed rest

/-- Whether the member of the given name matches. -/
def MemberMatches (leaf : Json → Prop) (name : String) : List (String × Json) → Prop
  | [] => False
  | (n, value) :: rest => (n = name ∧ Matches leaf value) ∨ MemberMatches leaf name rest

/-- Whether the query objects of a list match, one by one. -/
def matchEach (leaf : Json → Prop) : List Json → List Prop
  | [] => []
  | item :: items => Matches leaf item :: matchEach leaf items

end

attribute [local simp] DemandsMet MemberMatches matchEach

variable (leaf : Json → Prop)

theorem matchEach_eq_map (items : List Json) : matchEach leaf items = items.map (Matches leaf) := by
  induction items with
  | nil => rfl
  | cons item items ih => simp [ih]

theorem atLeast_zero (ps : List Prop) : AtLeast 0 ps := by
  cases ps <;> exact trivial

theorem atLeast_one_map_iff {α : Type} (holds : α → Prop) (items : List α) :
    AtLeast 1 (items.map holds) ↔ ∃ item ∈ items, holds item := by
  induction items with
  | nil => simp [AtLeast]
  | cons item items ih => simp [AtLeast, atLeast_zero, ih]

theorem demand_map_iff {α : Type} (needed : Nat) (name : String) (holds : α → Prop)
    (items : List α) :
    Demand needed name (items.map holds) ↔
      if name = "must" ∨ name = "filter" then ∀ item ∈ items, holds item
      else if name = "must_not" then ∀ item ∈ items, ¬ holds item
      else if name = "should" then AtLeast needed (items.map holds)
      else True := by
  unfold Demand
  rw [List.forall_mem_map, List.forall_mem_map]

theorem demand_must_singleton (needed : Nat) (p : Prop) : Demand needed "must" [p] ↔ p := by
  rw [Demand, if_pos (Or.inl rfl), List.forall_mem_singleton]

theorem demand_must_not_singleton (needed : Nat) (p : Prop) :
    Demand needed "must_not" [p] ↔ ¬ p := by
  rw [Demand, if_neg (by decide), if_pos rfl, List.forall_mem_singleton]

theorem demand_boost (needed : Nat) (conditions : List Prop) :
    Demand needed "boost" conditions := by
  simp [Demand]

theorem demand_minimum (needed : Nat) (conditions : List Prop) :
    Demand needed "minimum_should_match" conditions := by
  simp [Demand]

/-! ### The objects of the structured request -/

theorem ofEntries_singleton (entry : String × Json) : Dict.ofEntries [entry] = [entry] := rfl

theorem ofEntries_ascending {k k' : String} (h : ¬ k' < k) (hne : k' ≠ k) (v v' : Json) :
    Dict.ofEntries [(k, v), (k', v')] = [(k, v), (k', v')] :=
  (if_neg h).trans (if_neg hne)

theorem ofEntries_descending {k k' : String} (h : k' < k) (v v' : Json) :
    Dict.ofEntries [(k, v), (k', v')] = [(k', v'), (k, v)] := if_pos h

theorem memberMatches_insert_iff {name other : String} (h : other ≠ name) (value : Json)
    (members : Dict Json) :
    MemberMatches leaf name (members.insert other value) ↔ MemberMatches leaf name members := by
  induction members with
  | nil => simp [Dict.insert, h]
  | cons member rest ih =>
    obtain ⟨n, v⟩ := member
    unfold Dict.insert
    split
    · rw [MemberMatches, or_iff_right fun hmatches => h hmatches.1]
    · split
      · rename_i hn
        subst hn
        simp only [MemberMatches, h, false_and, false_or]
      · simp only [MemberMatches, ih]

/-- Members of other names do not hide the first one. -/
theorem memberMatches_first_iff {name second third : String} (hsecond : second ≠ name)
    (hthird : third ≠ name) (v v' v'' : Json) :
    MemberMatches leaf name (Dict.ofEntries [(name, v), (second, v'), (third, v'')])
      ↔ Matches leaf v := by
  have hmembers : Dict.ofEntries [(name, v), (second, v'), (third, v'')]
      = Dict.insert third v'' (Dict.insert second v' [(name, v)]) := rfl
  rw [hmembers, memberMatches_insert_iff leaf hthird, memberMatches_insert_iff leaf hsecond]
  simp

/-- A leaf is read by its interpretation. -/
theorem matches_single_leaf {kind : String} (h : kind ∈ leafKinds) (body : Json) :
    Matches leaf (single kind body) ↔ leaf (single kind body) := by
  have hkind : kind ≠ "match_all" := by
    rintro rfl
    simp [leafKinds] at h
  unfold single Matches
  rw [if_neg hkind, if_pos h]

/-- A `bool` is read member by member, in the order of the names. -/
theorem matches_combination (members : List (String × Json)) :
    Matches leaf (combination members) ↔
      DemandsMet leaf (shouldsNeeded (Dict.ofEntries members)) (Dict.ofEntries members) := by
  rw [combination, single, record, Matches]
  simp [leafKinds]

@[simp] theorem matches_matchAll : Matches leaf matchAll := by
  rw [matchAll, single, Matches, if_pos rfl]
  trivial

@[simp] theorem matches_every (conditions : List Json) :
    Matches leaf (every conditions) ↔ ∀ j ∈ conditions, Matches leaf j := by
  rw [every, matches_combination, ofEntries_singleton]
  simp [matchEach_eq_map, demand_map_iff]

@[simp] theorem matches_atLeastOne (conditions : List Json) :
    Matches leaf (atLeastOne conditions) ↔ ∃ j ∈ conditions, Matches leaf j := by
  rw [atLeastOne, matches_combination, ofEntries_descending (by decide)]
  simp [matchEach_eq_map, demand_map_iff, demand_minimum, shouldsNeeded, Dict.get?,
    natural, atLeast_one_map_iff]

@[simp] theorem matches_negated (condition : Json) :
    Matches leaf (negated condition) ↔ ¬ Matches leaf condition := by
  rw [negated, matches_combination, ofEntries_singleton]
  simp [demand_must_not_singleton]

@[simp] theorem matches_weighted (condition : Json) (weight : Scalar) :
    Matches leaf (weighted condition weight) ↔ Matches leaf condition := by
  rw [weighted, matches_combination, ofEntries_descending (by decide)]
  unfold ofScalar
  split <;> simp [demand_boost, demand_must_singleton]

/-- Preferences beside a condition are optional. -/
@[simp] theorem matches_preferring (condition : Json) (preferences : List Json) :
    Matches leaf (preferring condition preferences) ↔ Matches leaf condition := by
  rw [preferring, matches_combination, ofEntries_ascending (by decide) (by decide)]
  simp [matchEach_eq_map, demand_map_iff, demand_must_singleton,
    shouldsNeeded, Dict.get?, atLeast_zero]

@[simp] theorem matches_filtered (condition : Json) (filters : List Json) :
    Matches leaf (filtered condition filters) ↔
      Matches leaf condition ∧ ∀ j ∈ filters, Matches leaf j := by
  rw [filtered, matches_combination, ofEntries_descending (by decide)]
  simp [matchEach_eq_map, demand_map_iff, demand_must_singleton, and_comm]

@[simp] theorem matches_demoting (condition : Json) (others : List Json) :
    Matches leaf (demoting condition others) ↔ Matches leaf condition := by
  rw [demoting, single, record, Matches]
  simp [leafKinds, memberMatches_first_iff]

/-- Scripts change scores alone. -/
@[simp] theorem matches_scored (condition : Json) (script : Script) :
    Matches leaf (scored condition script) ↔ Matches leaf condition := by
  rw [scored, single, record, Matches]
  simp [leafKinds, memberMatches_first_iff]

end Retrieval.Structured

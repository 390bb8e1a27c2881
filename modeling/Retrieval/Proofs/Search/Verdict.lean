/-
  Retrieval/Proofs/Search/Verdict.lean
  ====================================
  **What a sequence of calls says about a document.**

  A document decides which field clauses hold, and with them a search has a verdict on it:
  whether its clause holds, and whether each of its filters does.

  Which tree a call leads to depends on the tree that is there already: a conjunction
  takes another clause in as a part, everything else is wrapped.  The verdict does not
  show the difference (`value_and`, `value_or`).  It can therefore be followed from call
  to call without any tree (`Verdict.after`), by one step for a call (`verdict_apply`) and
  by induction for a sequence (`verdict_applyAll`).
-/
import Retrieval.Proofs.Search.Calls

namespace Retrieval

/-! ### The value of a clause -/

namespace Clause

mutual

/-- Whether a clause holds, given which field clauses do. -/
def value (truth : FieldClause → Bool) : Clause → Bool
  | .field clause => truth clause
  | .allOf clauses => allValue truth clauses
  | .anyOf clauses => anyValue truth clauses

def allValue (truth : FieldClause → Bool) : List Clause → Bool
  | [] => true
  | c :: cs => value truth c && allValue truth cs

def anyValue (truth : FieldClause → Bool) : List Clause → Bool
  | [] => false
  | c :: cs => value truth c || anyValue truth cs

end

variable (truth : FieldClause → Bool)

theorem value_allOf (cs : List Clause) : (Clause.allOf cs).value truth = cs.all (value truth) := by
  rw [value]
  induction cs with
  | nil => rfl
  | cons c cs ih => rw [allValue, ih, List.all_cons]

theorem value_anyOf (cs : List Clause) : (Clause.anyOf cs).value truth = cs.any (value truth) := by
  rw [value]
  induction cs with
  | nil => rfl
  | cons c cs ih => rw [anyValue, ih, List.any_cons]

theorem value_and (c other : Clause) :
    (c.and other).value truth = (c.value truth && other.value truth) := by
  cases c with
  | allOf cs => simp [Clause.and, value_allOf]
  | field clause | anyOf cs => simp [Clause.and, value_allOf]

theorem value_or (c other : Clause) :
    (c.or other).value truth = (c.value truth || other.value truth) := by
  cases c with
  | anyOf cs => simp [Clause.or, value_anyOf]
  | field clause | allOf cs => simp [Clause.or, value_anyOf]

end Clause

/-! ### Verdicts -/

/-- What a search says of a document.  Without a clause there is nothing to hold. -/
structure Verdict where
  clause : Option Bool
  filters : List Bool
deriving DecidableEq, Repr

namespace Verdict

/-- The verdict of a search that says nothing. -/
def blank : Verdict := ⟨none, []⟩

/-- The verdict after one more call.  A first clause decides by itself; a later one is
    joined to what was decided before.  An alternative is offered to the last filter. -/
def after (truth : FieldClause → Bool) (v : Verdict) : Setting → Verdict
  | .and clause =>
    { v with clause := some (match v.clause with
        | none => clause.value truth
        | some earlier => earlier && clause.value truth) }
  | .or clause =>
    { v with clause := some (match v.clause with
        | none => clause.value truth
        | some earlier => earlier || clause.value truth) }
  | .filter clause => { v with filters := v.filters ++ [clause.value truth] }
  | .orFilter clause =>
    { v with filters := match v.filters.getLast? with
        | none => [clause.value truth]
        | some last => v.filters.dropLast ++ [clause.value truth || last] }
  | _ => v

end Verdict

def Search.verdict (truth : FieldClause → Bool) (s : Search) : Verdict :=
  ⟨s.clause.map (Clause.value truth), s.filters.map (Clause.value truth)⟩

namespace Setting

variable (truth : FieldClause → Bool)

theorem map_value_relaxLast (filters : List Clause) (clause : Clause) :
    (relaxLast filters clause).map (Clause.value truth) =
      match (filters.map (Clause.value truth)).getLast? with
      | none => [clause.value truth]
      | some last => (filters.map (Clause.value truth)).dropLast ++ [clause.value truth || last] := by
  unfold relaxLast
  rw [List.getLast?_map]
  cases filters.getLast? with
  | none => rfl
  | some last =>
    simp only [Option.map_some, List.map_append, List.map_dropLast, List.map_singleton]
    rw [Clause.value_anyOf]
    simp

/-- **One call.**  Whatever tree it leads to, the verdict follows. -/
theorem verdict_apply (s : Search) (x : Setting) :
    (apply s x).verdict truth = (s.verdict truth).after truth x := by
  cases x with
  | and clause =>
    cases hclause : s.clause with
    | none => simp [apply, conjoin, Search.verdict, Verdict.after, hclause]
    | some earlier =>
      simp [apply, conjoin, Search.verdict, Verdict.after, hclause, Clause.value_and]
  | or clause =>
    cases hclause : s.clause with
    | none => simp [apply, disjoin, Search.verdict, Verdict.after, hclause]
    | some earlier =>
      simp [apply, disjoin, Search.verdict, Verdict.after, hclause, Clause.value_or]
  | filter clause => simp [apply, Search.verdict, Verdict.after]
  | orFilter clause =>
    simp only [apply, Search.verdict, Verdict.after]
    rw [map_value_relaxLast]
  | _ => rfl

/-- **A sequence of calls.** -/
theorem verdict_applyAll (s : Search) (l : List Setting) :
    (applyAll s l).verdict truth = l.foldl (Verdict.after truth) (s.verdict truth) := by
  induction l generalizing s with
  | nil => rfl
  | cons x rest ih =>
    calc (applyAll (apply s x) rest).verdict truth
        = rest.foldl (Verdict.after truth) ((apply s x).verdict truth) := ih (apply s x)
      _ = rest.foldl (Verdict.after truth) ((s.verdict truth).after truth x) := by
        rw [verdict_apply]

/-! ### Calls that are always legal -/

theorem allPermitted_of_forall {l : List Setting} (h : ∀ x ∈ l, x.oneShot? = none)
    (used : List OneShot) : allPermitted used l = true := by
  induction l generalizing used with
  | nil => rfl
  | cons x rest ih =>
    obtain ⟨hx, hrest⟩ := List.forall_mem_cons.mp h
    have hexcluded : x.excludedBy = [] := by
      cases x <;> first | rfl | cases hx
    rw [allPermitted, isPermitted, hexcluded, ih hrest]
    rfl

end Setting

namespace Builder

/-- **What the clause and the filters mean.**  Calls about the clause and the filters can be
    made in any order.  Whatever else is called in between, the clause holds of a document
    if the calls about it, joined from left to right, do, and each filter holds if its
    alternatives do.  The clause is the one of the calls about the clause alone, and the
    filters are the ones of the calls about filters alone. -/
theorem verdict_follows_calls (index : String) (l : List Setting) :
    ((∀ x ∈ l, x.part = .clause ∨ x.part = .filters) →
      ∃ b : Builder Document, b.MadeBy index l) ∧
    ∀ {α : Type} {b : Builder α}, b.MadeBy index l →
      (∀ truth, b.search.verdict truth = l.foldl (Verdict.after truth) .blank) ∧
      b.search.clause =
        (Setting.applyAll (.ofIndex index) (l.filter fun x => x.part = .clause)).clause ∧
      b.search.filters =
        (Setting.applyAll (.ofIndex index) (l.filter fun x => x.part = .filters)).filters := by
  constructor
  · intro h
    apply exists_madeBy
    apply Setting.allPermitted_of_forall
    intro x hx
    rw [Setting.oneShot?_eq]
    rcases h x hx with hpart | hpart
    · rw [hpart]
      rfl
    · rw [hpart]
      rfl
  · intro α b hb
    rw [hb.records.search]
    refine ⟨fun truth => ?_, ?_, ?_⟩
    · rw [Setting.verdict_applyAll]
      rfl
    · exact Setting.get_applyAll_filter .clause (.ofIndex index) l
    · exact Setting.get_applyAll_filter .filters (.ofIndex index) l

/-- A disjunction that takes one clause in and is wrapped by the next, and a filter that
    nothing meets until it gets an alternative. -/
def alternatingCalls : List Setting :=
  [.orFilter (.anyOf []),
   .and (.anyOf [.field (.including "name" .splat), .allOf []]),
   .or (.field (.excluding "city" .splat)),
   .and (.field (.including "city" .splat)),
   .orFilter (.allOf []),
   .filter (.field (.including "name" .splat))]

theorem verdict_follows_calls_alternating :
    ∃ b : Builder Document, b.MadeBy "venues" alternatingCalls ∧
      b.search.clause = some (.allOf [
        .anyOf [.field (.including "name" .splat), .allOf [], .field (.excluding "city" .splat)],
        .field (.including "city" .splat)]) ∧
      b.search.verdict (fun clause => clause.fieldName == "city") = ⟨some true, [true, false]⟩ := by
  obtain ⟨hlegal, hverdict⟩ := verdict_follows_calls "venues" alternatingCalls
  obtain ⟨b, hb⟩ := hlegal (by decide)
  obtain ⟨hvalues, hclause, -⟩ := hverdict hb
  refine ⟨b, hb, ?_, ?_⟩
  · rw [hclause]
    decide
  · rw [hvalues]
    decide

end Builder

end Retrieval

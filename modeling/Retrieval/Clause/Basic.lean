/-
  Retrieval/Clause/Basic.lean
  ===========================
  **Clauses: conditions on fields and their combinations.**

  A field clause matches one field against an expression, or demands that it does not
  match.  Clauses combine by AND and OR into trees of any shape.

  An empty field name does not name a field.  It stands for the fields that a request
  searches by default.
-/
import Retrieval.Query.Basic

namespace Retrieval

/-- A condition on one field. -/
structure FieldClause where
  /-- The field, or the empty text for the default fields. -/
  fieldName : String
  /-- What the field is matched against. -/
  query : Query
  /-- Whether the field must match.  Otherwise it must not. -/
  included : Bool
deriving DecidableEq

namespace FieldClause

def including (fieldName : String) (query : Query) : FieldClause := ⟨fieldName, query, true⟩

def excluding (fieldName : String) (query : Query) : FieldClause := ⟨fieldName, query, false⟩

/-- Whether the clause is about the default fields. -/
def isUnscoped (clause : FieldClause) : Bool := clause.fieldName.isEmpty

def flip (clause : FieldClause) : FieldClause := { clause with included := !clause.included }

end FieldClause

/-- A tree of conditions. -/
inductive Clause where
  /-- A condition on one field. -/
  | field (clause : FieldClause)
  /-- Every part holds. -/
  | allOf (clauses : List Clause)
  /-- At least one part holds. -/
  | anyOf (clauses : List Clause)

namespace Clause

/-! ### Equality -/

mutual

def same : Clause → Clause → Bool
  | .field c, .field c' => decide (c = c')
  | .allOf cs, .allOf cs' => sameAll cs cs'
  | .anyOf cs, .anyOf cs' => sameAll cs cs'
  | _, _ => false

/-- Whether two lists hold the same trees in the same order. -/
def sameAll : List Clause → List Clause → Bool
  | [], [] => true
  | c :: cs, c' :: cs' => same c c' && sameAll cs cs'
  | _, _ => false

end

mutual

theorem same_refl : (c : Clause) → same c c = true
  | .field _ => by simp [same]
  | .allOf cs | .anyOf cs => by simp [same, sameAll_refl cs]

theorem sameAll_refl : (cs : List Clause) → sameAll cs cs = true
  | [] => rfl
  | c :: cs => by simp [sameAll, same_refl c, sameAll_refl cs]

end

mutual

theorem eq_of_same : (c d : Clause) → same c d = true → c = d
  | .field .., d, h => by cases d <;> simp_all [same]
  | .allOf cs, d, h => by
    cases d <;> simp only [same, Bool.false_eq_true] at h
    rw [eq_of_sameAll cs _ h]
  | .anyOf cs, d, h => by
    cases d <;> simp only [same, Bool.false_eq_true] at h
    rw [eq_of_sameAll cs _ h]

theorem eq_of_sameAll : (cs ds : List Clause) → sameAll cs ds = true → cs = ds
  | [], ds, h => by cases ds <;> simp_all [sameAll]
  | c :: cs, ds, h => by
    cases ds <;> simp only [sameAll, Bool.and_eq_true, Bool.false_eq_true] at h
    rw [eq_of_same c _ h.1, eq_of_sameAll cs _ h.2]

end

instance : DecidableEq Clause := fun c d =>
  if h : same c d = true then isTrue (eq_of_same c d h)
  else isFalse fun e => h (e ▸ same_refl c)

/-! ### Combination -/

/-- Both clauses hold.  A conjunction takes the other clause in as its last part. -/
def and (clause other : Clause) : Clause :=
  match clause with
  | .allOf clauses => .allOf (clauses ++ [other])
  | clause => .allOf [clause, other]

/-- At least one of the clauses holds.  A disjunction takes the other clause in as its
    last part. -/
def or (clause other : Clause) : Clause :=
  match clause with
  | .anyOf clauses => .anyOf (clauses ++ [other])
  | clause => .anyOf [clause, other]

/-- Negate a field clause.  Combinations stay as they are. -/
def negate : Clause → Clause
  | .field clause => .field clause.flip
  | clause => clause

mutual

/-- The complement of a whole tree: field clauses flip, and AND and OR change places. -/
def complement : Clause → Clause
  | .field clause => .field clause.flip
  | .allOf clauses => .anyOf (complementAll clauses)
  | .anyOf clauses => .allOf (complementAll clauses)

def complementAll : List Clause → List Clause
  | [] => []
  | c :: cs => complement c :: complementAll cs

end

/-- Boost the expression of a field clause.  Combinations stay as they are. -/
def boost (clause : Clause) (weight : Scalar) : Clause :=
  match clause with
  | .field c => .field { c with query := .boost c.query weight }
  | clause => clause

mutual

/-- Take escaping off the expressions of a tree. -/
def unescaped : Clause → Clause
  | .field clause => .field { clause with query := clause.query.unescaped }
  | .allOf clauses => .allOf (unescapedAll clauses)
  | .anyOf clauses => .anyOf (unescapedAll clauses)

/-- Take escaping off every member of a list. -/
def unescapedAll : List Clause → List Clause
  | [] => []
  | c :: cs => unescaped c :: unescapedAll cs

end

/-! ### Inspection -/

mutual

/-- Whether some field clause of the tree is negated. -/
def hasNegation : Clause → Bool
  | .field clause => !clause.included
  | .allOf clauses => anyNegation clauses
  | .anyOf clauses => anyNegation clauses

/-- Whether some field clause of a list is negated. -/
def anyNegation : List Clause → Bool
  | [] => false
  | c :: cs => hasNegation c || anyNegation cs

end

mutual

/-- The names in `seen`, followed by the field names of the tree that are new. -/
def collectNames (seen : List String) : Clause → List String
  | .field clause =>
    if clause.isUnscoped || seen.contains clause.fieldName then seen
    else seen ++ [clause.fieldName]
  | .allOf clauses => collectAllNames seen clauses
  | .anyOf clauses => collectAllNames seen clauses

/-- The names in `seen`, followed by the field names of a list that are new. -/
def collectAllNames (seen : List String) : List Clause → List String
  | [] => seen
  | c :: cs => collectAllNames (collectNames seen c) cs

end

/-- The named fields of the tree, in the order in which they are first met. -/
def fieldNames (clause : Clause) : List String := collectNames [] clause

end Clause

end Retrieval

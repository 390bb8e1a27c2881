/-
  Retrieval/Query/Basic.lean
  ==========================
  **Query expressions.**

  An expression says what a field is matched against, or how a document is scored.
  It is a small tree that knows nothing about either request syntax: the flat and the
  structured request each have their own rendering of the same tree.

  Leaves that hold caller text carry a flag `escaped`.  While it is set, the flat
  rendering protects every character of the text that has a meaning there.

  Three constructors are *scoring functions* (`isFunction`): a distance, the value of
  a field and a reciprocal.  They compute a number and match nothing.
-/
import Retrieval.Scalar

namespace Retrieval

/-- How a distance between two points is measured. -/
inductive DistanceShape where
  /-- Along the great circle. -/
  | arc
  /-- Squared in the plane, which is cheaper and good enough for ranking. -/
  | square
deriving DecidableEq, Repr

/-- A query expression. -/
inductive Query where
  /-- Matches everything.  As the end of a range it leaves that side open. -/
  | splat
  /-- One of several values, each matched as it stands. -/
  | term (values : List String) (escaped : Bool)
  /-- The words of a text, one after the other. -/
  | phrase (value : String) (escaped : Bool)
  /-- Any of the words of a text. -/
  | words (value : String) (escaped : Bool)
  /-- An explicit grouping. -/
  | group (query : Query)
  /-- Multiplies the relevance of an expression. -/
  | boost (query : Query) (weight : Scalar)
  /-- A range that includes its ends. -/
  | range (low high : Query)
  /-- Every part matches. -/
  | allOf (queries : List Query)
  /-- At least one part matches. -/
  | anyOf (queries : List Query)
  /-- The distance between the point in a field and a fixed point. -/
  | distance (field : String) (lat lng : Scalar) (shape : DistanceShape)
  /-- The reciprocal function `y / (x * query + z)`. -/
  | reciprocal (query : Query) (x y z : Scalar)
  /-- The number in a field. -/
  | fieldValue (field : String)

namespace Query

/-! ### Equality -/

mutual

/-- Whether two expressions are the same tree. -/
def same : Query → Query → Bool
  | .splat, .splat => true
  | .term vs e, .term vs' e' => vs == vs' && e == e'
  | .phrase v e, .phrase v' e' => v == v' && e == e'
  | .words v e, .words v' e' => v == v' && e == e'
  | .group q, .group q' => same q q'
  | .boost q w, .boost q' w' => same q q' && decide (w = w')
  | .range l h, .range l' h' => same l l' && same h h'
  | .allOf qs, .allOf qs' => sameAll qs qs'
  | .anyOf qs, .anyOf qs' => sameAll qs qs'
  | .distance f a b s, .distance f' a' b' s' =>
    f == f' && decide (a = a') && decide (b = b') && decide (s = s')
  | .reciprocal q x y z, .reciprocal q' x' y' z' =>
    same q q' && decide (x = x') && decide (y = y') && decide (z = z')
  | .fieldValue f, .fieldValue f' => f == f'
  | _, _ => false

/-- Whether two lists hold the same trees in the same order. -/
def sameAll : List Query → List Query → Bool
  | [], [] => true
  | q :: qs, q' :: qs' => same q q' && sameAll qs qs'
  | _, _ => false

end

mutual

theorem same_refl : (q : Query) → same q q = true
  | .splat | .term .. | .phrase .. | .words .. | .distance .. | .fieldValue .. => by simp [same]
  | .group q | .boost q _ | .reciprocal q .. => by simp [same, same_refl q]
  | .range l h => by simp [same, same_refl l, same_refl h]
  | .allOf qs | .anyOf qs => by simp [same, sameAll_refl qs]

theorem sameAll_refl : (qs : List Query) → sameAll qs qs = true
  | [] => rfl
  | q :: qs => by simp [sameAll, same_refl q, sameAll_refl qs]

end

mutual

theorem eq_of_same : (q r : Query) → same q r = true → q = r
  | .splat, r, h => by cases r <;> simp_all [same]
  | .term .., r, h => by cases r <;> simp_all [same]
  | .phrase .., r, h => by cases r <;> simp_all [same]
  | .words .., r, h => by cases r <;> simp_all [same]
  | .distance .., r, h => by cases r <;> simp_all [same]
  | .fieldValue .., r, h => by cases r <;> simp_all [same]
  | .group q, r, h => by
    cases r <;> simp only [same, Bool.false_eq_true] at h
    rw [eq_of_same q _ h]
  | .boost q w, r, h => by
    cases r <;> simp only [same, Bool.and_eq_true, decide_eq_true_eq, Bool.false_eq_true] at h
    rw [eq_of_same q _ h.1, h.2]
  | .range l u, r, h => by
    cases r <;> simp only [same, Bool.and_eq_true, Bool.false_eq_true] at h
    rw [eq_of_same l _ h.1, eq_of_same u _ h.2]
  | .allOf qs, r, h => by
    cases r <;> simp only [same, Bool.false_eq_true] at h
    rw [eq_of_sameAll qs _ h]
  | .anyOf qs, r, h => by
    cases r <;> simp only [same, Bool.false_eq_true] at h
    rw [eq_of_sameAll qs _ h]
  | .reciprocal q x y z, r, h => by
    cases r <;> simp only [same, Bool.and_eq_true, decide_eq_true_eq, Bool.false_eq_true] at h
    rw [eq_of_same q _ h.1.1.1, h.1.1.2, h.1.2, h.2]

theorem eq_of_sameAll : (qs rs : List Query) → sameAll qs rs = true → qs = rs
  | [], rs, h => by cases rs <;> simp_all [sameAll]
  | q :: qs, rs, h => by
    cases rs <;> simp only [sameAll, Bool.and_eq_true, Bool.false_eq_true] at h
    rw [eq_of_same q _ h.1, eq_of_sameAll qs _ h.2]

end

instance : DecidableEq Query := fun q r =>
  if h : same q r = true then isTrue (eq_of_same q r h)
  else isFalse fun e => h (e ▸ same_refl q)

/-! ### Construction -/

def exactly (value : String) : Query := .term [value] true

def oneOf (values : List String) : Query := .term values true

def phraseOf (value : String) : Query := .phrase value true

/-- Any of the words of a text, with escaping. -/
def wordsOf (value : String) : Query := .words value true

/-- The great-circle distance between the point in a field and a fixed point. -/
def distanceTo (field : String) (lat lng : Scalar) : Query := .distance field lat lng .arc

/-! ### Operations -/

mutual

/-- Take escaping off the values, phrases and words.  The operands of a scoring function
    are left as they are. -/
def unescaped : Query → Query
  | .term values _ => .term values false
  | .phrase value _ => .phrase value false
  | .words value _ => .words value false
  | .group q => .group (unescaped q)
  | .boost q w => .boost (unescaped q) w
  | .range l h => .range (unescaped l) (unescaped h)
  | .allOf qs => .allOf (unescapedAll qs)
  | .anyOf qs => .anyOf (unescapedAll qs)
  | q => q

/-- Take escaping off every member of a list. -/
def unescapedAll : List Query → List Query
  | [] => []
  | q :: qs => unescaped q :: unescapedAll qs

end

/-- Whether the expression computes a score instead of matching. -/
def isFunction : Query → Bool
  | .distance .. | .reciprocal .. | .fieldValue _ => true
  | _ => false

def isGroup : Query → Bool
  | .group _ => true
  | _ => false

/-- The expression inside any number of groupings. -/
def ungrouped : Query → Query
  | .group q => ungrouped q
  | q => q

end Query

end Retrieval

/-
  Retrieval/Proofs/Flat/Preservation.lean
  =======================================
  **Query strings say what their clauses say.**

  The conditions that typed fields make stay together behind the name of the field
  (`Covered`), and every operation on clauses keeps them so.  The text of a tree of such
  conditions closes what it opens, and a reader who knows nothing of the tree reads
  from the text what the tree means, whatever values the caller put into it.
-/
import Retrieval.Proofs.Denotation
import Retrieval.Proofs.Flat.Reading
import Retrieval.Proofs.Flat.Units
import Retrieval.Schema.Field

namespace Retrieval

/-! ### Trees over conditions -/

namespace Clause

/-- The tree has no combination without parts. -/
inductive Populated : Clause → Prop
  | field (c : FieldClause) : Populated (.field c)
  | allOf {cs : List Clause} : cs ≠ [] → (∀ c ∈ cs, Populated c) → Populated (.allOf cs)
  | anyOf {cs : List Clause} : cs ≠ [] → (∀ c ∈ cs, Populated c) → Populated (.anyOf cs)

/-- Every condition of the tree satisfies `P`. -/
inductive Over (P : FieldClause → Prop) : Clause → Prop
  | field {c : FieldClause} : P c → Over P (.field c)
  | allOf {cs : List Clause} : (∀ c ∈ cs, Over P c) → Over P (.allOf cs)
  | anyOf {cs : List Clause} : (∀ c ∈ cs, Over P c) → Over P (.anyOf cs)

variable {P : FieldClause → Prop} {c d : Clause}

theorem over_field_iff {clause : FieldClause} : (Clause.field clause).Over P ↔ P clause := by
  refine ⟨fun h => ?_, .field⟩
  cases h with
  | field h => exact h

theorem over_allOf_iff {cs : List Clause} : (Clause.allOf cs).Over P ↔ ∀ c ∈ cs, c.Over P := by
  refine ⟨fun h => ?_, .allOf⟩
  cases h with
  | allOf h => exact h

theorem over_anyOf_iff {cs : List Clause} : (Clause.anyOf cs).Over P ↔ ∀ c ∈ cs, c.Over P := by
  refine ⟨fun h => ?_, .anyOf⟩
  cases h with
  | anyOf h => exact h

theorem Over.snoc {cs : List Clause} (hcs : ∀ c ∈ cs, Over P c) (hd : Over P d) :
    ∀ c ∈ cs ++ [d], Over P c :=
  List.forall_mem_append.mpr ⟨hcs, List.forall_mem_singleton.mpr hd⟩

theorem Over.and (hc : Over P c) (hd : Over P d) : Over P (c.and d) := by
  cases hc with
  | allOf hcs => exact .allOf (Over.snoc hcs hd)
  | field hc => exact .allOf (Over.snoc (List.forall_mem_singleton.mpr (.field hc)) hd)
  | anyOf hcs => exact .allOf (Over.snoc (List.forall_mem_singleton.mpr (.anyOf hcs)) hd)

theorem Over.or (hc : Over P c) (hd : Over P d) : Over P (c.or d) := by
  cases hc with
  | anyOf hcs => exact .anyOf (Over.snoc hcs hd)
  | field hc => exact .anyOf (Over.snoc (List.forall_mem_singleton.mpr (.field hc)) hd)
  | allOf hcs => exact .anyOf (Over.snoc (List.forall_mem_singleton.mpr (.allOf hcs)) hd)

theorem Over.negate (hP : ∀ c, P c → P c.flip) (hc : Over P c) : Over P c.negate := by
  cases hc with
  | field hc => exact .field (hP _ hc)
  | allOf hcs => exact .allOf hcs
  | anyOf hcs => exact .anyOf hcs

theorem Over.complement (hP : ∀ c, P c → P c.flip) (hc : Over P c) : Over P c.complement := by
  induction hc with
  | field hc => exact .field (hP _ hc)
  | allOf _ ih =>
    rw [Clause.complement, complementAll_eq_map]
    exact .anyOf (List.forall_mem_map.mpr ih)
  | anyOf _ ih =>
    rw [Clause.complement, complementAll_eq_map]
    exact .allOf (List.forall_mem_map.mpr ih)

theorem Over.boost {weight : Scalar} (hP : ∀ c, P c → P { c with query := .boost c.query weight })
    (hc : Over P c) : Over P (c.boost weight) := by
  cases hc with
  | field hc => exact .field (hP _ hc)
  | allOf hcs => exact .allOf hcs
  | anyOf hcs => exact .anyOf hcs

end Clause

namespace Flat

open Clause Cursor Text

/-! ### Conditions of typed fields -/

/-- The conditions that typed fields with usable names make. -/
inductive Typed : Clause → Prop
  | eqs {α : Type} [Matchable α] {f : Field α} (value : α) :
    UsableName f.queryName → Typed (f.eqs value)
  | neqs {α : Type} [Matchable α] {f : Field α} (value : α) :
    UsableName f.queryName → Typed (f.neqs value)
  | inList {α : Type} [Matchable α] {f : Field α} (values : List α) :
    UsableName f.queryName → Typed (f.inList values)
  | notInList {α : Type} [Matchable α] {f : Field α} (values : List α) :
    UsableName f.queryName → Typed (f.notInList values)
  | atMost {α : Type} [Matchable α] {f : Field α} (value : α) :
    UsableName f.queryName → Typed (f.atMost value)
  | atLeast {α : Type} [Matchable α] {f : Field α} (value : α) :
    UsableName f.queryName → Typed (f.atLeast value)
  | inRange {α : Type} [Matchable α] {f : Field α} (low high : α) :
    UsableName f.queryName → Typed (f.inRange low high)
  | hasValue {α : Type} {f : Field α} : UsableName f.queryName → Typed f.hasValue
  | anything {α : Type} {f : Field α} : UsableName f.queryName → Typed f.anything
  | containsAny {f : Field String} (text : String) :
    UsableName f.queryName → Typed (f.containsAny text)
  | containsPhrase {f : Field String} (text : String) :
    UsableName f.queryName → Typed (f.containsPhrase text)
  | inCells {f : Field GeoPoint} (cells : List String) :
    UsableName f.queryName → Typed (f.inCells cells)

/-- The clauses that are made from conditions of typed fields. -/
inductive Composed : Clause → Prop
  | typed {c : Clause} : Typed c → Composed c
  | allOf {cs : List Clause} : (∀ c ∈ cs, Composed c) → Composed (.allOf cs)
  | anyOf {cs : List Clause} : (∀ c ∈ cs, Composed c) → Composed (.anyOf cs)
  | and {c d : Clause} : Composed c → Composed d → Composed (c.and d)
  | or {c d : Clause} : Composed c → Composed d → Composed (c.or d)
  | negate {c : Clause} : Composed c → Composed c.negate
  | complement {c : Clause} : Composed c → Composed c.complement
  | boost {c : Clause} (weight : Scalar) : Composed c → Composed (c.boost weight)

/-- A condition whose expression stays together behind a usable name. -/
structure Covered (c : FieldClause) : Prop where
  usable : UsableName c.fieldName
  escaped : Escaped c.query
  together : c.query.staysTogether = true

theorem Covered.flip {c : FieldClause} (h : Covered c) : Covered c.flip :=
  ⟨h.usable, h.escaped, h.together⟩

theorem Covered.boost {c : FieldClause} (weight : Scalar) (h : Covered c) :
    Covered { c with query := .boost c.query weight } :=
  ⟨h.usable, h.escaped.boost weight, rfl⟩

section Field

variable {α : Type} {f : Field α} (hf : UsableName f.queryName)
include hf

theorem covered_group {q : Query} (hq : Escaped q) (included : Bool) :
    Over Covered (.field ⟨f.queryName, .group q, included⟩) :=
  .field ⟨hf, .group hq, rfl⟩

theorem covered_range {low high : Query} (hlow : Escaped low) (hhigh : Escaped high) :
    Over Covered (f.matching (.range low high)) :=
  .field ⟨hf, .range hlow hhigh, rfl⟩

theorem covered_splat : Over Covered (f.matching .splat) := .field ⟨hf, .splat, rfl⟩

theorem covered_anyLeaf (tokens : List String) (included : Bool) :
    Over Covered (.field ⟨f.queryName, f.anyLeaf tokens, included⟩) := by
  unfold Field.anyLeaf
  split
  · exact covered_group hf (.term _) included
  · split
    · refine covered_group hf (.anyOf (List.forall_mem_map.mpr fun token _ => ?_)) included
      exact .phrase token
    · exact covered_group hf (.term _) included

end Field

theorem escaped_leaf {α : Type} (f : Field α) (token : String) : Escaped (f.leaf token) := by
  unfold Field.leaf
  split
  · exact .phrase token
  · exact .term _

theorem Typed.covered {c : Clause} (h : Typed c) : Over Covered c := by
  cases h with
  | eqs value hf => exact covered_group hf (escaped_leaf _ _) true
  | neqs value hf => exact covered_group hf (escaped_leaf _ _) false
  | inList values hf => exact covered_anyLeaf hf _ true
  | notInList values hf => exact covered_anyLeaf hf _ false
  | atMost value hf => exact covered_range hf .splat (.term _)
  | atLeast value hf => exact covered_range hf (.term _) .splat
  | inRange low high hf => exact covered_range hf (.term _) (.term _)
  | hasValue hf => exact covered_range hf .splat .splat
  | anything hf => exact covered_splat hf
  | containsAny text hf =>
    refine covered_group hf ?_ true
    split
    · exact .words text
    · exact .term _
  | containsPhrase text hf => exact covered_group hf (.phrase text) true
  | inCells cells hf =>
    unfold Field.inCells
    split
    · exact covered_splat hf
    · exact covered_group hf (.term cells) true

theorem Composed.covered {c : Clause} (h : Composed c) : Over Covered c := by
  induction h with
  | typed h => exact h.covered
  | allOf _ ih => exact .allOf ih
  | anyOf _ ih => exact .anyOf ih
  | and _ _ ihc ihd => exact ihc.and ihd
  | or _ _ ihc ihd => exact ihc.or ihd
  | negate _ ih => exact ih.negate fun _ h => h.flip
  | complement _ ih => exact ih.complement fun _ h => h.flip
  | boost weight _ ih => exact ih.boost fun _ h => h.boost weight

/-! ### Reading clauses back -/

/-- Whether a condition holds, given which atoms do. -/
def AtomHolds (holds : List Char → Prop) (name : String) (q : Query) : Prop :=
  holds (scopedChars name (queryChars q))

/-- The text of the clause is balanced, cannot be mistaken for a negation and says what
    the clause says. -/
structure Legible (holds : List Char → Prop) (c : Clause) : Prop where
  balanced : Balanced (clauseChars c)
  head : (clauseChars c).head? ≠ some '*'
  reads : Reads holds (clauseChars c) ↔ c.Holds (AtomHolds holds)

theorem partsChars_eq_map (cs : List Clause) :
    partsChars cs = (cs.map clauseChars).map grouped := by
  induction cs with
  | nil => rfl
  | cons c cs ih => rw [partsChars, ih, List.map_cons, List.map_cons]

variable {holds : List Char → Prop}

/-- A name, its colon and what it covers form one solid text. -/
theorem Covered.solid {c : FieldClause} (h : Covered c) :
    Solid (scopedChars c.fieldName (queryChars c.query)) := by
  have hname : Solid c.fieldName.toList :=
    ((protected_of_forall h.usable.breaksToken_eq_false).mono upsets_breaksToken).solid
  have hcolon : Solid [':'] := solid_of_any_eq_false (by decide) (by decide)
  have hunit : IsUnit (queryChars c.query) := h.escaped.isUnit_iff.mpr h.together
  rw [scopedChars_of_ne h.usable.1]
  exact hname.append (hcolon.append hunit.solid)

/-- The text of a condition does not begin like a group or a negation. -/
theorem Covered.head_ne {c : FieldClause} (h : Covered c) {special : Char}
    (hspecial : breaksToken special = true) :
    (scopedChars c.fieldName (queryChars c.query)).head? ≠ some special := by
  have hname : c.fieldName.toList ≠ [] := fun hnil => h.usable.1 (String.toList_eq_nil_iff.mp hnil)
  obtain ⟨first, rest, hfirst⟩ := List.exists_cons_of_ne_nil hname
  have hplain := h.usable.breaksToken_eq_false first (hfirst ▸ List.mem_cons_self)
  rw [scopedChars_of_ne h.usable.1, hfirst]
  intro hhead
  obtain rfl := Option.some.inj hhead
  rw [hspecial] at hplain
  cases hplain

theorem Covered.legible {c : FieldClause} (h : Covered c) : Legible holds (.field c) := by
  have hatom : Reads holds (scopedChars c.fieldName (queryChars c.query))
      ↔ AtomHolds holds c.fieldName c.query :=
    reads_solid_iff holds h.solid (h.head_ne (by decide))
  have hstar := @Covered.head_ne c h '*' (by decide)
  have hbalanced := h.solid.1
  obtain ⟨name, q, included⟩ := c
  cases included with
  | true => exact ⟨hbalanced, hstar, hatom⟩
  | false =>
    refine ⟨balanced_grouped (Balanced.append (by decide) hbalanced), ?_, ?_⟩
    · intro hhead
      cases hhead
    · exact (reads_negated_iff holds hbalanced).trans (not_congr hatom)

theorem Legible.reads_grouped {c : Clause} (h : Legible holds c) :
    Reads holds (grouped (clauseChars c)) ↔ c.Holds (AtomHolds holds) :=
  (reads_grouped_iff holds h.balanced h.head).trans h.reads

section Parts

variable {cs : List Clause} (hne : cs ≠ []) (h : ∀ c ∈ cs, Legible holds c)
include hne h

/-- The text of a combination is balanced and begins with a group. -/
theorem combination_chars (word : List Char) (hword : Balanced word) :
    Balanced (joined word (partsChars cs)) ∧
      (joined word (partsChars cs)).head? ≠ some '*' := by
  rw [partsChars_eq_map]
  constructor
  · refine balanced_joined hword (List.forall_mem_map.mpr ?_)
    refine List.forall_mem_map.mpr fun c hc => ?_
    exact balanced_grouped (h c hc).balanced
  · obtain ⟨c, rest, rfl⟩ := List.exists_cons_of_ne_nil hne
    obtain ⟨tail, htail⟩ := joined_grouped_eq_cons word (clauseChars c) (rest.map clauseChars)
    rw [List.map_cons, htail, List.head?_cons]
    decide

theorem legible_allOf : Legible holds (.allOf cs) := by
  obtain ⟨hbalanced, hhead⟩ := combination_chars hne h andWord (by decide)
  refine ⟨hbalanced, hhead, ?_⟩
  rw [clauseChars, partsChars_eq_map, reads_joined_and_iff holds, holds_allOf]
  · rw [List.forall_mem_map]
    exact forall₂_congr fun c hc => (h c hc).reads_grouped
  · exact List.forall_mem_map.mpr fun c hc => (h c hc).balanced
  · exact fun hnil => hne (List.map_eq_nil_iff.mp hnil)

theorem legible_anyOf : Legible holds (.anyOf cs) := by
  obtain ⟨hbalanced, hhead⟩ := combination_chars hne h orWord (by decide)
  refine ⟨hbalanced, hhead, ?_⟩
  rw [clauseChars, partsChars_eq_map, reads_joined_or_iff holds, holds_anyOf]
  · constructor
    · rintro ⟨text, htext, hreads⟩
      obtain ⟨c, hc, rfl⟩ := List.mem_map.mp htext
      exact ⟨c, hc, (h c hc).reads_grouped.mp hreads⟩
    · rintro ⟨c, hc, hholds⟩
      exact ⟨clauseChars c, List.mem_map_of_mem hc, (h c hc).reads_grouped.mpr hholds⟩
  · exact List.forall_mem_map.mpr fun c hc => (h c hc).balanced
  · exact fun hnil => hne (List.map_eq_nil_iff.mp hnil)

end Parts

theorem legible_of_covered {c : Clause} (hc : Over Covered c) (hpopulated : Populated c) :
    Legible holds c := by
  induction hc with
  | field hc => exact hc.legible
  | allOf _ ih =>
    cases hpopulated with
    | allOf hne hparts => exact legible_allOf hne fun c hc => ih c hc (hparts c hc)
  | anyOf _ ih =>
    cases hpopulated with
    | anyOf hne hparts => exact legible_anyOf hne fun c hc => ih c hc (hparts c hc)

/-- **Query strings preserve clauses.**  The text of a clause that is made from typed
    conditions closes what it opens, and under every assignment of truth to its atoms
    it is read as the clause itself. -/
theorem clauseText_reads_iff {c : Clause} (hc : Composed c) (hpopulated : Populated c)
    (holds : List Char → Prop) :
    Balanced (clauseText c).toList ∧
      (Reads holds (clauseText c).toList ↔ c.Holds (AtomHolds holds)) := by
  have hlegible : Legible holds c := legible_of_covered hc.covered hpopulated
  rw [clauseText, String.toList_ofList]
  exact ⟨hlegible.balanced, hlegible.reads⟩

/-- A clause whose first value is full of syntax. -/
def hostileClause : Clause :=
  ((Field.keyword "name").eqs "x) OR (\"y").or ((Field.keyword "kind").neqs "z")

theorem clauseText_reads_iff_hostileClause :
    Composed hostileClause ∧ Populated hostileClause ∧
      Balanced (clauseText hostileClause).toList ∧
      (Reads (· = "kind:(z)".toList) (clauseText hostileClause).toList
        ↔ hostileClause.Holds (AtomHolds (· = "kind:(z)".toList))) := by
  have hcomposed : Composed hostileClause :=
    .or (.typed (.eqs _ (by decide))) (.typed (.neqs _ (by decide)))
  have hpopulated : Populated hostileClause :=
    .anyOf (List.cons_ne_nil _ _)
      (List.forall_mem_cons.mpr ⟨.field _, List.forall_mem_singleton.mpr (.field _)⟩)
  exact ⟨hcomposed, hpopulated, clauseText_reads_iff hcomposed hpopulated _⟩

end Flat

end Retrieval

/-
  Retrieval/Proofs/Declarations.lean
  ==================================
  **What a schema knows after a run of declarations.**

  A schema keeps its descriptors twice: a dictionary finds them by name, a list of names puts
  them in order.  The listing passes over a name that the dictionary does not have, so a schema
  whose two halves disagreed would lose fields in silence.  They never disagree.  `Holds` says
  that both halves tell of the same descriptors, a declaration keeps this (`Holds.enter` if it
  is accepted, and nothing changes if it is refused), and a run of declarations leads to the
  descriptors that were accepted (`Holds.declareAll`).
-/
import Retrieval.Proofs.Dict
import Retrieval.Schema.Basic
import Mathlib.Data.List.Basic

namespace Retrieval

/-- A field together with the type of the values that its clauses take. -/
abbrev AnyField : Type 1 := (α : Type) × Field α

namespace Schema

variable {α : Type} {s : Schema} {descriptors : List FieldDescriptor} {d : FieldDescriptor}
  {name : String}

/-! ### Runs -/

/-- The schema after a run of declarations, which goes on whatever comes of each. -/
def declareAll (s : Schema) (fields : List AnyField) : Schema :=
  fields.foldl (fun s field => (s.declare field.2).2) s

/-- The descriptors of those declarations of a run that succeed. -/
def accepted (s : Schema) : List AnyField → List FieldDescriptor
  | [] => []
  | field :: rest =>
    match s.declare field.2 with
    | (.ok (), extended) => field.2.descriptor :: extended.accepted rest
    | (.error _, unchanged) => unchanged.accepted rest

/-- Whatever a declaration can do: a field without a name and a field whose name is taken are
    refused, any other is entered. -/
theorem declare_cases (s : Schema) (field : Field α) :
    field.name = "" ∧ s.declare field = (.error (.schema .emptyName), s) ∨
      (s.descriptor? field.name).isSome ∧
        s.declare field = (.error (.schema (.duplicateName field.name)), s) ∨
      field.name ≠ "" ∧ s.descriptor? field.name = none ∧
        s.declare field = (.ok (), s.enter field.descriptor) := by
  unfold declare
  split
  case isTrue hempty => exact .inl ⟨String.isEmpty_iff.mp hempty, rfl⟩
  case isFalse hname =>
    split
    case isTrue htaken => exact .inr (.inl ⟨htaken, rfl⟩)
    case isFalse hfree =>
      have hnone : s.descriptor? field.name = none := by simpa using hfree
      exact .inr (.inr ⟨fun h => hname (String.isEmpty_iff.mpr h), hnone, rfl⟩)

theorem declare_error_iff (s : Schema) (field : Field α) :
    (∃ failure, (s.declare field).1 = .error failure) ↔
      field.name = "" ∨ (s.descriptor? field.name).isSome := by
  rcases s.declare_cases field with ⟨hname, h⟩ | ⟨htaken, h⟩ | ⟨hname, hfree, h⟩
  · exact iff_of_true ⟨_, by rw [h]⟩ (.inl hname)
  · exact iff_of_true ⟨_, by rw [h]⟩ (.inr htaken)
  · refine iff_of_false ?_ ?_
    · rintro ⟨failure, hfailure⟩
      rw [h] at hfailure
      cases hfailure
    · rintro (hempty | htaken)
      · exact hname hempty
      · rw [hfree] at htaken
        cases htaken

/-- A refused declaration leaves the schema as it was. -/
theorem declare_of_error {field : Field α} {failure : Failure}
    (h : (s.declare field).1 = .error failure) : (s.declare field).2 = s := by
  rcases s.declare_cases field with ⟨-, hdeclare⟩ | ⟨-, hdeclare⟩ | ⟨-, -, hdeclare⟩
  · rw [hdeclare]
  · rw [hdeclare]
  · rw [hdeclare] at h
    cases h

theorem index_declare (s : Schema) (field : Field α) : (s.declare field).2.index = s.index := by
  rcases s.declare_cases field with ⟨-, h⟩ | ⟨-, h⟩ | ⟨-, -, h⟩ <;> rw [h]
  rfl

theorem index_declareAll (s : Schema) (fields : List AnyField) :
    (s.declareAll fields).index = s.index := by
  induction fields generalizing s with
  | nil => rfl
  | cons field rest ih =>
    rw [declareAll, List.foldl_cons, ← declareAll, ih, index_declare]

/-! ### The two halves -/

/-- The schema holds these descriptors: its names are theirs, in this order and without
    repetition, and under each name its dictionary has the descriptor of this name. -/
structure Holds (s : Schema) (descriptors : List FieldDescriptor) : Prop where
  fieldNames : s.fieldNames = descriptors.map FieldDescriptor.storedName
  nodup : (descriptors.map FieldDescriptor.storedName).Nodup
  lookup : ∀ name d, s.descriptor? name = some d ↔ d ∈ descriptors ∧ d.storedName = name

theorem holds_empty (index : String) : Holds (empty index) [] where
  fieldNames := rfl
  nodup := .nil
  lookup := by simp [descriptor?, empty, Dict.get?]

namespace Holds

theorem isSome_iff (h : Holds s descriptors) :
    (s.descriptor? name).isSome ↔ ∃ d ∈ descriptors, d.storedName = name := by
  simp only [Option.isSome_iff_exists, h.lookup]

/-- The listing loses nothing: every listed name has its descriptor. -/
theorem descriptors_eq (h : Holds s descriptors) : s.descriptors = descriptors := by
  rw [Schema.descriptors, h.fieldNames, List.filterMap_map]
  have hfound : ∀ d ∈ descriptors, (s.descriptor? ∘ FieldDescriptor.storedName) d = some d := by
    intro d hd
    exact (h.lookup d.storedName d).mpr ⟨hd, rfl⟩
  rw [List.filterMap_congr hfound, List.filterMap_some]

theorem enter (h : Holds s descriptors) (hfree : s.descriptor? d.storedName = none) :
    Holds (s.enter d) (descriptors ++ [d]) := by
  have hnew : ∀ other ∈ descriptors, other.storedName ≠ d.storedName := by
    intro other hother hsame
    have hfound := (h.lookup d.storedName other).mpr ⟨hother, hsame⟩
    rw [hfree] at hfound
    cases hfound
  constructor
  case fieldNames =>
    rw [List.map_append, ← h.fieldNames]
    rfl
  case nodup =>
    rw [List.map_append, List.map_singleton, List.nodup_append]
    refine ⟨h.nodup, List.nodup_singleton _, ?_⟩
    intro a ha b hb
    obtain ⟨other, hother, rfl⟩ := List.mem_map.mp ha
    rw [List.mem_singleton.mp hb]
    exact hnew other hother
  case lookup =>
    intro name found
    rw [List.mem_append, List.mem_singleton, or_and_right]
    by_cases hname : name = d.storedName
    · subst hname
      have hself : (s.enter d).descriptor? d.storedName = some d := Dict.get?_insert_self ..
      rw [hself, Option.some_inj]
      constructor
      · rintro rfl
        exact .inr ⟨rfl, rfl⟩
      · rintro (⟨hfound, hsame⟩ | ⟨rfl, -⟩)
        · exact absurd hsame (hnew found hfound)
        · rfl
    · have hother : (s.enter d).descriptor? name = s.descriptor? name :=
        Dict.get?_insert_of_ne hname ..
      rw [hother, h.lookup]
      constructor
      · exact .inl
      · rintro (hfound | ⟨rfl, hsame⟩)
        · exact hfound
        · exact absurd hsame.symm hname

/-- What a run accepts comes behind what the schema had. -/
theorem declareAll (h : Holds s descriptors) (fields : List AnyField) :
    Holds (s.declareAll fields) (descriptors ++ s.accepted fields) := by
  induction fields generalizing s descriptors with
  | nil => rwa [accepted, List.append_nil]
  | cons field rest ih =>
    rw [Schema.declareAll, List.foldl_cons, ← Schema.declareAll, accepted]
    rcases s.declare_cases field.2 with ⟨-, hdeclare⟩ | ⟨-, hdeclare⟩ | ⟨-, hfree, hdeclare⟩
    · rw [hdeclare]
      exact ih h
    · rw [hdeclare]
      exact ih h
    · have hrest := ih (h.enter hfree)
      rw [← List.append_cons] at hrest
      rw [hdeclare]
      exact hrest

end Holds

/-- **Consistency of a schema.**  After any run of declarations on a new schema, the next one
    fails exactly if its name is empty or an accepted field has it, and then the schema stays
    as it is.  The schema lists the accepted descriptors in the order of their declaration,
    no two under one name, and finds under a name the accepted descriptor of this name. -/
theorem declarations_consistent (index : String) (fields : List AnyField) :
    let s := (empty index).declareAll fields
    let accepted := (empty index).accepted fields
    (∀ field : AnyField, (∃ failure, (s.declare field.2).1 = .error failure) ↔
      field.2.name = "" ∨ ∃ d ∈ accepted, d.storedName = field.2.name) ∧
    (∀ (field : AnyField) (failure : Failure), (s.declare field.2).1 = .error failure →
      (s.declare field.2).2 = s) ∧
    s.index = index ∧
    s.descriptors = accepted ∧
    (accepted.map FieldDescriptor.storedName).Nodup ∧
    ∀ name d, s.descriptor? name = some d ↔ d ∈ accepted ∧ d.storedName = name := by
  intro s accepted
  have hholds : Holds s accepted := (holds_empty index).declareAll fields
  refine ⟨?_, ?_, index_declareAll _ fields, hholds.descriptors_eq, hholds.nodup, hholds.lookup⟩
  · intro field
    rw [declare_error_iff, hholds.isSome_iff]
  · intro field failure hfailure
    exact declare_of_error hfailure

/-- Fields of venues, of which one has no name and one takes the name of another. -/
def venueFields : List AnyField :=
  [⟨_, .text "name"⟩, ⟨_, .unscoped⟩, ⟨_, .keyword "name"⟩, ⟨_, .integer "checkins"⟩]

theorem declarations_consistent_venueFields :
    let s := (empty "venues").declareAll venueFields
    s.descriptors = [(Field.text "name").descriptor, (Field.integer "checkins").descriptor] ∧
    s.descriptor? "name" = some (Field.text "name").descriptor ∧
    (∃ failure, (s.declare (Field.keyword "name")).1 = .error failure) ∧
    (s.declare (Field.keyword "name")).2 = s := by
  obtain ⟨hfails, hunchanged, -, hlist, -, hlookup⟩ := declarations_consistent "venues" venueFields
  have haccepted : (empty "venues").accepted venueFields =
      [(Field.text "name").descriptor, (Field.integer "checkins").descriptor] := by decide
  rw [haccepted] at hfails hlist hlookup
  obtain ⟨failure, hfailure⟩ := (hfails ⟨_, Field.keyword "name"⟩).mpr (.inr ⟨_, .head _, rfl⟩)
  exact ⟨hlist, (hlookup "name" _).mpr ⟨.head _, rfl⟩, ⟨failure, hfailure⟩,
    hunchanged ⟨_, Field.keyword "name"⟩ failure hfailure⟩

end Schema

end Retrieval

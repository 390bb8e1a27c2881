/-
  Retrieval/Proofs/Json/Content.lean
  ==================================
  **What a JSON text says.**

  A decoder may fail, fills in defaults and keeps count of the levels of nesting.  Here a source
  has a value whatever it looks like (`Source.value`), and the value can be looked into without
  any of that: `Json.part` is what a record says under a name, `Json.items` are the items of an
  array and `Json.members` the members of an object.  What is absent counts as `null`, and what
  is `null` has no parts, no items and no members.

  A decoder *yields* a relation if whatever it returns stands in the relation to the value of
  the source (`Decoder.Yields`).  Which sources it accepts is a question of their shape.
  Decoders are put together from smaller ones, and so are the relations that they yield: by
  `Decoder.Yields.list`, `Decoder.Yields.dict` and one lemma for each kind of part of a record.
-/
import Retrieval.Proofs.Json.Restoring
import Mathlib.Data.List.Forall2

namespace Retrieval.Json

variable {α β : Type}

/-! ### Looking into a value -/

/-- What a record says under a name: the member of this name in an object, or the item in the
    place of this name in an array.  What is absent counts as `null`. -/
def part (names : List String) (name : String) : Json → Json
  | .object members => (Dict.get? members name).getD .null
  | .array items => (((names.zip items).find? fun entry => entry.1 == name).map (·.2)).getD .null
  | _ => .null

/-- The items of an array. -/
def items : Json → List Json
  | .array items => items
  | _ => []

/-- The members of an object. -/
def members : Json → Dict Json
  | .object members => members
  | _ => []

namespace Source

mutual

/-- The value of a source.  What has no value counts as `null`, and is not there if it is the
    name of a member. -/
def value : Source → Json
  | .null => .null
  | .bool b => .bool b
  | .number n => (n.map Json.number).getD .null
  | .string text => (text.map Json.string).getD .null
  | .array items => .array (itemValues items)
  | .object members => .object (Dict.ofEntries (memberValues members))

def itemValues : List Source → List Json
  | [] => []
  | item :: rest => value item :: itemValues rest

def memberValues : List (Option String × Source) → List (String × Json)
  | [] => []
  | (none, _) :: rest => memberValues rest
  | (some name, member) :: rest => (name, value member) :: memberValues rest

end

theorem itemValues_eq_map (items : List Source) : itemValues items = items.map value := by
  induction items with
  | nil => rfl
  | cons item rest ih => rw [itemValues, ih, List.map_cons]

theorem memberValues_named (named : List (String × Source)) :
    memberValues (named.map fun entry => (some entry.1, entry.2))
      = named.map fun entry => (entry.1, entry.2.value) := by
  induction named with
  | nil => rfl
  | cons entry rest ih => rw [List.map_cons, memberValues, ih, List.map_cons]

mutual

theorem value_of_json? {levels : Nat} {s : Source} {j : Json} (h : s.json? levels = some j) :
    s.value = j := by
  cases s with
  | null => exact Option.some.inj h
  | bool b => exact Option.some.inj h
  | number n => rw [value, ← json?.eq_3, h]; rfl
  | string t => rw [value, ← json?.eq_4, h]; rfl
  | array items =>
    cases levels with
    | zero => cases h
    | succ levels =>
      rw [json?] at h
      obtain ⟨values, hvalues, rfl⟩ := Option.map_eq_some_iff.mp h
      rw [value, itemValues_of_jsonItems? hvalues]
  | object members =>
    cases levels with
    | zero => cases h
    | succ levels =>
      rw [json?] at h
      obtain ⟨values, hvalues, rfl⟩ := Option.map_eq_some_iff.mp h
      rw [value, memberValues_of_jsonMembers? hvalues]

theorem itemValues_of_jsonItems? {levels : Nat} {items : List Source} {values : List Json}
    (h : jsonItems? levels items = some values) : itemValues items = values := by
  cases items with
  | nil => exact Option.some.inj h
  | cons item rest =>
    rw [jsonItems?] at h
    obtain ⟨value, hvalue, h⟩ := bind_eq_some_iff.mp h
    obtain ⟨values, hvalues, h⟩ := bind_eq_some_iff.mp h
    obtain rfl := Option.some.inj h
    rw [itemValues, value_of_json? hvalue, itemValues_of_jsonItems? hvalues]

theorem memberValues_of_jsonMembers? {levels : Nat} {members : List (Option String × Source)}
    {values : List (String × Json)} (h : jsonMembers? levels members = some values) :
    memberValues members = values := by
  cases members with
  | nil => exact Option.some.inj h
  | cons member rest =>
    obtain ⟨name?, member⟩ := member
    rw [jsonMembers?] at h
    obtain ⟨name, hname, h⟩ := bind_eq_some_iff.mp h
    obtain ⟨value, hvalue, h⟩ := bind_eq_some_iff.mp h
    obtain ⟨values, hvalues, h⟩ := bind_eq_some_iff.mp h
    obtain rfl := Option.some.inj h
    subst hname
    rw [memberValues, value_of_json? hvalue, memberValues_of_jsonMembers? hvalues]

end

theorem eq_null_of_json? {levels : Nat} {s : Source} (h : s.json? levels = some .null) :
    s = .null := by
  cases s with
  | null => rfl
  | bool b => cases h
  | number n => cases n <;> cases h
  | string text => cases text <;> cases h
  | array items =>
    cases levels with
    | zero => cases h
    | succ levels =>
      obtain ⟨_, -, h⟩ := Option.map_eq_some_iff.mp h
      cases h
  | object members =>
    cases levels with
    | zero => cases h
    | succ levels =>
      obtain ⟨_, -, h⟩ := Option.map_eq_some_iff.mp h
      cases h

end Source

/-! ### Values in order -/

/-- All objects list their members in ascending order. -/
inductive Ordered : Json → Prop
  | null : Ordered .null
  | bool (b : Bool) : Ordered (.bool b)
  | number (n : Number) : Ordered (.number n)
  | string (text : String) : Ordered (.string text)
  | array {items : List Json} : (∀ item ∈ items, Ordered item) → Ordered (.array items)
  | object {members : List (String × Json)} : Dict.Ascending members →
    (∀ member ∈ members, Ordered member.2) → Ordered (.object members)

theorem value_ofJson {j : Json} (h : j.Ordered) : (Source.ofJson j).value = j := by
  induction h with
  | null => rfl
  | bool b => rfl
  | number n => rfl
  | string text => rfl
  | @array items _ ih =>
    have hvalues : (items.map Source.ofJson).map Source.value = items := by
      rw [List.map_map]
      exact (List.map_congr_left ih).trans (List.map_id' items)
    rw [Source.ofJson_array, Source.value, Source.itemValues_eq_map, hvalues]
  | @object members hascending _ ih =>
    have hsource : Source.ofMembers members
        = (members.map fun member => (member.1, Source.ofJson member.2)).map
            fun entry => (some entry.1, entry.2) := by
      rw [Source.ofMembers_eq_map, List.map_map]
      rfl
    have hvalues : Source.memberValues (Source.ofMembers members) = members := by
      rw [hsource, Source.memberValues_named, List.map_map]
      refine Eq.trans (List.map_congr_left ?_) (List.map_id' members)
      intro member hmember
      exact congrArg (member.1, ·) (ih member hmember)
    rw [Source.ofJson, Source.value, hvalues, Dict.ofEntries_eq_self hascending]

/-! ### What decoders return -/

/-- Whatever the decoder returns stands in the relation to the value of the source. -/
def Decoder.Yields (d : Decoder α) (P : Json → α → Prop) : Prop :=
  ∀ levels s a, d levels s = some a → P s.value a

theorem mapM_eq_some_iff {f : α → Option β} {as : List α} {bs : List β} :
    as.mapM f = some bs ↔ List.Forall₂ (fun a b => f a = some b) as bs := by
  induction as generalizing bs with
  | nil =>
    rw [List.mapM_nil, pure_eq_some_iff, List.forall₂_nil_left_iff, eq_comm]
  | cons a as ih =>
    rw [List.mapM_cons, bind_eq_some_iff, List.forall₂_cons_left_iff]
    simp only [bind_eq_some_iff, pure_eq_some_iff, ih, eq_comm (a := bs)]
    constructor
    · rintro ⟨b, hb, bs, hbs, rfl⟩
      exact ⟨b, bs, hb, hbs, rfl⟩
    · rintro ⟨b, bs, hb, hbs, rfl⟩
      exact ⟨b, hb, bs, hbs, rfl⟩

namespace Decoder.Yields

variable {d : Decoder α} {P Q : Json → α → Prop}

theorem mono (h : d.Yields P) (hPQ : ∀ j a, P j a → Q j a) : d.Yields Q :=
  fun levels s a ha => hPQ _ _ (h levels s a ha)

theorem json : Decode.json.Yields fun j a => j = a :=
  fun _ _ _ h => Source.value_of_json? h

theorem natural64 : Decode.natural64.Yields fun j n => j = natural n := by
  intro levels s n h
  unfold Decode.natural64 Decode.naturalBelow at h
  split at h
  · obtain ⟨-, h⟩ := Option.ite_none_right_eq_some.mp h
    obtain rfl := Option.some.inj h
    rfl
  · cases h

theorem scalar : Decode.scalar.Yields fun j x => j.scalar? = some x := by
  intro levels s x h
  unfold Decode.scalar at h
  split at h
  · exact h
  · cases h

theorem text : Decode.text.Yields fun j t => j = .string t := by
  intro levels s t h
  unfold Decode.text at h
  split at h
  · obtain rfl := Option.some.inj h
    rfl
  · cases h

theorem list (h : d.Yields P) :
    (Decode.list d).Yields fun j as => ∃ items, j = .array items ∧ List.Forall₂ P items as := by
  intro levels s as hread
  unfold Decode.list at hread
  split at hread
  · rename_i levels items
    refine ⟨items.map Source.value, by rw [Source.value, Source.itemValues_eq_map], ?_⟩
    rw [List.forall₂_map_left_iff]
    exact (mapM_eq_some_iff.mp hread).imp fun item a ha => h levels item a ha
  · cases hread

theorem dict (h : d.Yields P) :
    (Decode.dict d).Yields fun j dict => ∃ members, j = .object members ∧
      Dict.Related P members dict := by
  intro levels s dict hread
  unfold Decode.dict at hread
  split at hread
  · rename_i levels members
    obtain ⟨named, hnamed, hread⟩ := bind_eq_some_iff.mp hread
    obtain ⟨entries, hentries, hread⟩ := bind_eq_some_iff.mp hread
    obtain rfl := Option.some.inj hread
    obtain rfl := named?_eq_some_iff.mp hnamed
    refine ⟨_, by rw [Source.value, Source.memberValues_named], .ofEntries ?_⟩
    rw [Dict.Related, List.forall₂_map_left_iff]
    refine (mapM_eq_some_iff.mp hentries).imp fun entry member hmember => ?_
    obtain ⟨a, ha, rfl⟩ := Option.map_eq_some_iff.mp hmember
    exact ⟨rfl, h levels entry.2 a ha⟩
  · cases hread

theorem array {f : α → Json} (h : d.Yields fun j a => j = f a) :
    (Decode.list d).Yields fun j as => j = .array (as.map f) := by
  refine h.list.mono ?_
  rintro _ as ⟨items, rfl, hitems⟩
  rw [← List.forall₂_map_right_iff, List.forall₂_eq_eq_eq] at hitems
  rw [hitems]

theorem object {f : α → Json} (h : d.Yields fun j a => j = f a) :
    (Decode.dict d).Yields fun j dict => j = .object (dict.mapValues f) := by
  refine h.dict.mono ?_
  rintro _ dict ⟨members, rfl, hmembers⟩
  rw [hmembers.eq_mapValues]

theorem members : Decode.members.Yields fun j dict => j = .object dict := by
  refine (object json).mono ?_
  intro j dict h
  rw [h, Dict.mapValues, List.map_id']

end Decoder.Yields

/-! ### Parts of records -/

section Records

variable {names : List String} {name : String} {levels : Nat} {s : Source} {r : Record}
  {d : Decoder α} {P : Json → α → Prop}

/-- What a record has for a part is what the value says under its name. -/
theorem Record.value_part? (hr : Record.ofSource? names levels s = some r) (hname : name ∈ names) :
    ((r.part? name).getD .null).value = s.value.part names name := by
  cases levels with
  | zero => simp [Record.ofSource?] at hr
  | succ levels =>
    cases s with
    | object members =>
      obtain ⟨named, rfl, hdiffer, rfl⟩ := ofSource?_object.mp hr
      have hlength := namesDiffer_iff.mp hdiffer name
      rw [filter_known hname] at hlength
      rw [part?_eq_head?, filter_known hname, Source.value, Source.memberValues_named, part,
        Dict.get?_ofEntries, Dict.lastOf, List.filter_map]
      simp only [Function.comp_def, beq_eq_decide]
      -- The name is there once or not at all, so the first part is also the last one.
      cases hfound : named.filter fun entry => entry.1 = name with
      | nil => rfl
      | cons entry rest =>
        rw [hfound, List.length_cons] at hlength
        obtain rfl : rest = [] := List.length_eq_zero_iff.mp (by omega)
        rfl
    | array items =>
      obtain ⟨-, h⟩ := Option.ite_none_right_eq_some.mp hr
      obtain rfl := Option.some.inj h
      rw [Source.value, Source.itemValues_eq_map, part, Record.part?, List.zip_map_right,
        List.find?_map]
      simp only [Function.comp_def, Prod.map_fst, id_eq]
      cases (names.zip items).find? fun entry => entry.1 == name <;> rfl
    | _ => simp [Record.ofSource?] at hr

theorem Record.value_ne_null (hr : Record.ofSource? names levels s = some r) : s.value ≠ .null := by
  cases s with
  | array items => simp [Source.value]
  | object members => simp [Source.value]
  | _ => cases levels <;> cases hr

theorem Decoder.Yields.required (h : d.Yields P) (hr : Record.ofSource? names levels s = some r)
    (hname : name ∈ names) {a : α} (hread : r.required name d = some a) :
    P (s.value.part names name) a := by
  obtain ⟨found, hfound, hread⟩ := bind_eq_some_iff.mp hread
  rw [← Record.value_part? hr hname, hfound]
  exact h r.levels found a hread

theorem Decoder.Yields.option (h : d.Yields P) :
    (Decode.option d).Yields fun j o => (o = none ∧ j = .null) ∨ ∃ a, o = some a ∧ P j a := by
  intro levels s o hread
  unfold Decode.option at hread
  split at hread
  · exact .inl ⟨(Option.some.inj hread).symm, rfl⟩
  · obtain ⟨a, ha, rfl⟩ := Option.map_eq_some_iff.mp hread
    exact .inr ⟨a, rfl, h _ _ a ha⟩

/-- A value is absent exactly if it is `null`. -/
theorem Decoder.Yields.optionalJson : (Decode.option Decode.json).Yields fun j o =>
    (o = none ∧ j = .null) ∨ (o = some j ∧ j ≠ .null) := by
  intro levels s o hread
  unfold Decode.option at hread
  split at hread
  · exact .inl ⟨(Option.some.inj hread).symm, rfl⟩
  · rename_i hs
    obtain ⟨j, hj, rfl⟩ := Option.map_eq_some_iff.mp hread
    obtain rfl := Source.value_of_json? hj
    refine .inr ⟨rfl, ?_⟩
    intro hnull
    rw [hnull] at hj
    exact hs (Source.eq_null_of_json? hj)

theorem Decoder.Yields.optional {Q : Json → Option α → Prop} (h : (Decode.option d).Yields Q)
    (hr : Record.ofSource? names levels s = some r) (hname : name ∈ names) {o : Option α}
    (hread : r.optional name d = some o) : Q (s.value.part names name) o := by
  rw [← Record.value_part? hr hname]
  unfold Record.optional at hread
  split at hread
  · rename_i found hfound
    rw [hfound]
    exact h r.levels found o hread
  · rename_i hmissing
    obtain ⟨-, hread⟩ := Option.ite_none_left_eq_some.mp hread
    rw [hmissing]
    exact h r.levels .null o hread

/-- The default has to stand in the relation to `null`. -/
theorem Decoder.Yields.orDefault (h : d.Yields P) (hr : Record.ofSource? names levels s = some r)
    (hname : name ∈ names) {a default : α} (hdefault : P .null default)
    (hread : r.orDefault name d default = some a) : P (s.value.part names name) a := by
  rw [← Record.value_part? hr hname]
  unfold Record.orDefault at hread
  split at hread
  · rename_i found hfound
    rw [hfound]
    exact h r.levels found a hread
  · rename_i hmissing
    obtain rfl := Option.some.inj hread
    rw [hmissing]
    exact hdefault

end Records

end Retrieval.Json

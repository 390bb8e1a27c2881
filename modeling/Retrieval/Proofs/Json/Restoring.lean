/-
  Retrieval/Proofs/Json/Restoring.lean
  ====================================
  **Reading back what was written.**

  A decoder *restores* a value from a JSON value under a condition if reading the JSON value
  gives the value back where the condition holds, and does not where it fails (`Restores`).
  The condition is there for the numbers without a JSON form.  They are written as `null`, which
  is refused where a number has to stand and is read as an absent one where it may be missing,
  so in neither place do they come back.

  Decoders are put together from smaller ones, and the conditions come together with them: all
  items of a list (`Restores.list`), the content of a variant (`Restores.variant`), the parts of
  a record (`Restores.record`, with `Record.Has.required` and `Record.Has.optional` for them).
-/
import Retrieval.Proofs.Dict
import Retrieval.Proofs.Json.Shape
import Retrieval.Proofs.Outcome
import Mathlib.Data.List.Defs

namespace Retrieval.Json

variable {α β : Type}

/-! ### Sources of values -/

namespace Source

theorem ofItems_eq_map (items : List Json) : ofItems items = items.map ofJson := by
  induction items with
  | nil => rfl
  | cons item rest ih => rw [ofItems, ih, List.map_cons]

theorem ofMembers_eq_map (members : List (String × Json)) :
    ofMembers members = members.map fun member => (some member.1, ofJson member.2) := by
  induction members with
  | nil => rfl
  | cons member rest ih => rw [ofMembers, ih, List.map_cons]

theorem ofJson_array (items : List Json) : ofJson (.array items) = .array (items.map ofJson) := by
  rw [ofJson, ofItems_eq_map]

theorem ofJson_record (members : List (String × Json)) :
    ofJson (record members) = .object
      ((Dict.ofEntries members).map fun member => (some member.1, ofJson member.2)) := by
  rw [record, ofJson, ofMembers_eq_map]

theorem levelsOf_le_of_mem_items {items : List Json} {item : Json} (h : item ∈ items) :
    levelsOf item ≤ levelsOfItems items := by
  induction items with
  | nil => cases h
  | cons first rest ih =>
    rw [levelsOfItems]
    rcases List.mem_cons.mp h with rfl | h
    · exact Nat.le_max_left ..
    · exact Nat.le_trans (ih h) (Nat.le_max_right ..)

theorem levelsOf_le_of_mem_members {members : List (String × Json)} {member : String × Json}
    (h : member ∈ members) : levelsOf member.2 ≤ levelsOfMembers members := by
  induction members with
  | nil => cases h
  | cons first rest ih =>
    rw [levelsOfMembers]
    rcases List.mem_cons.mp h with rfl | h
    · exact Nat.le_max_left ..
    · exact Nat.le_trans (ih h) (Nat.le_max_right ..)

/-- An array takes one level, and its items have the rest. -/
theorem exists_levels_of_array {items : List Json} {levels : Nat}
    (h : levelsOf (.array items) ≤ levels) :
    ∃ n, levels = n + 1 ∧ ∀ item ∈ items, levelsOf item ≤ n := by
  rw [levelsOf] at h
  obtain ⟨n, rfl⟩ := Nat.exists_eq_add_of_le' (Nat.le_of_add_left_le h)
  refine ⟨n, rfl, ?_⟩
  intro item hitem
  exact Nat.le_trans (levelsOf_le_of_mem_items hitem) (Nat.le_of_succ_le_succ h)

theorem exists_levels_of_object {members : List (String × Json)} {levels : Nat}
    (h : levelsOf (.object members) ≤ levels) :
    ∃ n, levels = n + 1 ∧ ∀ member ∈ members, levelsOf member.2 ≤ n := by
  rw [levelsOf] at h
  obtain ⟨n, rfl⟩ := Nat.exists_eq_add_of_le' (Nat.le_of_add_left_le h)
  refine ⟨n, rfl, ?_⟩
  intro member hmember
  exact Nat.le_trans (levelsOf_le_of_mem_members hmember) (Nat.le_of_succ_le_succ h)

theorem exists_levels_of_single {name : String} {value : Json} {levels : Nat}
    (h : levelsOf (single name value) ≤ levels) :
    ∃ n, levels = n + 1 ∧ levelsOf value ≤ n := by
  obtain ⟨n, rfl, hmember⟩ := exists_levels_of_object h
  exact ⟨n, rfl, hmember (name, value) (List.mem_singleton_self _)⟩

end Source

/-! ### Restoring -/

/-- Where there are levels enough, reading `j` gives `a` exactly if `p` holds. -/
def Restores (d : Decoder α) (j : Json) (a : α) (p : Prop) : Prop :=
  ∀ levels, Source.levelsOf j ≤ levels → (d levels (Source.ofJson j) = some a ↔ p)

theorem Restores.congr {d : Decoder α} {j : Json} {a : α} {p q : Prop} (h : Restores d j a p)
    (hpq : p ↔ q) : Restores d j a q :=
  fun levels hlevels => (h levels hlevels).trans hpq

theorem restores_text (text : String) : Restores Decode.text (.string text) text True := by
  intro levels _
  exact iff_true_intro rfl

theorem restores_flag (b : Bool) : Restores Decode.flag (.bool b) b True := by
  intro levels _
  exact iff_true_intro rfl

theorem restores_natural64 (n : UInt64) : Restores Decode.natural64 (natural n) n True := by
  intro levels _
  exact iff_true_intro (if_pos n.toNat_lt)

theorem restores_natural32 (n : UInt32) :
    Restores Decode.natural32 (natural n.toUInt64) n True := by
  intro levels _
  have hbound : n.toUInt64.toNat < UInt32.size := by simpa using n.toNat_lt
  have hread : Decode.naturalBelow UInt32.size levels (Source.ofJson (natural n.toUInt64))
      = some n.toUInt64 := if_pos hbound
  rw [Decode.natural32, hread]
  simp

/-- A number comes back with all its bits, if it has a JSON form. -/
theorem restores_scalar (x : Scalar) :
    Restores Decode.scalar (ofScalar x) x (x.isFinite = true) := by
  intro levels _
  unfold ofScalar
  by_cases hfinite : x.isFinite = true
  · rw [if_pos hfinite]
    exact iff_of_true rfl hfinite
  · rw [if_neg hfinite]
    refine iff_of_false ?_ hfinite
    intro h
    cases h

/-- The items of an array come back one by one. -/
theorem mapM_ofJson_eq_some_iff {d : Decoder α} {toJson : α → Json} {p : α → Prop} {as : List α}
    (h : ∀ a ∈ as, Restores d (toJson a) a (p a)) {levels : Nat}
    (hlevels : ∀ item ∈ as.map toJson, Source.levelsOf item ≤ levels) :
    ((as.map toJson).map Source.ofJson).mapM (d levels) = some as ↔ ∀ a ∈ as, p a := by
  rw [List.map_map, mapM_map_eq_some_iff]
  exact forall₂_congr fun a ha => h a ha levels (hlevels _ (List.mem_map_of_mem ha))

theorem Restores.list {d : Decoder α} {toJson : α → Json} {p : α → Prop} {as : List α}
    (h : ∀ a ∈ as, Restores d (toJson a) a (p a)) :
    Restores (Decode.list d) (.array (as.map toJson)) as (∀ a ∈ as, p a) := by
  intro levels hlevels
  obtain ⟨n, rfl, hitems⟩ := Source.exists_levels_of_array hlevels
  rw [Source.ofJson_array]
  exact mapM_ofJson_eq_some_iff h hitems

theorem restores_texts (items : List String) :
    Restores (Decode.list Decode.text) (texts items) items True := by
  have hitems := Restores.list fun text (_ : text ∈ items) => restores_text text
  exact hitems.congr (iff_true_intro fun _ _ => trivial)

/-! ### Records -/

theorem bind_eq_some_iff {x : Option α} {next : α → Option β} {b : β} :
    (x >>= next) = some b ↔ ∃ a, x = some a ∧ next a = some b :=
  Option.bind_eq_some_iff

theorem pure_eq_some_iff {a b : α} : (pure a : Option α) = some b ↔ a = b := Option.some_inj

theorem Record.levels_of_ofSource? {names : List String} {levels : Nat} {s : Source} {r : Record}
    (h : Record.ofSource? names levels s = some r) : levels = r.levels + 1 := by
  cases levels with
  | zero => simp [Record.ofSource?] at h
  | succ levels =>
    cases s with
    | object members =>
      obtain ⟨_, -, -, rfl⟩ := ofSource?_object.mp h
      rfl
    | array items =>
      obtain ⟨-, h⟩ := Option.ite_none_right_eq_some.mp h
      obtain rfl := Option.some.inj h
      rfl
    | _ => cases h

/-- The parts of a record have one level less than the record. -/
theorem Record.required_of_ofSource? {names : List String} {levels : Nat} {s : Source} {r : Record}
    (h : Record.ofSource? names (levels + 1) s = some r) (name : String) (d : Decoder α) :
    r.required name d = r.part? name >>= d levels := by
  obtain rfl : levels = r.levels := Nat.succ.inj (Record.levels_of_ofSource? h)
  rfl

/-- A record has the source of a value under a name, and levels enough for it. -/
structure Record.Has (r : Record) (name : String) (value : Json) : Prop where
  part : r.part? name = some (Source.ofJson value)
  levels : Source.levelsOf value ≤ r.levels

theorem Record.Has.required {r : Record} {name : String} {value : Json} (h : r.Has name value)
    {d : Decoder α} {a : α} {p : Prop} (hd : Restores d value a p) :
    r.required name d = some a ↔ p := by
  rw [Record.required, h.part]
  exact hd r.levels h.levels

theorem Record.Has.optional {r : Record} {name : String} {toJson : α → Json} {o : Option α}
    (h : r.Has name (ofOption toJson o)) {d : Decoder α} {p : α → Prop}
    (hd : ∀ a, Restores d (toJson a) a (p a)) (hnull : ∀ levels, d levels .null = none) :
    r.optional name d = some o ↔ ∀ a ∈ o, p a := by
  rw [Record.optional, h.part]
  cases o with
  | none => exact iff_of_true rfl nofun
  | some a =>
    have hread := hd a r.levels h.levels
    have hp : (∀ a' ∈ some a, p a') ↔ p a := by simp
    rw [hp, ← hread, ofOption]
    -- A value that is written as `null` is read as its absence.
    cases hsource : Source.ofJson (toJson a) with
    | null => simp [Decode.option, hnull]
    | _ => simp [Decode.option]

/-- A record whose names differ is found with all its parts. -/
theorem exists_record {names : List String} {members : List (String × Json)} {levels : Nat}
    (hlevels : Source.levelsOf (record members) ≤ levels)
    (hnames : members.map Prod.fst = names) (hnodup : names.Nodup) :
    ∃ r, Record.ofSource? names levels (Source.ofJson (record members)) = some r ∧
      ∀ member ∈ members, r.Has member.1 member.2 := by
  subst hnames
  obtain ⟨n, rfl, hn⟩ := Source.exists_levels_of_object hlevels
  rw [Source.ofJson_record]
  let named := (Dict.ofEntries members).map fun member => (member.1, Source.ofJson member.2)
  have hnamed : (named.map Prod.fst).Nodup := by
    rw [List.map_map]
    exact (Dict.ascending_ofEntries members).nodup_keys
  have hfound : Record.ofSource? (members.map Prod.fst) (n + 1) (.object
      ((Dict.ofEntries members).map fun member => (some member.1, Source.ofJson member.2)))
        = some ⟨n, false, named.filter fun entry => (members.map Prod.fst).contains entry.1⟩ := by
    refine ofSource?_object.mpr ⟨named, ?_, ?_, rfl⟩
    · rw [List.map_map]
      rfl
    · exact namesDiffer_iff_nodup.mpr ((List.filter_sublist.map Prod.fst).nodup hnamed)
  refine ⟨_, hfound, ?_⟩
  intro member hmember
  have hmem := Dict.mem_ofEntries hnodup hmember
  constructor
  · exact part?_of_mem hfound (List.mem_map_of_mem hmember) (List.mem_map.mpr ⟨member, hmem, rfl⟩)
  · exact hn member hmem

/-- A decoder that looks for the parts of a record, and goes on with what it found, restores
    what the parts say. -/
theorem Restores.record {names : List String} {members : List (String × Json)}
    {take : Record → Option α} {a : α} {p : Prop} (hnames : members.map Prod.fst = names)
    (hnodup : names.Nodup)
    (h : ∀ r : Record, (members.Forall fun member => r.Has member.1 member.2) →
      (take r = some a ↔ p)) :
    Restores (fun levels s => Record.ofSource? names levels s >>= take) (record members) a p := by
  intro levels hlevels
  obtain ⟨r, hr, hparts⟩ := exists_record hlevels hnames hnodup
  simp only [hr]
  exact h r (List.forall_iff_forall_mem.mpr hparts)

theorem Record.refuses_null {names : List String} {take : Record → Option α} (levels : Nat) :
    (Record.ofSource? names levels .null >>= take) = none := by
  cases levels with
  | zero => rfl
  | succ levels => rfl

/-! ### Variants -/

theorem Restores.variant {d variant : Decoder α} {name : String} {content : Json} {a : α}
    {p : Prop} (hread : ∀ levels s, variant (levels + 1) (.object [(some name, s)]) = d levels s)
    (h : Restores d content a p) : Restores variant (single name content) a p := by
  intro levels hlevels
  obtain ⟨n, rfl, hcontent⟩ := Source.exists_levels_of_single hlevels
  rw [← h n hcontent, ← hread]
  rfl

theorem Restores.map {d : Decoder β} {j : Json} {b : β} {p : Prop} (h : Restores d j b p)
    {make : β → α} (hmake : Function.Injective make) :
    Restores (fun levels s => (d levels s).map make) j (make b) p := by
  intro levels hlevels
  rw [← h levels hlevels, Option.map_eq_some_iff]
  constructor
  · rintro ⟨b', hb', heq⟩
    rwa [← hmake heq]
  · intro hb
    exact ⟨b, hb, rfl⟩

theorem restores_choice {named : String → Option α} {name : String} {a : α}
    (h : named name = some a) : Restores (Decode.choice named) (.string name) a True := by
  intro levels _
  exact iff_true_intro h

end Retrieval.Json

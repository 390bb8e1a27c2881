/-
  Retrieval/Proofs/Json/Shape.lean
  ================================
  **Shapes of JSON text.**

  A shape says what a text has to look like in order to be read as something.  The shape
  of a record is a table of its parts, each with a name, a shape of its own and what it
  means that the part is absent.

  A decoder *reads* a shape if it accepts the sources of this shape and no others.
  Decoders are put together from smaller ones, and for each way to do so one lemma says
  which shape the result reads: lists (`Decoder.Reads.list`), dictionaries
  (`Decoder.Reads.dict`) and records (`Decoder.Reads.record`).  A decoder of a record takes
  one part after the other, and so does the proof that it reads its table
  (`Record.Takes.cons` with one lemma for each kind of part).
-/
import Retrieval.Json.Decode
import Mathlib.Data.List.Nodup

namespace Retrieval.Json

/-! ### Shapes -/

/-- What a source has to look like, given the levels of nesting that it may use. -/
abbrev Shape := Nat → Source → Prop

namespace Shape

def natural (bound : Nat) : Shape
  | _, .number (some (.natural n)) => n.toNat < bound
  | _, _ => False

def number : Shape
  | _, .number (some _) => True
  | _, _ => False

def text : Shape
  | _, .string (some _) => True
  | _, _ => False

/-- Anything that has a value throughout and is not nested too deeply. -/
def value : Shape := fun levels s => ∃ j, s.json? levels = some j

def list (item : Shape) : Shape
  | levels + 1, .array items => ∀ s ∈ items, item levels s
  | _, _ => False

/-- An object in which all names can be read and all members have the given shape. -/
def dict (member : Shape) : Shape
  | levels + 1, .object members => ∀ entry ∈ members, entry.1.isSome ∧ member levels entry.2
  | _, _ => False

/-- What it means that a part of a record is absent. -/
inductive Presence where
  /-- It must not be. -/
  | required
  /-- It may be missing in an object, and `null` in any record. -/
  | optional
  /-- It may be missing in any record. -/
  | defaulted
deriving DecidableEq, Repr

structure Part where
  name : String
  presence : Presence
  shape : Shape

/-- Whether a part of a record may be what was found for it. -/
def Part.Fits (part : Part) (positional : Bool) (levels : Nat) : Option Source → Prop
  | some s => (part.presence = .optional ∧ s = .null) ∨ part.shape levels s
  | none => part.presence = .defaulted ∨ (part.presence = .optional ∧ positional = false)

/-- What an object has under a name, with repetitions. -/
def valuesOf (name : String) (members : List (Option String × Source)) : List Source :=
  (members.filter fun entry => entry.1 = some name).map (·.2)

/-- A part is named once or not at all, and fits. -/
def Part.FitsAmong (part : Part) (levels : Nat) (members : List (Option String × Source)) : Prop :=
  (valuesOf part.name members).length ≤ 1 ∧
    part.Fits false levels (valuesOf part.name members).head?

/-- The items of an array fit the parts, one by one.  No item is left over. -/
def FitInTurn (levels : Nat) : List Part → List Source → Prop
  | [], items => items = []
  | part :: parts, items =>
    part.Fits true levels items.head? ∧ FitInTurn levels parts items.tail

/-- A record with the given parts: an object, where other names do not count, or an array. -/
def record (parts : List Part) : Shape
  | levels + 1, .object members =>
    (∀ entry ∈ members, entry.1.isSome) ∧ ∀ part ∈ parts, part.FitsAmong levels members
  | levels + 1, .array items => FitInTurn levels parts items
  | _, _ => False

end Shape

/-- The decoder accepts the sources of the shape and no others. -/
def Decoder.Reads {α : Type} (decoder : Decoder α) (shape : Shape) : Prop :=
  ∀ levels s, (decoder levels s).isSome = true ↔ shape levels s

/-! ### Optional results -/

theorem isSome_bind_iff {α β : Type} {x : Option α} {f : α → Option β} :
    (x >>= f).isSome = true ↔ ∃ a, x = some a ∧ (f a).isSome = true := by
  cases x with
  | none => simp
  | some a => simp

theorem isSome_mapM_iff {α β : Type} {f : α → Option β} {xs : List α} :
    (xs.mapM f).isSome = true ↔ ∀ x ∈ xs, (f x).isSome = true := by
  induction xs with
  | nil => simp
  | cons x xs ih =>
    rw [List.mapM_cons, isSome_bind_iff, List.forall_mem_cons, ← ih, Option.isSome_iff_exists]
    constructor
    · rintro ⟨b, hb, hrest⟩
      obtain ⟨bs, hbs, -⟩ := isSome_bind_iff.mp hrest
      exact ⟨⟨b, hb⟩, by rw [hbs]; rfl⟩
    · rintro ⟨⟨b, hb⟩, hrest⟩
      obtain ⟨bs, hbs⟩ := Option.isSome_iff_exists.mp hrest
      exact ⟨b, hb, by rw [hbs]; rfl⟩

/-! ### Plain values and containers -/

namespace Decoder.Reads

variable {α β : Type} {d : Decoder α} {shape : Shape}

theorem map (h : d.Reads shape) (f : α → β) :
    Decoder.Reads (fun levels s => (d levels s).map f) shape := by
  intro levels s
  rw [Option.isSome_map]
  exact h levels s

theorem list (h : d.Reads shape) : (Decode.list d).Reads (Shape.list shape) := by
  intro levels s
  unfold Decode.list Shape.list
  split
  · rw [isSome_mapM_iff]
    exact forall₂_congr fun s _ => h _ s
  · simp

theorem naturalBelow (bound : Nat) : (Decode.naturalBelow bound).Reads (Shape.natural bound) := by
  intro levels s
  unfold Decode.naturalBelow Shape.natural
  split
  · split <;> simp_all
  · simp

theorem natural64 : Decode.natural64.Reads (Shape.natural UInt64.size) :=
  naturalBelow UInt64.size

theorem natural16 : Decode.natural16.Reads (Shape.natural UInt16.size) :=
  (naturalBelow UInt16.size).map UInt64.toUInt16

theorem scalar : Decode.scalar.Reads Shape.number := by
  intro levels s
  unfold Decode.scalar Shape.number
  split <;> simp

theorem text : Decode.text.Reads Shape.text := by
  intro levels s
  unfold Decode.text Shape.text
  split <;> simp

theorem json : Decode.json.Reads Shape.value :=
  fun _ _ => Option.isSome_iff_exists

end Decoder.Reads

theorem named?_cons_some (name : String) (s : Source) (members : List (Option String × Source)) :
    Decode.named? ((some name, s) :: members) = (Decode.named? members).map ((name, s) :: ·) := by
  unfold Decode.named?
  rw [List.mapM_cons]
  exact Option.map_eq_bind.symm

theorem named?_cons_none (s : Source) (members : List (Option String × Source)) :
    Decode.named? ((none, s) :: members) = none := by
  unfold Decode.named?
  rw [List.mapM_cons]
  rfl

/-- The names that were read are the ones of the text. -/
theorem named?_eq_some_iff {members : List (Option String × Source)}
    {named : List (String × Source)} :
    Decode.named? members = some named ↔
      members = named.map fun entry => (some entry.1, entry.2) := by
  induction members generalizing named with
  | nil =>
    rw [eq_comm (a := []), List.map_eq_nil_iff]
    exact Option.some_inj.trans eq_comm
  | cons entry members ih =>
    obtain ⟨name, s⟩ := entry
    cases name with
    | none =>
      rw [named?_cons_none]
      cases named <;> simp
    | some name =>
      rw [named?_cons_some, Option.map_eq_some_iff]
      simp only [ih]
      constructor
      · rintro ⟨rest, rfl, rfl⟩
        rfl
      · intro h
        cases named with
        | nil => cases h
        | cons first rest =>
          obtain ⟨hfirst, hrest⟩ := List.cons.inj h
          obtain ⟨hname, hs⟩ := Prod.mk.inj hfirst
          exact ⟨rest, hrest, by rw [Option.some.inj hname, hs]⟩

theorem exists_named_iff {members : List (Option String × Source)} :
    (∃ named, Decode.named? members = some named) ↔ ∀ entry ∈ members, entry.1.isSome = true := by
  rw [← Option.isSome_iff_exists, Decode.named?, isSome_mapM_iff]
  simp

theorem Decoder.Reads.dict {α : Type} {d : Decoder α} {shape : Shape} (h : d.Reads shape) :
    (Decode.dict d).Reads (Shape.dict shape) := by
  intro levels s
  unfold Decode.dict Shape.dict
  split
  · rename_i levels members
    rw [isSome_bind_iff]
    constructor
    · rintro ⟨named, hnamed, hentries⟩
      obtain ⟨entries, hentries, -⟩ := isSome_bind_iff.mp hentries
      have hread := isSome_mapM_iff.mp (Option.isSome_of_eq_some hentries)
      obtain rfl := named?_eq_some_iff.mp hnamed
      intro entry hentry
      obtain ⟨source, hsource, rfl⟩ := List.mem_map.mp hentry
      exact ⟨rfl, (h levels source.2).mp (by simpa using hread source hsource)⟩
    · intro hmembers
      obtain ⟨named, hnamed⟩ := exists_named_iff.mpr fun entry hentry => (hmembers entry hentry).1
      obtain rfl := named?_eq_some_iff.mp hnamed
      refine ⟨named, hnamed, ?_⟩
      rw [isSome_bind_iff]
      have hread : (named.mapM fun entry => (d levels entry.2).map (entry.1, ·)).isSome = true := by
        rw [isSome_mapM_iff]
        intro source hsource
        rw [Option.isSome_map]
        exact (h levels source.2).mpr (hmembers _ (List.mem_map_of_mem hsource)).2
      obtain ⟨entries, hentries⟩ := Option.isSome_iff_exists.mp hread
      exact ⟨entries, hentries, rfl⟩
  · simp

/-! ### Records -/

section Objects

variable {named : List (String × Source)}

theorem namesDiffer_iff_nodup :
    Record.namesDiffer named = true ↔ (named.map Prod.fst).Nodup := by
  induction named with
  | nil => simp [Record.namesDiffer]
  | cons entry named ih =>
    have hfresh : (!named.any fun other => other.1 == entry.1) = true
        ↔ entry.1 ∉ named.map Prod.fst := by
      rw [Bool.not_eq_true', List.any_eq_false, List.mem_map, not_exists]
      simp only [beq_iff_eq, not_and]
    rw [Record.namesDiffer, Bool.and_eq_true, ih, List.map_cons, List.nodup_cons, hfresh]

theorem namesDiffer_iff :
    Record.namesDiffer named = true ↔
      ∀ name, (named.filter fun entry => entry.1 = name).length ≤ 1 := by
  rw [namesDiffer_iff_nodup, List.nodup_iff_count_le_one]
  refine forall_congr' fun name => ?_
  rw [List.count, List.countP_map, List.countP_eq_length_filter]
  rfl

theorem valuesOf_named (name : String) :
    Shape.valuesOf name (named.map fun entry => (some entry.1, entry.2))
      = (named.filter fun entry => entry.1 = name).map (·.2) := by
  unfold Shape.valuesOf
  rw [List.filter_map, List.map_map]
  simp [Function.comp_def]

/-- The names that belong to a record are looked up among all names. -/
theorem filter_known {names : List String} {name : String} (hname : name ∈ names) :
    (named.filter fun entry => names.contains entry.1).filter (fun entry => entry.1 = name)
      = named.filter fun entry => entry.1 = name := by
  rw [List.filter_filter]
  apply List.filter_congr
  intro entry _
  by_cases h : entry.1 = name
  · rw [h]
    simpa using hname
  · simp [h]

theorem filter_unknown {names : List String} {name : String} (hname : name ∉ names) :
    (named.filter fun entry => names.contains entry.1).filter (fun entry => entry.1 = name)
      = [] := by
  rw [List.filter_filter, List.filter_eq_nil_iff]
  intro entry _ h
  simp only [Bool.and_eq_true, decide_eq_true_eq, List.contains_iff_mem] at h
  obtain ⟨rfl, hmem⟩ := h
  exact hname hmem

theorem part?_eq_head? {r : Record} (name : String) :
    r.part? name = ((r.parts.filter fun entry => entry.1 = name).map (·.2)).head? := by
  rw [Record.part?, List.head?_map, List.head?_filter]
  simp only [beq_eq_decide]

end Objects

section Records

variable {parts : List Shape.Part} {levels : Nat}

theorem ofSource?_object {names : List String} {members : List (Option String × Source)}
    {r : Record} :
    Record.ofSource? names (levels + 1) (.object members) = some r ↔
      ∃ named : List (String × Source),
        members = named.map (fun entry => (some entry.1, entry.2)) ∧
        Record.namesDiffer (named.filter fun entry => names.contains entry.1) = true ∧
        r = ⟨levels, false, named.filter fun entry => names.contains entry.1⟩ := by
  unfold Record.ofSource?
  simp only [Option.bind_eq_bind, Option.bind_eq_some_iff, named?_eq_some_iff,
    Option.ite_none_right_eq_some, Option.some.injEq]
  simp only [eq_comm (b := r)]

theorem record_object_iff (members : List (Option String × Source)) :
    Shape.record parts (levels + 1) (.object members) ↔
      ∃ r, Record.ofSource? (parts.map Shape.Part.name) (levels + 1) (.object members) = some r ∧
        ∀ part ∈ parts, part.Fits r.positional r.levels (r.part? part.name) := by
  simp only [ofSource?_object, part?_eq_head?]
  constructor
  · rintro ⟨hread, hparts⟩
    obtain ⟨named, hnamed⟩ := exists_named_iff.mpr hread
    obtain rfl := named?_eq_some_iff.mp hnamed
    refine ⟨_, ⟨named, rfl, ?_, rfl⟩, ?_⟩
    · rw [namesDiffer_iff]
      intro name
      -- A name of no part is not among the known ones, so it is not repeated there.
      by_cases hname : name ∈ parts.map Shape.Part.name
      · obtain ⟨part, hpart, rfl⟩ := List.mem_map.mp hname
        have hlength := (hparts part hpart).1
        rw [valuesOf_named, List.length_map] at hlength
        rwa [filter_known hname]
      · rw [filter_unknown hname]
        exact Nat.zero_le 1
    · intro part hpart
      have hfits := (hparts part hpart).2
      rw [valuesOf_named] at hfits
      rwa [filter_known (List.mem_map_of_mem hpart)]
  · rintro ⟨r, ⟨named, rfl, hdiffer, rfl⟩, hfits⟩
    constructor
    · intro entry hentry
      obtain ⟨source, -, rfl⟩ := List.mem_map.mp hentry
      rfl
    · intro part hpart
      have hname := List.mem_map_of_mem (f := Shape.Part.name) hpart
      have hlength := namesDiffer_iff.mp hdiffer part.name
      have hfit := hfits part hpart
      rw [filter_known hname] at hlength hfit
      unfold Shape.Part.FitsAmong
      rw [valuesOf_named, List.length_map]
      exact ⟨hlength, hfit⟩

theorem fitInTurn_iff (hnames : (parts.map Shape.Part.name).Nodup) (items : List Source) :
    Shape.FitInTurn levels parts items ↔
      items.length ≤ parts.length ∧ ∀ part ∈ parts, part.Fits true levels
        ((((parts.map Shape.Part.name).zip items).find? fun entry => entry.1 == part.name).map
          (·.2)) := by
  induction parts generalizing items with
  | nil => simp [Shape.FitInTurn]
  | cons first parts ih =>
    rw [List.map_cons, List.nodup_cons] at hnames
    obtain ⟨hfirst, hnames⟩ := hnames
    -- The first item goes to the first part alone, as no other part has its name.
    have hother : ∀ part ∈ parts, (first.name == part.name) = false := by
      intro part hpart
      rw [beq_eq_false_iff_ne]
      intro h
      exact hfirst (h ▸ List.mem_map_of_mem hpart)
    rw [Shape.FitInTurn, ih hnames, List.forall_mem_cons]
    cases items with
    | nil => simp
    | cons s items =>
      simp only [List.head?_cons, List.tail_cons, List.map_cons, List.zip_cons_cons,
        List.length_cons, Nat.add_le_add_iff_right, List.find?_cons, BEq.rfl, Option.map_some]
      rw [and_left_comm]
      refine and_congr_right fun _ => and_congr_right fun _ => ?_
      refine forall₂_congr fun part hpart => ?_
      rw [hother part hpart]

/-- **Records.**  A source has the shape of a record if the parts can be found in it and
    fit. -/
theorem record_iff (hnames : (parts.map Shape.Part.name).Nodup) (levels : Nat) (s : Source) :
    Shape.record parts levels s ↔
      ∃ r, Record.ofSource? (parts.map Shape.Part.name) levels s = some r ∧
        ∀ part ∈ parts, part.Fits r.positional r.levels (r.part? part.name) := by
  cases levels with
  | zero => simp [Shape.record, Record.ofSource?]
  | succ levels =>
    cases s with
    | object members => exact record_object_iff members
    | array items =>
      rw [Shape.record, fitInTurn_iff hnames]
      simp only [Record.ofSource?, List.length_map, Option.ite_none_right_eq_some,
        Option.some.injEq]
      constructor
      · rintro ⟨hlength, hfits⟩
        exact ⟨_, ⟨hlength, rfl⟩, hfits⟩
      · rintro ⟨r, ⟨hlength, rfl⟩, hfits⟩
        exact ⟨hlength, hfits⟩
    | _ => simp [Shape.record, Record.ofSource?]

end Records

/-! ### Taking the parts of a record -/

/-- Something is computed from the given parts of a record: it fails only where one of
    them does not fit. -/
def Record.Takes {α : Type} (r : Record) (result : Option α) (parts : List Shape.Part) : Prop :=
  result.isSome = true ↔ ∀ part ∈ parts, part.Fits r.positional r.levels (r.part? part.name)

section Parts

variable {α β : Type} {d : Decoder α} {shape : Shape} {r : Record}

theorem Record.takes_single {result : Option α} {part : Shape.Part} :
    r.Takes result [part] ↔
      (result.isSome = true ↔ part.Fits r.positional r.levels (r.part? part.name)) := by
  unfold Record.Takes
  rw [List.forall_mem_singleton]

theorem Record.Takes.nil (a : α) : r.Takes (pure a) [] := by
  unfold Record.Takes
  simp

theorem Record.Takes.cons {first : Option α} {next : α → Option β} {part : Shape.Part}
    {parts : List Shape.Part} (hfirst : r.Takes first [part]) (hnext : ∀ a, r.Takes (next a) parts) :
    r.Takes (first >>= next) (part :: parts) := by
  unfold Record.Takes at hnext ⊢
  rw [isSome_bind_iff, List.forall_mem_cons, ← Record.takes_single.mp hfirst,
    Option.isSome_iff_exists]
  simp only [hnext, exists_and_right]

theorem Decoder.Reads.required (h : d.Reads shape) (name : String) :
    r.Takes (r.required name d) [⟨name, .required, shape⟩] := by
  rw [Record.takes_single]
  unfold Record.required Shape.Part.Fits
  cases r.part? name with
  | none => simp
  | some s => simpa using h r.levels s

theorem Decoder.Reads.orDefault (h : d.Reads shape) (name : String) (default : α) :
    r.Takes (r.orDefault name d default) [⟨name, .defaulted, shape⟩] := by
  rw [Record.takes_single]
  unfold Record.orDefault Shape.Part.Fits
  cases r.part? name with
  | none => simp
  | some s => simpa using h r.levels s

theorem Decoder.Reads.optional (h : d.Reads shape) (name : String) :
    r.Takes (r.optional name d) [⟨name, .optional, shape⟩] := by
  rw [Record.takes_single]
  unfold Record.optional Shape.Part.Fits
  cases r.part? name with
  | none => cases r.positional <;> simp
  | some s =>
    unfold Decode.option
    cases s with
    | null => simp
    | _ => simpa using h r.levels _

/-- A decoder that looks for the parts of a record, and goes on with what it found, reads
    the shape of the record. -/
theorem Decoder.Reads.record {names : List String} {parts : List Shape.Part}
    {take : Record → Option α} (hparts : names = parts.map Shape.Part.name) (hnames : names.Nodup)
    (htake : ∀ r : Record, r.Takes (take r) parts) :
    Decoder.Reads (fun levels s => Record.ofSource? names levels s >>= take)
      (Shape.record parts) := by
  subst hparts
  intro levels s
  rw [isSome_bind_iff, record_iff hnames]
  exact exists_congr fun r => and_congr_right fun _ => htake r

end Parts

/-- A part that stands in an object is found. -/
theorem part?_of_mem {names : List String} {levels : Nat} {members : List (Option String × Source)}
    {r : Record} (h : Record.ofSource? names levels (.object members) = some r)
    {name : String} (hname : name ∈ names) {s : Source} (hs : (some name, s) ∈ members) :
    r.part? name = some s := by
  cases levels with
  | zero => simp [Record.ofSource?] at h
  | succ levels =>
    obtain ⟨named, rfl, hdiffer, rfl⟩ := ofSource?_object.mp h
    have hlength := namesDiffer_iff.mp hdiffer name
    rw [filter_known hname] at hlength
    obtain ⟨entry, hentry, heq⟩ := List.mem_map.mp hs
    obtain ⟨hentryName, rfl⟩ := Prod.mk.inj heq
    have hmem : entry ∈ named.filter fun entry => entry.1 = name :=
      List.mem_filter.mpr ⟨hentry, by simpa using hentryName⟩
    obtain ⟨only, honly⟩ := List.length_eq_one_iff.mp
      (Nat.le_antisymm hlength (List.length_pos_of_mem hmem))
    rw [honly, List.mem_singleton] at hmem
    rw [part?_eq_head?, filter_known hname, honly, hmem]
    rfl

end Retrieval.Json

/-
  Retrieval/Proofs/Dict.lean
  ==========================
  **What a dictionary holds.**

  A dictionary that is made of entries ascends strictly by key (`ascending_ofEntries`), so it
  has each key once.  What it holds under a key is the value of the last entry with this key
  (`get?_ofEntries`).  Where the keys differ from the start, the dictionary has the same
  entries in another order (`ofEntries_perm`), so no entry is lost.
-/
import Retrieval.Dict
import Mathlib.Data.List.Nodup
import Mathlib.Data.String.Basic

namespace Retrieval.Dict

variable {α β : Type} {d d' : Dict α} {key : String} {value : α}

/-! ### The order of the keys -/

/-- The entries ascend by key, and no key is repeated. -/
def Ascending (d : Dict α) : Prop := d.Pairwise fun a b => a.1 < b.1

theorem mem_insert {entry : String × α} (h : entry ∈ insert key value d) :
    entry = (key, value) ∨ entry ∈ d := by
  induction d with
  | nil =>
    rw [insert, List.mem_singleton] at h
    exact .inl h
  | cons first rest ih =>
    obtain ⟨k, v⟩ := first
    unfold insert at h
    split at h
    · rcases List.mem_cons.mp h with h | h
      · exact .inl h
      · exact .inr h
    · split at h
      · rcases List.mem_cons.mp h with h | h
        · exact .inl h
        · exact .inr (List.mem_cons_of_mem _ h)
      · rcases List.mem_cons.mp h with rfl | h
        · exact .inr (List.mem_cons_self ..)
        · exact (ih h).imp_right (List.mem_cons_of_mem _)

theorem Ascending.insert (h : Ascending d) (key : String) (value : α) :
    Ascending (insert key value d) := by
  induction d with
  | nil => simp [Dict.insert, Ascending]
  | cons first rest ih =>
    obtain ⟨k, v⟩ := first
    obtain ⟨hfirst, hrest⟩ := List.pairwise_cons.mp h
    unfold Dict.insert
    split
    · rename_i hlt
      refine List.pairwise_cons.mpr ⟨?_, h⟩
      intro entry hentry
      rcases List.mem_cons.mp hentry with rfl | hentry
      · exact hlt
      · exact lt_trans hlt (hfirst entry hentry)
    · rename_i hnlt
      split
      · rename_i heq
        subst heq
        exact List.pairwise_cons.mpr ⟨hfirst, hrest⟩
      · rename_i hne
        refine List.pairwise_cons.mpr ⟨?_, ih hrest⟩
        intro entry hentry
        rcases mem_insert hentry with rfl | hentry
        · exact lt_of_le_of_ne (le_of_not_gt hnlt) (Ne.symm hne)
        · exact hfirst entry hentry

theorem ascending_insertAll (entries : List (String × α)) (h : Ascending d) :
    Ascending (insertAll d entries) := by
  induction entries generalizing d with
  | nil => exact h
  | cons entry rest ih => exact ih (h.insert entry.1 entry.2)

theorem ascending_ofEntries (entries : List (String × α)) : Ascending (ofEntries entries) :=
  ascending_insertAll entries .nil

theorem Ascending.nodup_keys (h : Ascending d) : (d.map Prod.fst).Nodup :=
  (List.pairwise_map.mpr h).imp ne_of_lt

/-! ### Looking up -/

/-- The value of the last entry with a key. -/
def lastOf (key : String) (entries : List (String × α)) : Option α :=
  ((entries.filter fun entry => entry.1 == key).getLast?).map (·.2)

theorem get?_insertAll (entries : List (String × α)) (d : Dict α) (key : String) :
    get? (insertAll d entries) key = (lastOf key entries).or (get? d key) := by
  induction entries generalizing d with
  | nil => rfl
  | cons entry rest ih =>
    rw [insertAll, List.foldl_cons, ← insertAll, ih, lastOf, lastOf]
    by_cases hkey : entry.1 = key
    · subst hkey
      rw [List.filter_cons_of_pos (by simp), List.getLast?_cons, get?_insert_self]
      cases (rest.filter fun other => other.1 == entry.1).getLast? <;> rfl
    · rw [List.filter_cons_of_neg (by simpa using hkey), get?_insert_of_ne (Ne.symm hkey)]

/-- Under a key is what was entered last under it. -/
theorem get?_ofEntries (entries : List (String × α)) (key : String) :
    get? (ofEntries entries) key = lastOf key entries := by
  rw [ofEntries, get?_insertAll]
  exact Option.or_none

/-- Entries of other keys do not matter. -/
theorem get?_ofEntries_congr {entries entries' : List (String × α)}
    (h : (entries.filter fun entry => entry.1 == key)
      = entries'.filter fun entry => entry.1 == key) :
    get? (ofEntries entries) key = get? (ofEntries entries') key := by
  rw [get?_ofEntries, get?_ofEntries, lastOf, lastOf, h]

@[simp] theorem get?_erase_self (d : Dict α) (key : String) : get? (erase d key) key = none := by
  induction d with
  | nil => rfl
  | cons entry rest ih =>
    rw [erase] at ih ⊢
    by_cases hk : entry.1 = key
    · rw [List.filter_cons_of_neg (by simpa using hk)]
      exact ih
    · rw [List.filter_cons_of_pos (by simpa using hk), get?, if_neg hk]
      exact ih

theorem get?_erase_of_ne {other : String} (h : other ≠ key) (d : Dict α) :
    get? (erase d key) other = get? d other := by
  induction d with
  | nil => rfl
  | cons entry rest ih =>
    rw [erase] at ih ⊢
    by_cases hk : entry.1 = key
    · have hother : entry.1 ≠ other := fun he => h (he.symm.trans hk)
      rw [List.filter_cons_of_neg (by simpa using hk), get?, if_neg hother]
      exact ih
    · rw [List.filter_cons_of_pos (by simpa using hk), get?, get?, ih]

/-- A key without a value has nothing to erase. -/
theorem erase_eq_self (h : get? d key = none) : erase d key = d := by
  refine List.filter_eq_self.mpr ?_
  induction d with
  | nil => exact List.forall_mem_nil _
  | cons entry rest ih =>
    rw [get?] at h
    split at h
    · cases h
    · rename_i hk
      exact List.forall_mem_cons.mpr ⟨by simpa using hk, ih h⟩

/-! ### Entries of different keys -/

theorem insert_perm (h : ∀ entry ∈ d, entry.1 ≠ key) :
    (insert key value d).Perm ((key, value) :: d) := by
  induction d with
  | nil => exact .refl _
  | cons first rest ih =>
    obtain ⟨k, v⟩ := first
    obtain ⟨hk, hrest⟩ := List.forall_mem_cons.mp h
    unfold insert
    split
    · exact .refl _
    · rw [if_neg (Ne.symm hk)]
      exact ((ih hrest).cons (k, v)).trans (.swap ..)

theorem insertAll_perm {entries : List (String × α)} (hd : ((d ++ entries).map Prod.fst).Nodup) :
    (insertAll d entries).Perm (d ++ entries) := by
  induction entries generalizing d with
  | nil => rw [List.append_nil]; exact .refl d
  | cons entry rest ih =>
    obtain ⟨k, v⟩ := entry
    have hmiddle : (d ++ (k, v) :: rest).Perm ((k, v) :: d ++ rest) := List.perm_middle
    have hnew : ∀ other ∈ d, other.1 ≠ k := by
      intro other hother hsame
      have hnodup := (hmiddle.map Prod.fst).nodup_iff.mp hd
      rw [List.cons_append, List.map_cons, List.nodup_cons] at hnodup
      exact hnodup.1 (List.mem_map.mpr ⟨other, List.mem_append_left _ hother, hsame⟩)
    have hstep : (insert k v d ++ rest).Perm (d ++ (k, v) :: rest) :=
      ((insert_perm hnew).append_right rest).trans hmiddle.symm
    exact (ih ((hstep.map Prod.fst).nodup_iff.mpr hd)).trans hstep

/-- Where the keys differ, the dictionary is the entries in another order. -/
theorem ofEntries_perm {entries : List (String × α)} (h : (entries.map Prod.fst).Nodup) :
    (ofEntries entries).Perm entries := insertAll_perm (d := []) h

theorem mem_ofEntries {entries : List (String × α)} (h : (entries.map Prod.fst).Nodup)
    {entry : String × α} (hentry : entry ∈ entries) : entry ∈ ofEntries entries :=
  (ofEntries_perm h).mem_iff.mpr hentry

/-- Entries that ascend are a dictionary already. -/
theorem ofEntries_eq_self {entries : List (String × α)} (h : Ascending entries) :
    ofEntries entries = entries := by
  refine List.Perm.eq_of_pairwise ?_ (ascending_ofEntries entries) h (ofEntries_perm h.nodup_keys)
  intro a b _ _ hab hba
  exact absurd (lt_trans hab hba) (lt_irrefl a.1)

/-! ### Dictionaries with related values -/

/-- The same keys, with related values. -/
abbrev Related (R : α → β → Prop) (d : Dict α) (d' : Dict β) : Prop :=
  List.Forall₂ (fun entry entry' => entry.1 = entry'.1 ∧ R entry.2 entry'.2) d d'

theorem Related.insert {R : α → β → Prop} {d : Dict α} {d' : Dict β} (h : Related R d d')
    (key : String) {value : α} {value' : β} (hvalue : R value value') :
    Related R (Dict.insert key value d) (Dict.insert key value' d') := by
  induction h with
  | nil => exact .cons ⟨rfl, hvalue⟩ .nil
  | @cons entry entry' rest rest' hentry hrest ih =>
    obtain ⟨k, v⟩ := entry
    obtain ⟨k', v'⟩ := entry'
    obtain ⟨rfl, hv⟩ := hentry
    unfold Dict.insert
    split
    · exact .cons ⟨rfl, hvalue⟩ (.cons ⟨rfl, hv⟩ hrest)
    · split
      · exact .cons ⟨rfl, hvalue⟩ hrest
      · exact .cons ⟨rfl, hv⟩ ih

theorem Related.insertAll {R : α → β → Prop} {entries : List (String × α)}
    {entries' : List (String × β)} (hentries : Related R entries entries') {d : Dict α}
    {d' : Dict β} (h : Related R d d') :
    Related R (Dict.insertAll d entries) (Dict.insertAll d' entries') := by
  induction hentries generalizing d d' with
  | nil => exact h
  | @cons entry entry' rest rest' hentry _ ih =>
    obtain ⟨k, v⟩ := entry
    obtain ⟨k', v'⟩ := entry'
    obtain ⟨rfl, hv⟩ := hentry
    exact ih (h.insert k hv)

theorem Related.ofEntries {R : α → β → Prop} {entries : List (String × α)}
    {entries' : List (String × β)} (h : Related R entries entries') :
    Related R (Dict.ofEntries entries) (Dict.ofEntries entries') := h.insertAll .nil

theorem Related.eq_mapValues {f : β → α} {d' : Dict β} (h : Related (fun a b => a = f b) d d') :
    d = d'.mapValues f := by
  induction h with
  | nil => rfl
  | @cons entry entry' rest rest' hentry _ ih =>
    rw [mapValues, List.map_cons, ← mapValues, ← ih, ← hentry.1, ← hentry.2]

end Retrieval.Dict

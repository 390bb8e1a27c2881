/-
  Retrieval/Dict.lean
  ===================
  **Dictionaries with text keys, kept in the order of their keys.**

  A dictionary is a list of entries that ascends strictly by key, where keys are
  compared by code points.  Two dictionaries with the same entries are therefore the
  same list: the order in which entries arrived leaves no trace, and what is written
  out is sorted.  `insert` replaces the value of a key that is already there, so the
  last of several values for one key is the one that stays.
-/

namespace Retrieval

/-- A dictionary: entries in ascending order of their keys. -/
abbrev Dict (α : Type) := List (String × α)

namespace Dict

variable {α β : Type}

/-- Enter a value under a key.  An earlier value of the key is replaced. -/
def insert (key : String) (value : α) : Dict α → Dict α
  | [] => [(key, value)]
  | (k, v) :: rest =>
    if key < k then (key, value) :: (k, v) :: rest
    else if key = k then (key, value) :: rest
    else (k, v) :: insert key value rest

/-- Enter a list of entries, the first one first. -/
def insertAll (dict : Dict α) (entries : List (String × α)) : Dict α :=
  entries.foldl (fun d entry => d.insert entry.1 entry.2) dict

/-- The dictionary of a list of entries.  The last value of a repeated key stays. -/
def ofEntries (entries : List (String × α)) : Dict α := insertAll [] entries

def get? (dict : Dict α) (key : String) : Option α :=
  match dict with
  | [] => none
  | (k, v) :: rest => if k = key then some v else get? rest key

def erase (dict : Dict α) (key : String) : Dict α := dict.filter fun entry => entry.1 ≠ key

def mapValues (f : α → β) (dict : Dict α) : Dict β := dict.map fun entry => (entry.1, f entry.2)

@[simp] theorem get?_insert_self (key : String) (value : α) (dict : Dict α) :
    get? (insert key value dict) key = some value := by
  induction dict with
  | nil => simp [insert, get?]
  | cons entry rest ih =>
    obtain ⟨k, v⟩ := entry
    unfold insert
    split
    · simp [get?]
    · split
      · simp [get?]
      · rename_i h
        have : k ≠ key := fun e => h e.symm
        simp [get?, this, ih]

/-- Entering under one key leaves the others as they are. -/
theorem get?_insert_of_ne {key other : String} (h : other ≠ key) (value : α) (dict : Dict α) :
    get? (insert key value dict) other = get? dict other := by
  have h' : key ≠ other := fun e => h e.symm
  induction dict with
  | nil => simp [insert, get?, h']
  | cons entry rest ih =>
    obtain ⟨k, v⟩ := entry
    unfold insert
    split
    · simp [get?, h']
    · split
      · rename_i hk; subst hk; simp [get?, h']
      · by_cases hko : k = other
        · simp [get?, hko]
        · simp [get?, hko, ih]

/-- Entering a list of entries leaves the keys it does not name as they are. -/
theorem get?_insertAll_of_forall_ne {key : String} {entries : List (String × α)}
    (h : ∀ entry ∈ entries, entry.1 ≠ key) (dict : Dict α) :
    get? (insertAll dict entries) key = get? dict key := by
  induction entries generalizing dict with
  | nil => rfl
  | cons entry rest ih =>
    obtain ⟨hentry, hrest⟩ := List.forall_mem_cons.mp h
    calc get? (insertAll (insert entry.1 entry.2 dict) rest) key
        = get? (insert entry.1 entry.2 dict) key := ih hrest _
      _ = get? dict key := get?_insert_of_ne (Ne.symm hentry) entry.2 dict

end Dict

end Retrieval

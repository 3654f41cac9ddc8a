/-!
# Dictionaries

A dictionary is a list of keyed values in the order of the keys, each key at most once. Keys are
ordered by the code points of their characters.

## Main definitions

* `insert`: a dictionary with a value put under a key, in place of an earlier one
* `ofList`: the dictionary of some pairs, where the last value of a key counts
-/

namespace HostConsole

/-- Values by key. -/
abbrev Dictionary (α : Type) := List (String × α)

namespace Dictionary

variable {α : Type}

/-- The dictionary with the value under the key, in place of an earlier one. -/
def insert (key : String) (value : α) : Dictionary α → Dictionary α
  | [] => [(key, value)]
  | (k, v) :: rest =>
    if key = k then (key, value) :: rest
    else if key < k then (key, value) :: (k, v) :: rest
    else (k, v) :: insert key value rest

/-- The dictionary of some pairs; the last value of a key counts. -/
def ofList (pairs : List (String × α)) : Dictionary α :=
  pairs.foldl (fun entries pair => insert pair.1 pair.2 entries) []

/-- The value under a key. -/
def get? (entries : Dictionary α) (key : String) : Option α :=
  entries.lookup key

@[simp] theorem ofList_nil : ofList ([] : List (String × α)) = [] := rfl

@[simp] theorem get?_nil (key : String) : get? ([] : Dictionary α) key = none := rfl

/-- A dictionary finds what was put in last. -/
@[simp] theorem get?_insert_self (key : String) (value : α) (entries : Dictionary α) :
    get? (insert key value entries) key = some value := by
  induction entries with
  | nil => simp [insert, get?]
  | cons entry rest ih =>
    obtain ⟨k, v⟩ := entry
    unfold insert
    by_cases h : key = k
    · rw [if_pos h]
      simp [get?]
    · rw [if_neg h]
      by_cases hlt : key < k
      · rw [if_pos hlt]
        simp [get?]
      · rw [if_neg hlt]
        have hne : (key == k) = false := by simpa using h
        unfold get? at ih ⊢
        rw [List.lookup_cons, hne]
        exact ih

end Dictionary

end HostConsole

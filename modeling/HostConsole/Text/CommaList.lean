import HostConsole.Text.Blank

/-!
# Lists of names

The values of an option that takes several names, and of one that takes pairs.

## Main definitions

* `cleanList`: the names without white space around them, blank ones left out
* `pairs`: values two by two
-/

namespace HostConsole.Text

/-- The values without white space at their ends, blank ones left out. -/
def cleanList (values : List String) : List String :=
  (values.map trimmed).filter fun value => value != ""

/-- The values two by two; a last one without a partner is left out. -/
def pairs {α : Type} : List α → List (α × α)
  | first :: second :: rest => (first, second) :: pairs rest
  | _ => []

@[simp] theorem cleanList_nil : cleanList [] = [] := rfl

/-- A clean list holds no empty name. -/
theorem ne_empty_of_mem_cleanList {values : List String} {name : String}
    (h : name ∈ cleanList values) : name ≠ "" := by
  simpa using (List.mem_filter.1 h).2

end HostConsole.Text

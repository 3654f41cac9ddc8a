import HostConsole.Text.Uppercase

/-!
# Labels and lists

## Main definitions

* `defaultLabel`: the label of a column that is named after its key
* `bracketed`: values in brackets
-/

namespace HostConsole.Output

/-- The label of a key: the parts between its underscores, each with an upper-case first letter,
with a space between two of them. -/
def defaultLabel (key : String) : String :=
  let parts := (key.toList.splitOn '_').filter fun part => !part.isEmpty
  .ofList (List.intercalate [' '] (parts.map Text.capitalize))

/-- Values in brackets, with commas between them. -/
def bracketed (values : List String) : String :=
  "[ " ++ String.intercalate ", " values ++ " ]"

@[simp] theorem bracketed_nil : bracketed [] = "[  ]" := rfl

end HostConsole.Output

import HostConsole.Text.UppercaseTable

/-!
# Upper case

The full upper-case mapping of Unicode, without any locale.

## Main definitions

* `upper`: the upper case of a letter, one character or several
* `capitalize`: a word with an upper-case first letter
-/

namespace HostConsole.Text

/-- The upper case of a letter that the table gives one character. -/
def simpleUpper (code : Nat) : Nat :=
  match upperRanges.find? fun (first, last, distance, _) =>
      first ≤ code && code ≤ last && (code - first) % distance == 0 with
  | some (_, _, _, offset) => (code + offset).toNat
  | none => code

/-- The upper case of a character, which is the character itself when it has none. -/
def upper (c : Char) : List Char :=
  match upperExpansions.lookup c.toNat with
  | some codes => codes.map Char.ofNat
  | none => [Char.ofNat (simpleUpper c.toNat)]

/-- A word with an upper-case first letter, all else as it is. -/
def capitalize : List Char → List Char
  | [] => []
  | first :: rest => upper first ++ rest

@[simp] theorem capitalize_nil : capitalize [] = [] := rfl

end HostConsole.Text

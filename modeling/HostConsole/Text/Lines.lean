/-!
# Lines

A line ends at a line feed, and a carriage return just before the line feed belongs to the end
of the line. Text after the last line feed is a line of its own when there is any.

## Main definitions

* `lines`: the lines of a text, without their ends
* `stripPrefix?`: a text without a given beginning
-/

namespace HostConsole.Text

/-- The text after the given beginning, or `none` when it does not begin so. -/
def stripPrefix? (start : String) (cs : List Char) : Option (List Char) :=
  start.toList.isPrefixOf? cs

/-- A line that a line feed has ended, without a carriage return at its end. -/
def withoutReturn (line : List Char) : List Char :=
  if line.getLast? = some '\r' then line.dropLast else line

/-- The lines of the pieces between line feeds: every piece but the last was ended by a line
feed, and the last is a line only when it holds text. -/
def linesOfPieces : List (List Char) → List (List Char)
  | [] => []
  | [last] => if last.isEmpty then [] else [last]
  | piece :: rest => withoutReturn piece :: linesOfPieces rest

/-- The lines of a text, without their ends. -/
def lines (cs : List Char) : List (List Char) :=
  linesOfPieces (cs.splitOn '\n')

@[simp] theorem lines_nil : lines [] = [] := rfl

/-- A carriage return stays in a line that no line feed ends. -/
example : lines "a\r\nb\n\nc\r".toList = [['a'], ['b'], [], ['c', '\r']] := by decide

end HostConsole.Text

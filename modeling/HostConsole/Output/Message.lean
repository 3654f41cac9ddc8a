import HostConsole.Output.Layout

/-!
# Messages

What a command tells its user.

## Main definitions

* `Message`: a line, some rows or a single row
* `Message.render`: the text of a message
-/

namespace HostConsole.Output

/-- What a command tells its user. -/
inductive Message where
  /-- A line. -/
  | line (text : String)
  /-- A line about what was done. -/
  | success (text : String)
  /-- A line about what could not be done. -/
  | failure (text : String)
  | rows (layout : Layout) (rows : List Row)
  | row (layout : Layout) (row : Row)
  deriving DecidableEq, Repr

/-- The text of a message. -/
def Message.render (colors : Bool) : Message → String
  | line text => text ++ "\n"
  | success text => Text.paint colors .green text ++ "\n"
  | failure text => Text.paint colors .red text ++ "\n"
  | rows layout items => layout.renderItems colors items
  | row layout item => layout.renderItem colors item

end HostConsole.Output

/-!
# Terminal styles

A style is switched on in front of a text and reset behind it. A text that already resets
inside gets the style switched on again at that place.

## Main definitions

* `Style`: the styles in use
* `Style.apply`: a text in a style
* `paint`: a text in a style where colours are on
-/

namespace HostConsole.Text

/-- The styles of terminal output. -/
inductive Style where
  | bold
  | red
  | green
  | yellow
  | alarm
  deriving DecidableEq, Repr

/-- The sequence that ends every style. -/
def resetSequence : List Char :=
  "\x1b[0m".toList

/-- The sequence that switches a style on. -/
def Style.sequence : Style → List Char
  | .bold => "\x1b[1m".toList
  | .red => "\x1b[31m".toList
  | .green => "\x1b[32m".toList
  | .yellow => "\x1b[33m".toList
  | .alarm => "\x1b[1;31m".toList

/-- The text with `again` behind every reset inside it; `skip` counts the characters of a reset
that are still to be passed over. -/
def resume (again : List Char) : Nat → List Char → List Char
  | _, [] => []
  | skip + 1, c :: rest =>
    if skip = 0 then c :: (again ++ resume again 0 rest) else c :: resume again skip rest
  | 0, c :: rest =>
    if resetSequence.isPrefixOf (c :: rest) then
      c :: resume again (resetSequence.length - 1) rest
    else c :: resume again 0 rest

/-- A text in a style. -/
def Style.apply (style : Style) (cs : List Char) : List Char :=
  style.sequence ++ resume style.sequence 0 cs ++ resetSequence

/-- A text in a style where colours are on, and the text alone where they are off. -/
def paint (colors : Bool) (style : Style) (text : String) : String :=
  if colors then .ofList (style.apply text.toList) else text

@[simp] theorem paint_false (style : Style) (text : String) : paint false style text = text := rfl

end HostConsole.Text

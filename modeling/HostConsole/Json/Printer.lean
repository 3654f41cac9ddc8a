import HostConsole.Json.Basic
import HostConsole.Number.Decimal

/-!
# The text of a JSON value

Values are written without white space. In strings only the quote, the backslash and the control
characters are escaped.

## Main definitions

* `Json.render`: the text of a value
-/

namespace HostConsole.Json

/-- Four hexadecimal digits. -/
def hexDigits4 (n : Nat) : List Char :=
  let digits := Nat.toDigits 16 n
  List.replicate (4 - digits.length) '0' ++ digits

/-- A character inside a string. -/
def escape (c : Char) : List Char :=
  if c = '"' then ['\\', '"']
  else if c = '\\' then ['\\', '\\']
  else if c = '\x08' then ['\\', 'b']
  else if c = '\x0c' then ['\\', 'f']
  else if c = '\n' then ['\\', 'n']
  else if c = '\r' then ['\\', 'r']
  else if c = '\t' then ['\\', 't']
  else if c.toNat < 0x20 then '\\' :: 'u' :: hexDigits4 c.toNat
  else [c]

/-- A string with its quotes. -/
def renderString (s : String) : List Char :=
  '"' :: (s.toList.flatMap escape ++ ['"'])

/-- A number. -/
def Number.render : Number → List Char
  | .integer n => (toString n).toList
  | .float x => x.renderWith Binary64.textFormat

mutual

/-- The characters of a value's text. -/
def chars : Json → List Char
  | null | defect => "null".toList
  | bool true => "true".toList
  | bool false => "false".toList
  | number n => n.render
  | string s => renderString s
  | array items => '[' :: (charsOfItems items ++ [']'])
  | object fields => '\x7b' :: (charsOfFields fields ++ ['\x7d'])

/-- Items with commas between them. -/
def charsOfItems : List Json → List Char
  | [] => []
  | [item] => chars item
  | item :: rest => chars item ++ ',' :: charsOfItems rest

/-- Fields with commas between them. -/
def charsOfFields : List (String × Json) → List Char
  | [] => []
  | [(key, value)] => renderString key ++ ':' :: chars value
  | (key, value) :: rest => renderString key ++ ':' :: (chars value ++ ',' :: charsOfFields rest)

end

/-- The text of a value. -/
def render (value : Json) : String :=
  .ofList (chars value)

end HostConsole.Json

/-!
# Writing TOML strings

A string is written in the plainest of five forms that can hold it.

## Main definitions

* `StringForm`: the five forms
* `formOf`: the form of a text
* `writeString`: a text in its form
-/

namespace HostConsole.Toml

/-- The forms of a string. -/
inductive StringForm where
  /-- Quotes around, backslash escapes inside. -/
  | basic
  /-- Apostrophes around, no escapes. -/
  | literal
  /-- Three quotes around, backslash escapes inside. -/
  | basicLines
  /-- Three apostrophes around, no escapes. -/
  | literalLines
  deriving DecidableEq, Repr

/-- Does the character need an escape wherever it stands? -/
def needsEscape (c : Char) : Bool :=
  (c.toNat < 0x20 || c.toNat == 0x7F) && c != '\t' && c != '\n'

/-- The length of the longest run of a character in a text, `run` of which end just before it. -/
def longestRun (quote : Char) (run : Nat) : List Char → Nat
  | [] => run
  | c :: rest =>
    if c = quote then longestRun quote (run + 1) rest else max run (longestRun quote 0 rest)

/-- The plainest form that can hold a text. -/
def formOf (cs : List Char) : StringForm :=
  let codes := cs.any needsEscape
  let backslash := cs.contains '\\'
  let newline := cs.contains '\n'
  let quotes := longestRun '"' 0 cs
  let apostrophes := longestRun '\'' 0 cs
  if !codes && !backslash && quotes == 0 && !newline then .basic
  else if !codes && apostrophes == 0 && !newline then .literal
  else if !codes && !backslash && quotes ≤ 2 then .basicLines
  else if !codes && apostrophes ≤ 2 then .literalLines
  else if newline then .basicLines
  else .basic

/-- A hexadecimal digit. -/
def hexDigit (n : Nat) : Char :=
  if n < 10 then Char.ofNat (48 + n) else Char.ofNat (55 + n)

/-- A character as an escape, or as it is. -/
def escapeChar (c : Char) : List Char :=
  if c = '\x08' then ['\\', 'b']
  else if c = '\t' then ['\\', 't']
  else if c = '\n' then ['\\', 'n']
  else if c = '\x0c' then ['\\', 'f']
  else if c = '\r' then ['\\', 'r']
  else if c = '"' then ['\\', '"']
  else if c = '\\' then ['\\', '\\']
  else if needsEscape c then
    ['\\', 'u', '0', '0', hexDigit (c.toNat / 16), hexDigit (c.toNat % 16)]
  else [c]

/-- The inside of a string of several lines, `run` quotes standing just before it: every third
quote in a row is escaped. -/
def escapeLines (run : Nat) : List Char → List Char
  | [] => []
  | c :: rest =>
    if c = '"' then
      if run = 2 then '\\' :: '"' :: escapeLines 0 rest else '"' :: escapeLines (run + 1) rest
    else if c = '\n' then '\n' :: escapeLines 0 rest
    else escapeChar c ++ escapeLines 0 rest

/-- A text in a form. A text of several lines begins on a line of its own. -/
def writeIn (form : StringForm) (cs : List Char) : List Char :=
  let start := if cs.contains '\n' then ['\n'] else []
  match form with
  | .basic => '"' :: (cs.flatMap escapeChar ++ ['"'])
  | .literal => '\'' :: (cs ++ ['\''])
  | .basicLines => ['"', '"', '"'] ++ start ++ escapeLines 0 cs ++ ['"', '"', '"']
  | .literalLines => ['\'', '\'', '\''] ++ start ++ cs ++ ['\'', '\'', '\'']

/-- A text as a string. -/
def writeString (s : String) : String :=
  .ofList (writeIn (formOf s.toList) s.toList)

end HostConsole.Toml

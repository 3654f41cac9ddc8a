/-!
# Faults of a JSON text

## Main definitions

* `Json.FaultKind`, `Json.Fault`: what is wrong with a text, and where
* `Json.Fault.message`: the fault in words, with its line and column
-/

namespace HostConsole.Json

/-- What is wrong with a text. -/
inductive FaultKind where
  | unfinishedList
  | unfinishedObject
  | unfinishedString
  | unfinishedValue
  | colonExpected
  | itemSeparatorExpected
  | fieldSeparatorExpected
  | wordExpected
  | valueExpected
  | badEscape
  | badNumber
  | numberOutOfRange
  | badCodePoint
  | controlCharacter
  | keyNotText
  | loneSurrogate
  | unfinishedPair
  | trailingComma
  | trailingText
  | tooDeep
  deriving DecidableEq, Repr

/-- A fault at the place that `offset` bytes lead up to. -/
structure Fault where
  kind : FaultKind
  offset : Nat
  deriving DecidableEq, Repr

/-- The fault in words. -/
def FaultKind.message : FaultKind → String
  | unfinishedList => "EOF while parsing a list"
  | unfinishedObject => "EOF while parsing an object"
  | unfinishedString => "EOF while parsing a string"
  | unfinishedValue => "EOF while parsing a value"
  | colonExpected => "expected `:`"
  | itemSeparatorExpected => "expected `,` or `]`"
  | fieldSeparatorExpected => "expected `,` or `\x7d`"
  | wordExpected => "expected ident"
  | valueExpected => "expected value"
  | badEscape => "invalid escape"
  | badNumber => "invalid number"
  | numberOutOfRange => "number out of range"
  | badCodePoint => "invalid unicode code point"
  | controlCharacter => "control character (\\u0000-\\u001F) found while parsing a string"
  | keyNotText => "key must be a string"
  | loneSurrogate => "lone leading surrogate in hex escape"
  | unfinishedPair => "unexpected end of hex escape"
  | trailingComma => "trailing comma"
  | trailingText => "trailing characters"
  | tooDeep => "recursion limit exceeded"

/-- The line of a place, counted from one, and how many bytes of it lead up to the place. -/
def lineAndColumn (text : List UInt8) (offset : Nat) : Nat × Nat :=
  let before := text.take offset
  (1 + before.count 10, (before.reverse.takeWhile (· != 10)).length)

/-- The fault in words, with its line and column. -/
def Fault.message (text : List UInt8) (fault : Fault) : String :=
  let (line, column) := lineAndColumn text fault.offset
  fault.kind.message ++ " at line " ++ Nat.repr line ++ " column " ++ Nat.repr column

end HostConsole.Json

import HostConsole.Json.Fault
import HostConsole.Json.Numeral
import HostConsole.Text.Utf8

/-!
# Reading JSON

A text is read byte by byte. A part that is well formed but denotes nothing becomes a defect, and
the reading goes on; the first such part is remembered. A part that is not well formed ends the
reading.

## Main definitions

* `Json.Cursor`, `Json.Scan`: a place in a text, and reading from it
* `Json.read`: the value of a text, defects allowed, and its first flaw
* `Json.readStrict`: the value of a text without flaws, in normal form
-/

namespace HostConsole.Json

/-- A place in a text that is being read. -/
structure Cursor where
  /-- The bytes that follow. -/
  rest : List UInt8
  /-- How many bytes lead up to here. -/
  offset : Nat
  /-- The first part that was well formed and denoted nothing. -/
  flaw : Option Fault

/-- Reading from a place on. -/
abbrev Scan := StateT Cursor (Except Fault)

namespace Scan

/-- The next byte. -/
def peek? : Scan (Option UInt8) := do
  return (← get).rest.head?

/-- Passes over the next byte. -/
def skip : Scan Unit :=
  modify fun c => match c.rest with
    | [] => c
    | _ :: rest => { c with rest, offset := c.offset + 1 }

/-- Takes the bytes while they are of a kind. -/
def takeWhile (p : UInt8 → Bool) : Scan (List UInt8) := do
  let c ← get
  let taken := c.rest.takeWhile p
  set { c with rest := c.rest.drop taken.length, offset := c.offset + taken.length }
  return taken

/-- Ends the reading with a fault at a place, or with the first flaw when there was one. -/
def failAt {α : Type} (kind : FaultKind) (offset : Nat) : Scan α := do
  throw ((← get).flaw.getD ⟨kind, offset⟩)

/-- Ends the reading with a fault at this place. -/
def failHere {α : Type} (kind : FaultKind) : Scan α := do
  failAt kind (← get).offset

/-- Ends the reading with a fault at the next byte, or at the end of the text. -/
def failNext {α : Type} (kind : FaultKind) : Scan α := do
  let c ← get
  failAt kind (if c.rest.isEmpty then c.offset else c.offset + 1)

/-- Remembers a flaw at a place, when it is the first one. -/
def flawAt (kind : FaultKind) (offset : Nat) : Scan Unit :=
  modify fun c => { c with flaw := c.flaw.or (some ⟨kind, offset⟩) }

/-- Remembers a flaw at this place. -/
def flawHere (kind : FaultKind) : Scan Unit := do
  flawAt kind (← get).offset

/-- Remembers a flaw at the next byte. -/
def flawNext (kind : FaultKind) : Scan Unit := do
  let c ← get
  flawAt kind (if c.rest.isEmpty then c.offset else c.offset + 1)

/-- Passes over white space and gives the next byte. -/
def blanks : Scan (Option UInt8) := do
  let _ ← takeWhile fun b => b == 32 || b == 10 || b == 9 || b == 13
  peek?

end Scan

open Scan

/-- The byte of a character of ASCII. -/
def byteOf (c : Char) : UInt8 :=
  UInt8.ofNat c.toNat

/-- Is the byte a decimal digit? -/
def isDigit (b : UInt8) : Bool :=
  byteOf '0' ≤ b && b ≤ byteOf '9'

/-- The value of a decimal digit. -/
def digitValue (b : UInt8) : Nat :=
  b.toNat - 48

/-- The value of a hexadecimal digit. -/
def hexValue? (b : UInt8) : Option Nat :=
  if isDigit b then some (b.toNat - 48)
  else if byteOf 'a' ≤ b && b ≤ byteOf 'f' then some (b.toNat - 87)
  else if byteOf 'A' ≤ b && b ≤ byteOf 'F' then some (b.toNat - 55)
  else none

/-- Takes digits, of which there must be one. -/
def digits1 : Scan (List Nat) := do
  let digits ← takeWhile isDigit
  if digits.isEmpty then
    match ← peek? with
    | none => failHere .unfinishedValue
    | some _ => failNext .badNumber
  else return digits.map digitValue

/-- The exponent of a number, when there is one: its sign, its digits and the place where they
begin. -/
def readExponent : Scan (Option (Bool × List Nat × Nat)) := do
  let b ← peek?
  if b = some (byteOf 'e') ∨ b = some (byteOf 'E') then
    skip
    let sign ← peek?
    if sign = some (byteOf '+') ∨ sign = some (byteOf '-') then skip
    let start := (← get).offset
    let digits ← digits1
    return some (sign = some (byteOf '-'), digits, start)
  else return none

/-- How many digits of an exponent are read until it exceeds the largest one. -/
def exponentReach (digits : List Nat) : Nat :=
  ((List.range digits.length).find? fun k => largestExponent < ofDigits (digits.take (k + 1))).getD
    digits.length + 1

/-- A number behind its sign. A number that is out of range is a defect. -/
def readNumber (negative : Bool) : Scan Json := do
  let whole ← digits1
  if 1 < whole.length ∧ whole.head? = some 0 then
    failAt .badNumber ((← get).offset - whole.length + 2)
  let fraction ← do
    if (← peek?) = some (byteOf '.') then
      skip
      pure (some (← digits1))
    else pure none
  let exponent ← readExponent
  let numeral : Numeral :=
    { negative, whole, fraction, exponent := exponent.map fun (down, digits, _) => (down, digits) }
  match numeral.value? with
  | some n => return .number n
  | none =>
    match exponent with
    | some (_, digits, start) =>
      if numeral.hasHugeExponent then flawAt .numberOutOfRange (start + exponentReach digits)
      else flawHere .numberOutOfRange
    | none => flawHere .numberOutOfRange
    return .defect

/-- The four hexadecimal digits of an escape. -/
def readHex4 : Scan Nat := do
  let c ← get
  match c.rest with
  | a :: b :: d :: e :: rest =>
    set { c with rest, offset := c.offset + 4 }
    match hexValue? a, hexValue? b, hexValue? d, hexValue? e with
    | some a, some b, some d, some e => return ((a * 16 + b) * 16 + d) * 16 + e
    | _, _, _, _ => failHere .badEscape
  | rest =>
    set { c with rest := [], offset := c.offset + rest.length }
    failHere .unfinishedString

/-- Is the code the first half of a surrogate pair? -/
def isHighSurrogate (code : Nat) : Bool := 0xD800 ≤ code && code ≤ 0xDBFF

/-- Is the code the second half of a surrogate pair? -/
def isLowSurrogate (code : Nat) : Bool := 0xDC00 ≤ code && code ≤ 0xDFFF

/-- What an escape of four digits denotes, behind its letter. Half of a surrogate pair denotes
nothing, and the text behind it is read as usual. -/
def readCodeEscape : Scan (Option (List UInt8)) := do
  let code ← readHex4
  if isLowSurrogate code then
    flawHere .loneSurrogate
    return none
  else if isHighSurrogate code then
    let c ← get
    match c.rest with
    | [] => failHere .unfinishedString
    | a :: after =>
      if a ≠ byteOf '\\' then
        flawNext .unfinishedPair
        return none
      else match after with
        | [] => failAt .unfinishedString (c.offset + 1)
        | b :: _ =>
          if b ≠ byteOf 'u' then
            flawAt .unfinishedPair (c.offset + 2)
            return none
          else
            skip
            skip
            let low ← readHex4
            if isLowSurrogate low then
              let point := 0x10000 + (code - 0xD800) * 1024 + (low - 0xDC00)
              return some (String.utf8EncodeChar (Char.ofNat point))
            else
              flawHere .loneSurrogate
              return none
  else return some (String.utf8EncodeChar (Char.ofNat code))

/-- What an escape denotes, behind its backslash. -/
def readEscape : Scan (Option (List UInt8)) := do
  match ← peek? with
  | none => failHere .unfinishedString
  | some b =>
    skip
    if b = byteOf '"' ∨ b = byteOf '\\' ∨ b = byteOf '/' then return some [b]
    else if b = byteOf 'b' then return some [8]
    else if b = byteOf 'f' then return some [12]
    else if b = byteOf 'n' then return some [10]
    else if b = byteOf 'r' then return some [13]
    else if b = byteOf 't' then return some [9]
    else if b = byteOf 'u' then readCodeEscape
    else failHere .badEscape

/-- The bytes of a string behind its first quote, gathered in reverse; `none` when a part of the
string denotes nothing. -/
def readStringBytes : Nat → Option (List UInt8) → Scan (Option (List UInt8))
  | 0, _ => failHere .unfinishedString
  | fuel + 1, gathered => do
    match ← peek? with
    | none => failHere .unfinishedString
    | some b =>
      skip
      if b = byteOf '"' then return gathered
      else if b = byteOf '\\' then
        let part ← readEscape
        readStringBytes fuel do
          let bytes ← gathered
          return (← part).reverse ++ bytes
      else if b < 32 then failHere .controlCharacter
      else readStringBytes fuel (gathered.map (b :: ·))

/-- A string behind its first quote; `none` when it denotes nothing. -/
def readString : Scan (Option String) := do
  match ← readStringBytes ((← get).rest.length + 1) (some []) with
  | none => return none
  | some bytes =>
    match Utf8.text? bytes.reverse with
    | some s => return some s
    | none =>
      flawHere .badCodePoint
      return none

/-- The letters of a word behind its first one. -/
def readWord (value : Json) : List Char → Scan Json
  | [] => return value
  | c :: rest => do
    match ← peek? with
    | none => failHere .unfinishedValue
    | some b =>
      skip
      if b = byteOf c then readWord value rest else failHere .wordExpected

/-- How many containers stand inside each other at most. -/
def deepest : Nat := 127

/-- A container as it counts at a depth. -/
def atDepth (depth : Nat) (value : Json) : Json :=
  if depth < deepest then value else .defect

/-- Remembers that a container stands too deep. -/
def enter (depth : Nat) : Scan Unit := do
  if deepest ≤ depth then flawNext .tooDeep
  skip

mutual

/-- A value inside `depth` containers. -/
def readValue : Nat → Nat → Scan Json
  | 0, _ => failHere .unfinishedValue
  | fuel + 1, depth => do
    match ← blanks with
    | none => failHere .unfinishedValue
    | some b =>
      if b = byteOf 'n' then do skip; readWord .null "ull".toList
      else if b = byteOf 't' then do skip; readWord (.bool true) "rue".toList
      else if b = byteOf 'f' then do skip; readWord (.bool false) "alse".toList
      else if b = byteOf '-' then do
        skip
        match ← peek? with
        | none => failHere .unfinishedValue
        | some _ => readNumber true
      else if isDigit b then readNumber false
      else if b = byteOf '"' then do
        skip
        return match ← readString with
          | some s => .string s
          | none => .defect
      else if b = byteOf '[' then do
        enter depth
        match ← readItems fuel (depth + 1) true with
        | some items => return atDepth depth (.array items)
        | none => return .defect
      else if b = byteOf '\x7b' then do
        enter depth
        match ← readFields fuel (depth + 1) true with
        | some fields => return atDepth depth (.object fields)
        | none => return .defect
      else failNext .valueExpected

/-- The items of an array up to its end; `first` says that none was read yet. -/
def readItems : Nat → Nat → Bool → Scan (Option (List Json))
  | 0, _, _ => failHere .unfinishedList
  | fuel + 1, depth, first => do
    match ← blanks with
    | none => failHere .unfinishedList
    | some b =>
      if b = byteOf ']' then do
        skip
        return some []
      else
        if !first then
          if b ≠ byteOf ',' then failNext .itemSeparatorExpected
          skip
          match ← blanks with
          | none => failHere .unfinishedValue
          | some next => if next = byteOf ']' then failNext .trailingComma
        let item ← readValue fuel depth
        let rest ← readItems fuel depth false
        return rest.map (item :: ·)

/-- The fields of an object up to its end; `none` when a key denotes nothing. -/
def readFields : Nat → Nat → Bool → Scan (Option (List (String × Json)))
  | 0, _, _ => failHere .unfinishedObject
  | fuel + 1, depth, first => do
    match ← blanks with
    | none => failHere .unfinishedObject
    | some b =>
      if b = byteOf '\x7d' then do
        skip
        return some []
      else
        if !first then
          if b ≠ byteOf ',' then failNext .fieldSeparatorExpected
          skip
          match ← blanks with
          | none => failHere .unfinishedValue
          | some next => if next = byteOf '\x7d' then failNext .trailingComma
        if (← peek?) ≠ some (byteOf '"') then failNext .keyNotText
        skip
        let key ← readString
        match ← blanks with
        | none => failHere .unfinishedObject
        | some colon => if colon ≠ byteOf ':' then failNext .colonExpected
        skip
        let value ← readValue fuel depth
        let rest ← readFields fuel depth false
        return match key, rest with
          | some key, some rest => some ((key, value) :: rest)
          | _, _ => none

end

/-- A value with nothing but white space around it. -/
def readWhole (fuel : Nat) : Scan Json := do
  let value ← readValue fuel 0
  match ← blanks with
  | none => return value
  | some _ => failNext .trailingText

/-- The value of a text, with its first flaw. Each step uses up a byte or goes on to one that
does, so twice as many steps as bytes are enough. -/
def read (text : List UInt8) : Except Fault (Json × Option Fault) :=
  (readWhole (2 * text.length + 2)).run { rest := text, offset := 0, flaw := none }
    |>.map fun (value, cursor) => (value, cursor.flaw)

/-- The value of a text, in normal form, when all of it denotes something; else the first thing
that is wrong with it. -/
def readStrict (text : List UInt8) : Except Fault Json := do
  let (value, flaw) ← read text
  match flaw, value.normal? with
  | none, some value => return value
  | flaw, _ => throw (flaw.getD ⟨.valueExpected, 0⟩)

end HostConsole.Json

import HostConsole.Toml.Basic
import HostConsole.Toml.Scalar

/-!
# Reading TOML

A document is a list of lines: headers, values under keys, comments and empty lines. A value in
brackets may run over several lines.

## Main definitions

* `readValue?`: a value at the beginning of a text
* `readDocument?`: the entries of a whole document
-/

namespace HostConsole.Toml

/-- The text without the spaces at its beginning. -/
def skipSpaces (cs : List Char) : List Char :=
  cs.dropWhile isSpace

/-- The text behind a comment, when there is one. -/
def skipComment : List Char → List Char
  | '#' :: rest => rest.dropWhile isPlain
  | cs => cs

/-- The text behind the end of a line, before which spaces and a comment may stand. -/
def endLine? (cs : List Char) : Option (List Char) :=
  match skipComment (skipSpaces cs) with
  | [] => some []
  | cs => newline? cs

/-- Is the character one of a key without quotes? -/
def isKeyCharacter (c : Char) : Bool :=
  c.isAlphanum || c == '-' || c == '_'

/-- A key without dots. -/
def readSimpleKey? (cs : List Char) : Option (String × List Char) :=
  match cs with
  | '"' :: rest => (basic? (rest.length + 1) rest).map fun (key, rest) => (.ofList key, rest)
  | '\'' :: rest => (literal? rest).map fun (key, rest) => (.ofList key, rest)
  | _ =>
    let key := cs.takeWhile isKeyCharacter
    if key.isEmpty then none else some (.ofList key, cs.drop key.length)

/-- How many keys, brackets or braces stand inside each other at most. -/
def depthLimit : Nat := 80

/-- The keys of a dotted key, with the spaces around it; fewer than `fuel` of them. -/
def readKeys? : Nat → List Char → Option (List String × List Char)
  | 0, _ => none
  | fuel + 1, cs => do
    let (key, cs) ← readSimpleKey? (skipSpaces cs)
    match skipSpaces cs with
    | '.' :: rest =>
      let (keys, rest) ← readKeys? fuel rest
      return (key :: keys, rest)
    | cs => return ([key], cs)

/-- A dotted key. -/
def readKey? (cs : List Char) : Option (List String × List Char) :=
  readKeys? (depthLimit - 1) cs

/-- The text behind spaces, comments and line ends. -/
def skipFiller : Nat → List Char → List Char
  | 0, cs => cs
  | fuel + 1, cs =>
    let cs := skipComment (skipSpaces cs)
    match newline? cs with
    | some rest => skipFiller fuel rest
    | none => cs

/-- The value of a number, a date or a word. -/
def readPlain? (cs : List Char) : Option (Toml × List Char) :=
  match cs with
  | 't' :: 'r' :: 'u' :: 'e' :: rest => some (boolean true, rest)
  | 'f' :: 'a' :: 'l' :: 's' :: 'e' :: rest => some (boolean false, rest)
  | _ =>
    match skipDateTime? cs with
    | some rest => some (dateTime, rest)
    | none =>
      match skipFloat? cs with
      | some rest => some (float, rest)
      | none => (readInteger? cs).map fun (n, rest) => (integer n, rest)

mutual

/-- A value, `depth` brackets and braces more inside each other. -/
def readValue? : Nat → Nat → List Char → Option (Toml × List Char)
  | 0, _, _ => none
  | fuel + 1, depth, cs =>
    match cs with
    | '[' :: rest =>
      match depth with
      | 0 => none
      | depth + 1 =>
        (readItems? fuel depth rest).map fun (items, rest) => (array items, rest)
    | '\x7b' :: rest =>
      match depth with
      | 0 => none
      | depth + 1 => do
        match skipSpaces rest with
        | '\x7d' :: rest => return (table .inline [], rest)
        | rest =>
          let (pairs, rest) ← readPairs? fuel depth rest
          return (← inlineTable pairs, rest)
    | '"' :: _ | '\'' :: _ => (readString? cs).map fun (s, rest) => (text (.ofList s), rest)
    | _ => readPlain? cs

/-- The items of an array up to its end, a comma behind the last one allowed. -/
def readItems? : Nat → Nat → List Char → Option (List Toml × List Char)
  | 0, _, _ => none
  | fuel + 1, depth, cs =>
    match skipFiller cs.length cs with
    | ']' :: rest => some ([], rest)
    | cs => do
      let (item, cs) ← readValue? fuel depth cs
      match skipFiller cs.length cs with
      | ',' :: rest =>
        let (items, rest) ← readItems? fuel depth rest
        return (item :: items, rest)
      | ']' :: rest => return ([item], rest)
      | _ => none

/-- The pairs of a table in braces up to its end. -/
def readPairs? : Nat → Nat → List Char → Option ((List (List String × Toml)) × List Char)
  | 0, _, _ => none
  | fuel + 1, depth, cs => do
    let (keys, cs) ← readKey? cs
    match cs with
    | '=' :: rest =>
      let (value, cs) ← readValue? fuel depth (skipSpaces rest)
      match skipSpaces cs with
      | ',' :: rest =>
        let (pairs, rest) ← readPairs? fuel depth rest
        return ((keys, value) :: pairs, rest)
      | '\x7d' :: rest => return ([(keys, value)], rest)
      | _ => none
    | _ => none

end

/-- The state of reading a document: its entries so far, and the last header. -/
structure Progress where
  entries : Entries := []
  header : List String := []

/-- A line of a document, none of whose spaces stand at its beginning. -/
def readLine? (p : Progress) (cs : List Char) : Option (Progress × List Char) :=
  match cs with
  | '[' :: '[' :: rest => do
    let (path, rest) ← readKey? rest
    match rest with
    | ']' :: ']' :: rest =>
      return ({ entries := ← openItem p.entries path, header := path }, ← endLine? rest)
    | _ => none
  | '[' :: rest => do
    let (path, rest) ← readKey? rest
    match rest with
    | ']' :: rest =>
      return ({ entries := ← openTable p.entries path, header := path }, ← endLine? rest)
    | _ => none
  | _ =>
    match endLine? cs with
    | some rest => some (p, rest)
    | none => do
      let (keys, rest) ← readKey? cs
      match rest with
      | '=' :: rest =>
        let rest := skipSpaces rest
        let (value, rest) ← readValue? (2 * rest.length + 1) (depthLimit - 1) rest
        return ({ p with entries := ← assign p.entries p.header keys value }, ← endLine? rest)
      | _ => none

/-- The lines of a document. -/
def readLines? : Nat → Progress → List Char → Option Entries
  | 0, _, _ => none
  | fuel + 1, p, cs =>
    match skipSpaces cs with
    | [] => some p.entries
    | cs => do
      let (p, rest) ← readLine? p cs
      readLines? fuel p rest

/-- The entries of a document, at whose beginning a byte order mark may stand. -/
def readDocument? (cs : List Char) : Option Entries :=
  let cs := match cs with
    | '\uFEFF' :: rest => rest
    | _ => cs
  readLines? (cs.length + 1) {} cs

end HostConsole.Toml

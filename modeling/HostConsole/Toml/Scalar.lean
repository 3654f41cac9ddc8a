import HostConsole.Number.Binary64
import HostConsole.Number.Bound
import HostConsole.Output.Timestamp

/-!
# Scalars of TOML

Strings, numbers and dates at the beginning of a text.

## Main definitions

* `readString?`: a string in any of its four forms
* `readInteger?`, `skipFloat?`, `skipDateTime?`: numbers and dates
-/

namespace HostConsole.Toml

/-- Is the character a space or a tab? -/
def isSpace (c : Char) : Bool := c == ' ' || c == '\t'

/-- May the character stand in a comment or, quotes and backslashes apart, in a string? -/
def isPlain (c : Char) : Bool :=
  c == '\t' || (0x20 ≤ c.toNat && c.toNat ≠ 0x7F)

/-- The text behind a line feed, before which a carriage return may stand. -/
def newline? : List Char → Option (List Char)
  | '\n' :: rest => some rest
  | '\r' :: '\n' :: rest => some rest
  | _ => none

/-- The value of a hexadecimal digit. -/
def hexValue? (c : Char) : Option Nat :=
  if c.isDigit then some (c.toNat - 48)
  else if 'a' ≤ c ∧ c ≤ 'f' then some (c.toNat - 87)
  else if 'A' ≤ c ∧ c ≤ 'F' then some (c.toNat - 55)
  else none

/-- The character whose code has so many hexadecimal digits. -/
def codeEscape? (count : Nat) (cs : List Char) : Option (Char × List Char) := do
  let digits := cs.take count
  let values ← digits.mapM hexValue?
  let code := values.foldl (fun n d => n * 16 + d) 0
  if values.length = count ∧ (code < 0xD800 ∨ (0xE000 ≤ code ∧ code ≤ 0x10FFFF)) then
    some (Char.ofNat code, cs.drop count)
  else none

/-- The character of an escape, behind its backslash. -/
def escape? : List Char → Option (Char × List Char)
  | 'b' :: rest => some ('\x08', rest)
  | 't' :: rest => some ('\t', rest)
  | 'n' :: rest => some ('\n', rest)
  | 'f' :: rest => some ('\x0c', rest)
  | 'r' :: rest => some ('\r', rest)
  | '"' :: rest => some ('"', rest)
  | '\\' :: rest => some ('\\', rest)
  | 'u' :: rest => codeEscape? 4 rest
  | 'U' :: rest => codeEscape? 8 rest
  | _ => none

/-- A string with escapes, behind its quote. -/
def basic? : Nat → List Char → Option (List Char × List Char)
  | 0, _ => none
  | fuel + 1, cs =>
    match cs with
    | '"' :: rest => some ([], rest)
    | '\\' :: rest => do
      let (c, rest) ← escape? rest
      let (more, rest) ← basic? fuel rest
      return (c :: more, rest)
    | c :: rest =>
      if isPlain c then (basic? fuel rest).map fun (more, rest) => (c :: more, rest) else none
    | [] => none

/-- A string without escapes, behind its quote. -/
def literal? : List Char → Option (List Char × List Char)
  | [] => none
  | '\'' :: rest => some ([], rest)
  | c :: rest =>
    if isPlain c then (literal? rest).map fun (more, rest) => (c :: more, rest) else none

/-- Passes over spaces and line ends. -/
def skipBlankLines : Nat → List Char → List Char
  | 0, cs => cs
  | fuel + 1, cs =>
    let cs := cs.dropWhile isSpace
    match newline? cs with
    | some rest => skipBlankLines fuel rest
    | none => cs

/-- The end of a string in three quotes, at which one or two quotes more belong to it. -/
def closing? (quote : Char) (cs : List Char) : Option (List Char × List Char) :=
  let count := (cs.takeWhile (· == quote)).length
  if 3 ≤ count then
    let inside := min (count - 3) 2
    some (List.replicate inside quote, cs.drop (inside + 3))
  else none

/-- A string of several lines with escapes, behind its quotes. A backslash at the end of a line
joins it with what follows. -/
def basicLines? : Nat → List Char → Option (List Char × List Char)
  | 0, _ => none
  | fuel + 1, cs =>
    match closing? '"' cs with
    | some (quotes, rest) => some (quotes, rest)
    | none =>
      match newline? cs with
      | some rest => (basicLines? fuel rest).map fun (more, rest) => ('\n' :: more, rest)
      | none =>
        match cs with
        | '\\' :: rest =>
          match newline? (rest.dropWhile isSpace) with
          | some rest => basicLines? fuel (skipBlankLines rest.length rest)
          | none => do
            let (c, rest) ← escape? rest
            let (more, rest) ← basicLines? fuel rest
            return (c :: more, rest)
        | c :: rest =>
          if isPlain c then
            (basicLines? fuel rest).map fun (more, rest) => (c :: more, rest)
          else none
        | [] => none

/-- A string of several lines without escapes, behind its quotes. -/
def literalLines? : Nat → List Char → Option (List Char × List Char)
  | 0, _ => none
  | fuel + 1, cs =>
    match closing? '\'' cs with
    | some (quotes, rest) => some (quotes, rest)
    | none =>
      match newline? cs with
      | some rest => (literalLines? fuel rest).map fun (more, rest) => ('\n' :: more, rest)
      | none =>
        match cs with
        | c :: rest =>
          if isPlain c then
            (literalLines? fuel rest).map fun (more, rest) => (c :: more, rest)
          else none
        | [] => none

/-- The text without a line end at its beginning. -/
def withoutNewline (cs : List Char) : List Char :=
  (newline? cs).getD cs

/-- A string in any of its four forms. -/
def readString? : List Char → Option (List Char × List Char)
  | '"' :: '"' :: '"' :: rest => basicLines? (rest.length + 1) (withoutNewline rest)
  | '\'' :: '\'' :: '\'' :: rest => literalLines? (rest.length + 1) (withoutNewline rest)
  | '"' :: rest => basic? (rest.length + 1) rest
  | '\'' :: rest => literal? rest
  | _ => none

/-- Digits of a kind, single underscores between them; behind the first one. -/
def moreDigits (isDigit : Char → Bool) : List Char → List Char × List Char
  | '_' :: c :: rest =>
    if isDigit c then
      let (more, rest) := moreDigits isDigit rest
      (c :: more, rest)
    else ([], '_' :: c :: rest)
  | c :: rest =>
    if isDigit c then
      let (more, rest) := moreDigits isDigit rest
      (c :: more, rest)
    else ([], c :: rest)
  | [] => ([], [])

/-- Digits of a kind, single underscores between them. -/
def digits? (isDigit : Char → Bool) : List Char → Option (List Char × List Char)
  | c :: rest =>
    if isDigit c then
      let (more, rest) := moreDigits isDigit rest
      some (c :: more, rest)
    else none
  | [] => none

/-- Decimal digits of a whole number, where zero stands alone. -/
def wholeDigits? : List Char → Option (List Char × List Char)
  | '0' :: rest => some (['0'], rest)
  | cs => digits? Char.isDigit cs

/-- A sign, which may be missing: is it a minus? -/
def sign : List Char → Bool × List Char
  | '-' :: rest => (true, rest)
  | '+' :: rest => (false, rest)
  | cs => (false, cs)

/-- The number that digits of a base denote. -/
def valueOf (base : Nat) (digits : List Char) : Nat :=
  digits.foldl (fun n c => n * base + (hexValue? c).getD 0) 0

/-- An integer that fits 64 bits. -/
def inRange? (n : Int) (rest : List Char) : Option (Int × List Char) :=
  if fitsSigned n then some (n, rest) else none

/-- An integer of a base with a letter, behind the letter. -/
def readBased? (base : Nat) (cs : List Char) : Option (Int × List Char) := do
  let (digits, rest) ← digits? (fun c => ((hexValue? c).map fun d => decide (d < base)).getD false) cs
  inRange? (valueOf base digits) rest

/-- An integer. -/
def readInteger? : List Char → Option (Int × List Char)
  | '0' :: 'x' :: rest => readBased? 16 rest
  | '0' :: 'o' :: rest => readBased? 8 rest
  | '0' :: 'b' :: rest => readBased? 2 rest
  | cs => do
    let (negative, cs) := sign cs
    let (digits, rest) ← wholeDigits? cs
    let n : Int := valueOf 10 digits
    inRange? (if negative then -n else n) rest

/-- The exponent of a float. -/
def exponent? : List Char → Option (Int × List Char)
  | c :: rest =>
    if c = 'e' ∨ c = 'E' then do
      let (negative, rest) := sign rest
      let (digits, rest) ← digits? Char.isDigit rest
      let n : Int := valueOf 10 digits
      return (if negative then -n else n, rest)
    else none
  | [] => none

/-- Is a decimal number too large for a float? Powers of ten count up to a bound beyond which
their size alone decides. -/
def isTooLarge (significand : Nat) (exponent : Int) : Bool :=
  if significand = 0 ∨ exponent ≤ -400 then false
  else if 400 < exponent then true
  else if 0 ≤ exponent then
    (Binary64.ofRatio? false (significand * Nat.pow 10 exponent.toNat) 1).isNone
  else (Binary64.ofRatio? false significand (Nat.pow 10 (-exponent).toNat)).isNone

/-- The text behind a float. A positive one must not be too large. -/
def skipFloat? (cs : List Char) : Option (List Char) := do
  let (negative, cs) := sign cs
  match cs with
  | 'i' :: 'n' :: 'f' :: rest => return rest
  | 'n' :: 'a' :: 'n' :: rest => return rest
  | _ =>
    let (whole, rest) ← wholeDigits? cs
    let (fraction, rest, isFloat) ← match rest with
      | '.' :: rest => do
        let (fraction, rest) ← digits? Char.isDigit rest
        pure (fraction, rest, true)
      | _ => pure ([], rest, false)
    let (power, rest) ← match exponent? rest with
      | some (power, rest) => pure (power, rest)
      | none => if isFloat then pure (0, rest) else none
    let significand := valueOf 10 (whole ++ fraction)
    if !negative && isTooLarge significand (power - fraction.length) then none else return rest

open Output (takeDigits? takeOne? digitsValue daysOfMonth skipFraction?)

/-- The text behind a time of day. -/
def skipTime? (cs : List Char) : Option (List Char) := do
  let (hour, cs) ← takeDigits? 2 cs
  let cs ← takeOne? (· == ':') cs
  let (minute, cs) ← takeDigits? 2 cs
  let cs ← takeOne? (· == ':') cs
  let (second, cs) ← takeDigits? 2 cs
  let cs ← skipFraction? cs
  if digitsValue hour ≤ 23 ∧ digitsValue minute ≤ 59 ∧ digitsValue second ≤ 60 then some cs
  else none

/-- The text behind an offset, when there is one. -/
def skipOffset (cs : List Char) : Option (List Char) :=
  match cs with
  | c :: rest =>
    if c = 'Z' ∨ c = 'z' then some rest
    else if c = '+' ∨ c = '-' then do
      let (hour, cs) ← takeDigits? 2 rest
      let cs ← takeOne? (· == ':') cs
      let (minute, cs) ← takeDigits? 2 cs
      if digitsValue hour ≤ 23 ∧ digitsValue minute ≤ 59 then some cs else none
    else some cs
  | [] => some []

/-- The text behind a date, which a time of day with an offset may follow. -/
def skipDate? (cs : List Char) : Option (List Char) := do
  let (year, cs) ← takeDigits? 4 cs
  let cs ← takeOne? (· == '-') cs
  let (month, cs) ← takeDigits? 2 cs
  let cs ← takeOne? (· == '-') cs
  let (day, cs) ← takeDigits? 2 cs
  let days := daysOfMonth (digitsValue year) (digitsValue month)
  if digitsValue day = 0 ∨ days < digitsValue day then none
  else
    match takeOne? (fun c => c == 'T' || c == 't' || c == ' ') cs >>= skipTime? with
    | some cs => skipOffset cs
    | none => some cs

/-- The text behind a date, a time of day or both. -/
def skipDateTime? (cs : List Char) : Option (List Char) :=
  (skipDate? cs).orElse fun _ => skipTime? cs

end HostConsole.Toml

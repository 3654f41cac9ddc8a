import HostConsole.Url.Percent
import HostConsole.Text.UppercaseTable

/-!
# Domain names

A domain name is written in ASCII: in lower case, and a label with other letters as a run of
digits and letters behind `xn--` that says which letters go where.

## Main definitions

* `punycode?`, `ofPunycode?`: the written form of a label and the label of a written form
* `domain?`: a domain name in its written form
-/

namespace HostConsole.Url

/-- The letters and digits of the written form, from zero up. -/
def punyDigit (n : Nat) : Char :=
  if n < 26 then Char.ofNat (97 + n) else Char.ofNat (22 + n)

/-- The value of a letter or digit of the written form. -/
def punyValue? (c : Char) : Option Nat :=
  if 'a' ≤ c ∧ c ≤ 'z' then some (c.toNat - 97)
  else if c.isDigit then some (c.toNat - 22)
  else none

/-- How far the digits reach at a place, given the bias. -/
def threshold (place bias : Nat) : Nat :=
  if place ≤ bias then 1 else if bias + 26 ≤ place then 26 else place - bias

/-- The bias after a number, with `fuel` halvings at most. -/
def adaptLoop : Nat → Nat → Nat → Nat
  | 0, delta, k => k + 36 * delta / (delta + 38)
  | fuel + 1, delta, k =>
    if 455 < delta then adaptLoop fuel (delta / 35) (k + 36)
    else k + 36 * delta / (delta + 38)

/-- The bias after a number. -/
def adapt (delta count : Nat) (isFirst : Bool) : Nat :=
  let delta := if isFirst then delta / 700 else delta / 2
  adaptLoop 64 (delta + delta / count) 0

/-- A number in digits whose reach grows with their place. -/
def writeDelta : Nat → Nat → Nat → Nat → List Char
  | 0, _, _, _ => []
  | fuel + 1, q, place, bias =>
    let t := threshold place bias
    if q < t then [punyDigit q]
    else
      punyDigit (t + (q - t) % (36 - t)) :: writeDelta fuel ((q - t) / (36 - t)) (place + 36) bias

/-- The state of writing a label: the steps since the last number, the bias, how many letters
are written, and the text so far. -/
structure PunyState where
  delta : Nat
  bias : Nat
  written : Nat
  text : List Char

/-- One letter of the label, while the letters of a code are being written. -/
def writeLetter (code basic : Nat) (s : PunyState) (letter : Nat) : PunyState :=
  if letter < code then { s with delta := s.delta + 1 }
  else if letter = code then
    { delta := 0
      bias := adapt s.delta (s.written + 1) (s.written == basic)
      written := s.written + 1
      text := s.text ++ writeDelta 64 s.delta 36 s.bias }
  else s

/-- Writes the letters of growing codes. -/
def writeCodes (letters : List Nat) (basic : Nat) : Nat → Nat → PunyState → PunyState
  | 0, _, s => s
  | fuel + 1, least, s =>
    match (letters.filter fun n => least ≤ n).min? with
    | none => s
    | some code =>
      let s := { s with delta := s.delta + (code - least) * (s.written + 1) }
      let s := letters.foldl (writeLetter code basic) s
      writeCodes letters basic fuel (code + 1) { s with delta := s.delta + 1 }

/-- The written form of a label, without its beginning. -/
def punycode (label : List Char) : List Char :=
  let letters := label.map Char.toNat
  let basic := label.filter fun c => c.toNat < 0x80
  let start : PunyState :=
    { delta := 0, bias := 72, written := basic.length
      text := if basic.isEmpty then [] else basic ++ ['-'] }
  (writeCodes letters basic.length (label.length + 1) 0x80 start).text

/-- A number at the beginning of a written form. -/
def readDelta? : List Char → Nat → Nat → Nat → Nat → Option (Nat × List Char)
  | [], _, _, _, _ => none
  | c :: rest, place, bias, weight, sum =>
    match punyValue? c with
    | none => none
    | some digit =>
      let t := threshold place bias
      let sum := sum + digit * weight
      if digit < t then some (sum, rest)
      else readDelta? rest (place + 36) bias (weight * (36 - t)) sum

/-- Puts letters into a label as the numbers of a written form say. -/
def readLetters? : Nat → List Char → Nat → Nat → Nat → List Char → Option (List Char)
  | 0, _, _, _, _, label => some label
  | fuel + 1, cs, code, index, bias, label =>
    if cs.isEmpty then some label
    else do
      let (delta, rest) ← readDelta? cs 36 bias 1 0
      let size := label.length + 1
      let total := index + delta
      let code := code + total / size
      let place := total % size
      if 0x10FFFF < code ∨ (0xD800 ≤ code ∧ code ≤ 0xDFFF) then none
      else
        let label := label.take place ++ Char.ofNat code :: label.drop place
        readLetters? fuel rest code (place + 1) (adapt delta size (index == 0)) label

/-- The label of a written form, without its beginning. -/
def ofPunycode? (cs : List Char) : Option (List Char) :=
  let tail := (cs.reverse.takeWhile (· != '-')).reverse
  let basic := (cs.take (cs.length - tail.length)).dropLast
  readLetters? (cs.length + 1) tail 0x80 0 72 basic

/-- The lower case of a letter, as far as it is one letter. -/
def lowerCode (code : Nat) : Nat :=
  let found := Text.upperRanges.findSome? fun (first, last, distance, offset) =>
    let lower := (code - offset : Int)
    if (first : Int) ≤ lower ∧ lower ≤ last ∧ (lower.toNat - first) % distance = 0 then
      some lower.toNat
    else none
  found.getD code

/-- The ranges of characters that do not show and do not count. -/
def invisibleRanges : List (Nat × Nat) :=
  [(0xAD, 0xAD), (0x34F, 0x34F), (0x180B, 0x180D), (0x200B, 0x200B), (0x2060, 0x2060),
   (0x2064, 0x2064), (0xFE00, 0xFE0F), (0xFEFF, 0xFEFF)]

/-- A character of a domain name as it counts. -/
def domainChar (c : Char) : List Char :=
  if c.toNat < 0x80 then [c.toLower]
  else if invisibleRanges.any fun range => range.1 ≤ c.toNat && c.toNat ≤ range.2 then []
  else if ['\u3002', '\uFF0E', '\uFF61'].contains c then ['.']
  else if 0xFF01 ≤ c.toNat ∧ c.toNat ≤ 0xFF5E then [(Char.ofNat (c.toNat - 0xFEE0)).toLower]
  else [Char.ofNat (lowerCode c.toNat)]

/-- May the character not stand in a domain name? -/
def isForbidden (c : Char) : Bool :=
  c.toNat ≤ 0x20 || c.toNat == 0x7F || c == '\uFFFD' ||
    ['#', '%', '/', ':', '<', '>', '?', '@', '[', '\\', ']', '^', '|'].contains c

/-- A label in its written form. -/
def label? (label : List Char) : Option (List Char) :=
  if label.all fun c => c.toNat < 0x80 then
    match label with
    | 'x' :: 'n' :: '-' :: '-' :: rest => do
      let inner ← ofPunycode? rest
      if inner.any (fun c => 0x80 ≤ c.toNat) && punycode inner == rest then some label else none
    | _ => some label
  else some ('x' :: 'n' :: '-' :: '-' :: punycode label)

/-- A domain name in its written form. -/
def domain? (cs : List Char) : Option (List Char) :=
  let cs := cs.flatMap domainChar
  if cs.any isForbidden then none
  else ((cs.splitOn '.').mapM label?).map (List.intercalate ['.'])

end HostConsole.Url

import HostConsole.Url.Domain

/-!
# Hosts

The host of an address: a domain name, an address of version four or six, or, where the scheme
does not know hosts, any text.

## Main definitions

* `Host`: the hosts, with `Host.render`
* `Fault`: what can be wrong with an address
* `Host.read`: the host of a text
-/

namespace HostConsole.Url

/-- What can be wrong with an address. -/
inductive Fault where
  | emptyHost
  | badDomain
  | badNumber
  | badIpv4
  | badIpv6
  | badDomainCharacter
  | relative
  deriving DecidableEq, Repr

/-- The fault in words. -/
def Fault.message : Fault → String
  | emptyHost => "empty host"
  | badDomain => "invalid international domain name"
  | badNumber => "invalid port number"
  | badIpv4 => "invalid IPv4 address"
  | badIpv6 => "invalid IPv6 address"
  | badDomainCharacter => "invalid domain character"
  | relative => "relative URL without a base"

/-- A host. -/
inductive Host where
  | name (text : String)
  | ipv4 (address : Nat)
  /-- The eight pieces of the address. -/
  | ipv6 (pieces : List Nat)
  deriving DecidableEq, Repr

/-- The number of digits of a base, where all of them are. -/
def ofBase? (base : Nat) (cs : List Char) : Option Nat := do
  let digits ← cs.mapM hexValue?
  if digits.all (· < base) then some (digits.foldl (fun n d => n * base + d) 0) else none

/-- A part of an address of version four: decimal, octal behind a zero, hexadecimal behind a
zero and an x. -/
def ipv4Number? : List Char → Option Nat
  | [] => none
  | '0' :: 'x' :: rest | '0' :: 'X' :: rest => ofBase? 16 rest
  | '0' :: c :: rest => ofBase? 8 (c :: rest)
  | cs => ofBase? 10 cs

/-- The parts of a name, without an empty last one. -/
def hostParts (cs : List Char) : List (List Char) :=
  let parts := cs.splitOn '.'
  if parts.getLast? = some [] then parts.dropLast else parts

/-- Does the name end in a number? Then it is an address of version four or nothing. -/
def endsInNumber (cs : List Char) : Bool :=
  match (hostParts cs).getLast? with
  | none => false
  | some part => (!part.isEmpty && part.all Char.isDigit) || (ipv4Number? part).isSome

/-- An address of version four. Its last part stands for all bytes that are left. -/
def ipv4? (cs : List Char) : Option Nat := do
  let parts := hostParts cs
  let numbers ← parts.mapM ipv4Number?
  let last ← numbers.getLast?
  let front := numbers.dropLast
  if 4 < parts.length ∨ Nat.pow 256 (4 - front.length) ≤ last ∨ front.any (255 < ·) then none
  else some (front.zipIdx.foldl (fun n (part, index) => n + part * Nat.pow 256 (3 - index)) last)

/-- An address of version four with points. -/
def renderIpv4 (address : Nat) : List Char :=
  List.intercalate ['.'] <|
    [address / 0x1000000 % 256, address / 0x10000 % 256, address / 0x100 % 256, address % 256].map
      fun part => Nat.toDigits 10 part

/-- A decimal number below 256 without needless zeros. -/
def smallNumber? (cs : List Char) : Option Nat :=
  if cs.isEmpty ∨ 3 < cs.length ∨ (1 < cs.length ∧ cs.head? = some '0') ∨ !cs.all Char.isDigit
  then none
  else (ofBase? 10 cs).filter (· < 256)

/-- The two pieces that an address of version four fills at the end of one of version six. -/
def embedded? (cs : List Char) : Option (List Nat) := do
  match ← (cs.splitOn '.').mapM smallNumber? with
  | [a, b, c, d] => some [a * 256 + b, c * 256 + d]
  | _ => none

/-- The pieces of one side of an address of version six; only the last side may end in an address
of version four. -/
def pieces? (isLast : Bool) : List (List Char) → Option (List Nat)
  | [] => some []
  | [last] =>
    if isLast && last.contains '.' then embedded? last
    else if last.isEmpty ∨ 4 < last.length then none
    else (ofBase? 16 last).map fun n => [n]
  | part :: rest =>
    if part.isEmpty ∨ 4 < part.length then none
    else do
      let n ← ofBase? 16 part
      let more ← pieces? isLast rest
      return n :: more

/-- The sides of a text around two colons in a row. -/
def splitGap : List Char → List Char × Option (List Char)
  | ':' :: ':' :: rest => ([], some rest)
  | c :: rest =>
    let (left, right) := splitGap rest
    (c :: left, right)
  | [] => ([], none)

/-- The pieces of a side, none for an empty one. -/
def side? (isLast : Bool) (cs : List Char) : Option (List Nat) :=
  if cs.isEmpty then some [] else pieces? isLast (cs.splitOn ':')

/-- An address of version six. -/
def ipv6? (cs : List Char) : Option (List Nat) :=
  match splitGap cs with
  | (left, none) => (side? true left).filter fun pieces => pieces.length = 8
  | (left, some right) => do
    let left ← side? false left
    let right ← side? true right
    let count := left.length + right.length
    if 7 < count then none else some (left ++ List.replicate (8 - count) 0 ++ right)

/-- How many zeros a list begins with. -/
def zerosAt (pieces : List Nat) : Nat :=
  (pieces.takeWhile (· == 0)).length

/-- Where the first longest run of at least two zeros begins, and its length. -/
def longestGap (pieces : List Nat) : Option (Nat × Nat) :=
  (List.range pieces.length).foldl (fun best start =>
    let length := zerosAt (pieces.drop start)
    match best with
    | none => if 2 ≤ length then some (start, length) else none
    | some (_, most) => if most < length then some (start, length) else best) none

/-- Pieces with colons between them. -/
def renderPieces (pieces : List Nat) : List Char :=
  List.intercalate [':'] (pieces.map fun n => Nat.toDigits 16 n)

/-- An address of version six in brackets. -/
def renderIpv6 (pieces : List Nat) : List Char :=
  let inside := match longestGap pieces with
    | none => renderPieces pieces
    | some (start, length) =>
      renderPieces (pieces.take start) ++ ':' :: ':' :: renderPieces (pieces.drop (start + length))
  '[' :: (inside ++ [']'])

namespace Host

/-- The text of a host. -/
def render : Host → List Char
  | name text => text.toList
  | ipv4 address => renderIpv4 address
  | ipv6 pieces => renderIpv6 pieces

/-- The host of a text in brackets. -/
def readBrackets (inside : List Char) : Except Fault Host :=
  if inside.getLast? = some ']' then
    match ipv6? inside.dropLast with
    | some pieces => .ok (.ipv6 pieces)
    | none => .error .badIpv6
  else .error .badIpv6

/-- The host of a text, where the scheme knows hosts. -/
def read (cs : List Char) : Except Fault Host :=
  match cs with
  | '[' :: inside => readBrackets inside
  | _ =>
    match domain? (Utf8.decodeLossy (percentDecode cs)) with
    | none => .error .badDomain
    | some [] => .error .emptyHost
    | some text =>
      if endsInNumber text then
        match ipv4? text with
        | some address => .ok (.ipv4 address)
        | none => .error .badIpv4
      else .ok (.name (.ofList text))

/-- May the character not stand in a host of a scheme that does not know hosts? -/
def isForbiddenAnywhere (c : Char) : Bool :=
  ['\x00', '\t', '\n', '\r', ' ', '#', '/', ':', '<', '>', '?', '@', '[', '\\', ']', '^',
    '|'].contains c

/-- The host of a text, where the scheme does not know hosts. -/
def readOther (cs : List Char) : Except Fault Host :=
  match cs with
  | '[' :: inside => readBrackets inside
  | _ =>
    if cs.any isForbiddenAnywhere then .error .badDomainCharacter
    else .ok (.name (.ofList (percentEncode isPrintable cs)))

end Host

end HostConsole.Url

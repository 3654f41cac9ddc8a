import HostConsole.Url.Basic

/-!
# Reading addresses

A text is read as an address that stands for itself. White space and control characters at its
ends do not count, nor do tabs and line breaks inside it.

## Main definitions

* `Address.read`: the address of a text
-/

namespace HostConsole.Address

open Url

/-- The text without what does not count. -/
def clean (cs : List Char) : List Char :=
  let blank := fun c : Char => decide (c.toNat ≤ 0x20)
  let inner := ((cs.dropWhile blank).reverse.dropWhile blank).reverse
  inner.filter fun c => !(['\t', '\n', '\r'].contains c)

/-- The scheme before a colon, in lower case, and what follows. -/
def splitScheme? (cs : List Char) : Option (String × List Char) :=
  match cs with
  | first :: _ =>
    let scheme := cs.takeWhile fun c => c.isAlphanum || c == '+' || c == '-' || c == '.'
    match cs.drop scheme.length with
    | ':' :: rest =>
      if first.isAlpha then some (.ofList (scheme.map Char.toLower), rest) else none
    | _ => none
  | [] => none

/-- Does the character part segments? -/
def isSlash (special : Bool) (c : Char) : Bool :=
  c == '/' || (special && c == '\\')

/-- Does the character end the part of an address that names user and host? -/
def endsAuthority (special : Bool) (c : Char) : Bool :=
  isSlash special c || c == '?' || c == '#'

/-- User and password before the last at sign, and the text behind it. -/
def splitUser (cs : List Char) : Option (List Char) × List Char :=
  if cs.contains '@' then
    let host := (cs.reverse.takeWhile (· != '@')).reverse
    (some (cs.take (cs.length - host.length - 1)), host)
  else (none, cs)

/-- The name of a user, and a password that is not empty. -/
def readUser (cs : List Char) : String × Option String :=
  let user := cs.takeWhile (· != ':')
  let password := (cs.drop user.length).drop 1
  (.ofList (percentEncode keepsInUser user),
    if password.isEmpty then none else some (.ofList (percentEncode keepsInUser password)))

/-- The text of a host and what follows it. A colon in brackets does not end it. -/
def splitHost (inside : Bool) : List Char → List Char × List Char
  | [] => ([], [])
  | c :: rest =>
    if c = ':' ∧ !inside then ([], c :: rest)
    else
      let inside := if c = '[' then true else if c = ']' then false else inside
      let (host, rest) := splitHost inside rest
      (c :: host, rest)

/-- The number behind a host, nothing for the usual one. -/
def readNumber (scheme : String) (cs : List Char) : Except Fault (Option Nat) :=
  match cs with
  | [] => .ok none
  | _ :: digits =>
    if digits.isEmpty then .ok none
    else match ofBase? 10 digits with
      | none => .error .badNumber
      | some n =>
        if 65535 < n then .error .badNumber
        else .ok (if usualNumber scheme = some n then none else some n)

/-- Is the segment the name of the place above? Its dots may be encoded. -/
def isParent (segment : List Char) : Bool :=
  ["..", "%2e.", ".%2e", "%2e%2e"].contains (String.ofList (segment.map Char.toLower))

/-- Is the segment the name of the place itself? Its dot may be encoded. -/
def isSelf (segment : List Char) : Bool :=
  [".", "%2e"].contains (String.ofList (segment.map Char.toLower))

/-- The segments of a path, the names of places followed. The last segment is empty where the
path ends at a place. -/
def followSegments (names : List String) : List (List Char) → List String
  | [] => names
  | [last] =>
    if isParent last then names.dropLast ++ [""]
    else if isSelf last then names ++ [""]
    else names ++ [.ofList (percentEncode keepsInPath last)]
  | segment :: rest =>
    if isParent segment then followSegments names.dropLast rest
    else if isSelf segment then followSegments names rest
    else followSegments (names ++ [.ofList (percentEncode keepsInPath segment)]) rest

/-- The path of a text that does not begin with a question mark or a number sign. A path of a
special scheme has at least one segment. -/
def readSegments (special : Bool) (cs : List Char) : List String :=
  if cs.isEmpty then (if special then [""] else [])
  else
    let cs := if (cs.head?.map (isSlash special)).getD false then cs.drop 1 else cs
    followSegments [] (cs.splitOnP (isSlash special))

/-- The text before the query and the fragment, and these two. -/
def splitSuffix (cs : List Char) : List Char × Option (List Char) × Option (List Char) :=
  let front := cs.takeWhile (· != '#')
  let fragment := (cs.drop front.length).tail?
  let path := front.takeWhile (· != '?')
  (path, (front.drop path.length).tail?, fragment)

/-- The address with its query and its fragment. -/
def withSuffix (a : Address) (query fragment : Option (List Char)) : Address :=
  let keeps := if isSpecialScheme a.scheme then keepsInSpecialQuery else keepsInQuery
  { a with
    query := query.map fun q => .ofList (percentEncode keeps q)
    fragment := fragment.map fun f => .ofList (percentEncode keepsInFragment f) }

/-- An address behind its two slashes. -/
def readAuthority (scheme : String) (cs : List Char) : Except Fault Address := do
  let special := isSpecialScheme scheme
  let (front, query, fragment) := splitSuffix cs
  let authority := front.takeWhile fun c => !endsAuthority special c
  let path := front.drop authority.length
  let (user, place) := splitUser authority
  let (hostText, numberText) := splitHost false place
  if (user.isSome ∨ special ∨ !numberText.isEmpty) ∧ hostText.isEmpty then throw .emptyHost
  let host ← if special then Host.read hostText else Host.readOther hostText
  let number ← readNumber scheme numberText
  let (name, password) := readUser (user.getD [])
  let a : Address :=
    { scheme, user := name, password, host := some host, number
      route := .segments (readSegments special path) }
  return a.withSuffix query fragment

/-- An address of a file behind its scheme. The host of this machine is left out. -/
def readFile (cs : List Char) : Except Fault Address := do
  let (front, query, fragment) := splitSuffix cs
  let slashes := (front.takeWhile (isSlash true)).length
  let (hostText, path) :=
    if 2 ≤ slashes then
      let host := (front.drop 2).takeWhile fun c => !isSlash true c
      (host, front.drop (2 + host.length))
    else ([], front)
  let host ← if hostText.isEmpty then pure (Host.name "") else Host.read hostText
  let host := if host = .name "localhost" then Host.name "" else host
  let a : Address :=
    { scheme := "file", host := some host, route := .segments (readSegments true path) }
  return a.withSuffix query fragment

/-- The address of a text. -/
def read (s : String) : Except Fault Address :=
  match splitScheme? (clean s.toList) with
  | none => .error .relative
  | some (scheme, rest) =>
    if scheme = "file" then readFile rest
    else if isSpecialScheme scheme then readAuthority scheme (rest.dropWhile (isSlash true))
    else match rest with
      | '/' :: '/' :: rest => readAuthority scheme rest
      | _ =>
        let (front, query, fragment) := splitSuffix rest
        let route : Route :=
          if front.head? = some '/' then .segments (readSegments false front)
          else .text (.ofList (percentEncode isPrintable front))
        let a : Address := { scheme, route }
        .ok (a.withSuffix query fragment)

end HostConsole.Address

import HostConsole.Url.Form
import HostConsole.Url.Host

/-!
# Addresses

An address names a scheme, perhaps a user and a host, and a path of segments; a query and a
fragment may follow. The segments are kept as they are written, percent-encoded.

## Main definitions

* `Address`: an address, with `Address.render`, `Address.path` and `Address.target`
* `Address.endpoint`: the address with further segments
* `Address.withPairs`: the address with further pairs in its query
-/

namespace HostConsole

namespace Url

/-- Where an address leads to within its scheme. -/
inductive Route where
  /-- Segments, none of which holds a slash. -/
  | segments (names : List String)
  /-- A text without structure. -/
  | text (s : String)
  deriving DecidableEq, Repr

end Url

open Url

/-- An address. -/
structure Address where
  scheme : String
  user : String := ""
  password : Option String := none
  /-- Nothing where the scheme names no place. -/
  host : Option Url.Host := none
  /-- The number behind the host, when it is not the usual one. -/
  number : Option Nat := none
  route : Url.Route
  query : Option String := none
  fragment : Option String := none
  deriving DecidableEq, Repr

namespace Address

/-- The schemes that know hosts, each with the usual number. -/
def specialSchemes : List (String × Option Nat) :=
  [("http", some 80), ("https", some 443), ("ws", some 80), ("wss", some 443), ("ftp", some 21),
   ("file", none)]

/-- Does the scheme know hosts? -/
def isSpecialScheme (scheme : String) : Bool :=
  specialSchemes.any fun entry => entry.1 == scheme

/-- The usual number of a scheme. -/
def usualNumber (scheme : String) : Option Nat :=
  (specialSchemes.lookup scheme).join

/-- Can the address not carry a path? -/
def isRootless (a : Address) : Bool :=
  match a.route with
  | .segments _ => false
  | .text _ => true

/-- The segments of the path. -/
def segments (a : Address) : List String :=
  match a.route with
  | .segments names => names
  | .text _ => []

/-- Segments with a slash before each. -/
def joinSegments (names : List String) : List Char :=
  names.flatMap fun name => '/' :: name.toList

/-- The path. -/
def path (a : Address) : String :=
  match a.route with
  | .segments names => .ofList (joinSegments names)
  | .text s => s

/-- The query with its question mark. -/
def querySuffix (a : Address) : List Char :=
  match a.query with
  | some q => '?' :: q.toList
  | none => []

/-- Path and query, as they are asked for at the host. -/
def target (a : Address) : String :=
  .ofList (a.path.toList ++ a.querySuffix)

/-- The user with the password, when there is one. -/
def userPrefix (a : Address) : List Char :=
  if a.user = "" ∧ a.password.isNone then []
  else a.user.toList ++ (match a.password with
    | some p => ':' :: p.toList
    | none => []) ++ ['@']

/-- The host with what stands around it. -/
def authority (a : Address) : List Char :=
  match a.host with
  | none => []
  | some host => '/' :: '/' :: (a.userPrefix ++ host.render ++ (match a.number with
    | some n => ':' :: Nat.toDigits 10 n
    | none => []))

/-- The text of an address. -/
def render (a : Address) : String :=
  let fragment := match a.fragment with
    | some f => '#' :: f.toList
    | none => []
  .ofList (a.scheme.toList ++ ':' :: a.authority ++ a.path.toList ++ a.querySuffix ++ fragment)

/-- The segments without an empty one at the end, unless it is the only one. -/
def withoutEmptyEnd (names : List String) : List String :=
  if 2 ≤ names.length ∧ names.getLast? = some "" then names.dropLast else names

/-- The name of a segment as it is written. -/
def encodeSegment (special : Bool) (name : String) : String :=
  .ofList (percentEncode (if special then keepsInSpecialSegment else keepsInSegment) name.toList)

/-- The name without the characters that addresses leave out. -/
def withoutBreaks (name : String) : String :=
  .ofList (name.toList.filter fun c => !(['\t', '\n', '\r'].contains c))

/-- The segments with one more. The names of a place itself and of the place above are passed
over; where such a name only comes about by leaving characters out, it is followed instead. -/
def addSegment (special : Bool) (names : List String) (name : String) : List String :=
  if name = "." ∨ name = ".." then names
  else
    let names := if names = [""] then [] else names
    let plain := withoutBreaks name
    if plain = ".." then names.dropLast ++ [""]
    else if plain = "." then names ++ [""]
    else names ++ [encodeSegment special plain]

/-- The address with further segments behind its own. -/
def endpoint (a : Address) (names : List String) : Address :=
  match a.route with
  | .text _ => a
  | .segments own =>
    { a with route :=
        .segments (names.foldl (addSegment (isSpecialScheme a.scheme)) (withoutEmptyEnd own)) }

/-- The address with further pairs in its query. A query that is empty then is left out. -/
def withPairs (a : Address) (pairs : List (String × String)) : Address :=
  let own := (a.query.getD "").toList
  let more := encodePairs pairs
  let both := if own.isEmpty then more else if more.isEmpty then own else own ++ '&' :: more
  { a with query := if both.isEmpty then none else some (.ofList both) }

/-- The address without user and password. -/
def withoutUser (a : Address) : Address :=
  { a with user := "", password := none }

@[simp] theorem endpoint_nil_query (a : Address) (names : List String) :
    (a.endpoint names).query = a.query := by
  unfold endpoint; split <;> rfl

end Address

end HostConsole

import HostConsole.Url.Percent

/-!
# Form encoding

Pairs of keys and values as the query of an address: letters, digits and four signs stand as
they are, a space becomes a plus, and all other bytes are percent-encoded.

## Main definitions

* `encodePairs`: the query of some pairs
* `decodePairs`: the pairs of a query
-/

namespace HostConsole.Url

/-- The characters that stand as they are. -/
def keepsInForm (c : Char) : Bool :=
  c.isAlphanum || ['*', '-', '.', '_'].contains c

/-- A character of a key or a value. -/
def encodeFormChar (c : Char) : List Char :=
  if c = ' ' then ['+'] else encodeChar keepsInForm c

/-- A key or a value. -/
def encodeForm (s : String) : List Char :=
  s.toList.flatMap encodeFormChar

/-- A pair. -/
def encodePair (pair : String × String) : List Char :=
  encodeForm pair.1 ++ '=' :: encodeForm pair.2

/-- The query of some pairs. -/
def encodePairs (pairs : List (String × String)) : List Char :=
  List.intercalate ['&'] (pairs.map encodePair)

/-- The text of an encoded key or value. -/
def decodeForm (cs : List Char) : String :=
  Utf8.textLossy (percentDecode (cs.map fun c => if c = '+' then ' ' else c))

/-- The pair of a piece of a query. -/
def decodePair (piece : List Char) : String × String :=
  let key := piece.takeWhile (· != '=')
  (decodeForm key, decodeForm ((piece.drop key.length).drop 1))

/-- The pairs of a query. -/
def decodePairs (query : List Char) : List (String × String) :=
  ((query.splitOn '&').filter fun piece => !piece.isEmpty).map decodePair

@[simp] theorem encodePairs_nil : encodePairs [] = [] := rfl

end HostConsole.Url

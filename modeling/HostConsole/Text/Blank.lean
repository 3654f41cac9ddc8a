/-!
# Blank characters

White space is the Unicode property `White_Space`, twenty-five characters. Text is trimmed and
cut into words along it.

## Main definitions

* `isBlank`: the characters of white space
* `trim`, `words`: text without white space at its ends, and its maximal runs without any
* `singleLine`: the words of a text with one space between two of them
-/

namespace HostConsole.Text

/-- The ranges of the Unicode property `White_Space`, both ends included. -/
def blankRanges : List (Nat × Nat) :=
  [(0x09, 0x0D), (0x20, 0x20), (0x85, 0x85), (0xA0, 0xA0), (0x1680, 0x1680), (0x2000, 0x200A),
   (0x2028, 0x2029), (0x202F, 0x202F), (0x205F, 0x205F), (0x3000, 0x3000)]

/-- Is the character white space? -/
def isBlank (c : Char) : Bool :=
  blankRanges.any fun range => range.1 ≤ c.toNat && c.toNat ≤ range.2

/-- The text without white space at its beginning. -/
def trimStart (cs : List Char) : List Char :=
  cs.dropWhile isBlank

/-- The text without white space at its end. -/
def trimEnd (cs : List Char) : List Char :=
  (cs.reverse.dropWhile isBlank).reverse

/-- The text without white space at its ends. -/
def trim (cs : List Char) : List Char :=
  trimEnd (trimStart cs)

/-- The maximal runs of characters that are not white space. -/
def words (cs : List Char) : List (List Char) :=
  (cs.splitOnP isBlank).filter fun word => !word.isEmpty

/-- The words of a text with one space between two neighbours. -/
def singleLine (cs : List Char) : List Char :=
  List.intercalate [' '] (words cs)

@[simp] theorem trim_nil : trim [] = [] := rfl

@[simp] theorem words_nil : words [] = [] := rfl

/-- A text without white space at its ends. -/
def trimmed (s : String) : String :=
  .ofList (trim s.toList)

end HostConsole.Text

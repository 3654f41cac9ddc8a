import HostConsole.Text.Utf8

/-!
# Percent encoding

A character that may not stand as it is gives way to its UTF-8 bytes, each as a percent sign and
two hexadecimal digits. Which characters may stand as they are depends on the part of the
address.

## Main definitions

* `percentEncode`: a text with the characters outside a set encoded
* `percentDecode`: the bytes of an encoded text
* `keepsInSegment`, `keepsInQuery`, `keepsInFragment`, `keepsInUser`: the sets
-/

namespace HostConsole.Url

/-- A hexadecimal digit, in upper case. -/
def hexDigit (n : Nat) : Char :=
  if n < 10 then Char.ofNat (48 + n) else Char.ofNat (55 + n)

/-- The value of a hexadecimal digit of either case. -/
def hexValue? (c : Char) : Option Nat :=
  if c.isDigit then some (c.toNat - 48)
  else if 'a' ≤ c ∧ c ≤ 'f' then some (c.toNat - 87)
  else if 'A' ≤ c ∧ c ≤ 'F' then some (c.toNat - 55)
  else none

/-- A byte as a percent sign and two digits. -/
def encodeByte (b : UInt8) : List Char :=
  ['%', hexDigit (b.toNat / 16), hexDigit (b.toNat % 16)]

/-- A character of a text: as it is, or its bytes encoded. -/
def encodeChar (keeps : Char → Bool) (c : Char) : List Char :=
  if keeps c then [c] else (String.utf8EncodeChar c).flatMap encodeByte

/-- A text with the characters outside a set encoded. -/
def percentEncode (keeps : Char → Bool) (cs : List Char) : List Char :=
  cs.flatMap (encodeChar keeps)

/-- The bytes of an encoded text. A percent sign without two digits stands for itself. -/
def percentDecode : List Char → List UInt8
  | '%' :: a :: b :: rest =>
    match hexValue? a, hexValue? b with
    | some high, some low => UInt8.ofNat (high * 16 + low) :: percentDecode rest
    | _, _ => String.utf8EncodeChar '%' ++ percentDecode (a :: b :: rest)
  | c :: rest => String.utf8EncodeChar c ++ percentDecode rest
  | [] => []

/-- Is the character a visible one of ASCII? -/
def isVisible (c : Char) : Bool :=
  0x20 < c.toNat && c.toNat < 0x7F

/-- Is the character one of ASCII that is no control character? -/
def isPrintable (c : Char) : Bool :=
  0x20 ≤ c.toNat && c.toNat < 0x7F

/-- The characters that may stand in a fragment. -/
def keepsInFragment (c : Char) : Bool :=
  isVisible c && !(['"', '<', '>', '\x60'].contains c)

/-- The characters that may stand in a path. -/
def keepsInPath (c : Char) : Bool :=
  keepsInFragment c && !(['#', '?', '\x7b', '\x7d'].contains c)

/-- The characters of a name that may stand in one segment of a path. -/
def keepsInSegment (c : Char) : Bool :=
  keepsInPath c && !(['/', '%'].contains c)

/-- The same where a backslash parts segments too. -/
def keepsInSpecialSegment (c : Char) : Bool :=
  keepsInSegment c && c != '\\'

/-- The characters that may stand in a user's name or password. -/
def keepsInUser (c : Char) : Bool :=
  keepsInPath c && !(['/', ':', ';', '=', '@', '[', '\\', ']', '^', '|'].contains c)

/-- The characters that may stand in a query. -/
def keepsInQuery (c : Char) : Bool :=
  isVisible c && !(['"', '#', '<', '>'].contains c)

/-- The same where an apostrophe may not stand. -/
def keepsInSpecialQuery (c : Char) : Bool :=
  keepsInQuery c && c != '\''

@[simp] theorem percentEncode_nil (keeps : Char → Bool) : percentEncode keeps [] = [] := rfl

end HostConsole.Url

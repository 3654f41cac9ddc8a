/-!
# TOML documents

A document is a tree of tables. A table remembers how it came to be, because only some tables
may be added to later: one that a header named may not be named again, and one that dotted keys
made may only be added to by dotted keys.

## Main definitions

* `Toml`: the values of a document
* `TableKind`: how a table came to be
* `Toml.openTable`, `Toml.openItem`, `Toml.assign`: the three ways in which a line adds to a
  document
-/

namespace HostConsole

/-- How a table came to be. -/
inductive Toml.TableKind where
  /-- A header names it. -/
  | header
  /-- A header names a table inside it. -/
  | implied
  /-- A dotted key leads through it. -/
  | dotted
  /-- It is written in braces. -/
  | inline
  deriving DecidableEq, Repr

/-- The values of a document. -/
inductive Toml where
  | text (s : String)
  | integer (n : Int)
  | float
  | boolean (b : Bool)
  | dateTime
  | array (items : List Toml)
  /-- The tables of an array that headers name. -/
  | tables (items : List Toml)
  | table (kind : Toml.TableKind) (entries : List (String × Toml))
  deriving Repr, Inhabited

namespace Toml

/-- The entries of a table. -/
abbrev Entries := List (String × Toml)

/-- Puts a value under a key, at the place of an earlier one or at the end. -/
def put (entries : Entries) (key : String) (value : Toml) : Entries :=
  match entries with
  | [] => [(key, value)]
  | (k, v) :: rest => if k = key then (k, value) :: rest else (k, v) :: put rest key value

/-- Changes the last value of a list. -/
def changeLast (change : Toml → Option Toml) : List Toml → Option (List Toml)
  | [] => none
  | [last] => (change last).map fun value => [value]
  | first :: rest => (changeLast change rest).map (first :: ·)

/-- A change of one table, which may be refused. -/
abbrev Change := TableKind → Entries → Option (TableKind × Entries)

/-- Changes a value that is a table. -/
def changeTable (change : Change) : Toml → Option Toml
  | table kind entries => (change kind entries).map fun (kind, entries) => table kind entries
  | _ => none

/-- Changes the table that the keys of a header lead to. Tables on the way are made where they
are missing, and of an array of tables the last one counts. -/
def alongHeader (change : Change) : List String → Change
  | [], kind, entries => change kind entries
  | key :: rest, kind, entries => do
    let changed ← match entries.lookup key with
      | none => changeTable (alongHeader change rest) (table .implied [])
      | some (table .inline _) => none
      | some (tables items) =>
        (changeLast (changeTable (alongHeader change rest)) items).map tables
      | some value => changeTable (alongHeader change rest) value
    return (kind, put entries key changed)

/-- Changes the table that the keys before the last one of a dotted key lead to. Only tables
that no header named may be on the way. -/
def alongDots (change : Change) : List String → Change
  | [], kind, entries => change kind entries
  | key :: rest, kind, entries => do
    let changed ← match entries.lookup key with
      | none => changeTable (alongDots change rest) (table .dotted [])
      | some (tables items) =>
        (changeLast (changeTable (alongDots change rest)) items).map tables
      | some (table .implied sub) => changeTable (alongDots change rest) (table .implied sub)
      | some (table .dotted sub) => changeTable (alongDots change rest) (table .dotted sub)
      | some _ => none
    return (kind, put entries key changed)

/-- A table that a header names: a new one, or one that a header only implied before. -/
def openLast (key : String) : Change := fun kind entries =>
  match entries.lookup key with
  | none => some (kind, put entries key (table .header []))
  | some (table .implied sub) => some (kind, put entries key (table .header sub))
  | some _ => none

/-- A further table of an array of tables. -/
def openLastItem (key : String) : Change := fun kind entries =>
  match entries.lookup key with
  | none => some (kind, put entries key (tables [table .header []]))
  | some (tables items) => some (kind, put entries key (tables (items ++ [table .header []])))
  | some _ => none

/-- A new value in a table, which dotted keys have to have led to exactly when they made it. -/
def addLast (dotted : Bool) (key : String) (value : Toml) : Change := fun kind entries =>
  if (kind == .dotted) = dotted ∧ (entries.lookup key).isNone then
    some (kind, entries ++ [(key, value)])
  else none

/-- Applies a change to the table of the whole document. -/
def onDocument (change : Change) (document : Entries) : Option Entries :=
  (change .header document).map Prod.snd

/-- The document with the table of a header. -/
def openTable (document : Entries) (path : List String) : Option Entries :=
  match path.getLast? with
  | none => none
  | some key => onDocument (alongHeader (openLast key) path.dropLast) document

/-- The document with a further table of the array of a header. -/
def openItem (document : Entries) (path : List String) : Option Entries :=
  match path.getLast? with
  | none => none
  | some key => onDocument (alongHeader (openLastItem key) path.dropLast) document

/-- A value under a dotted key. -/
def assignDotted (keys : List String) (value : Toml) : Change :=
  match keys.getLast? with
  | none => fun _ _ => none
  | some key => alongDots (addLast (1 < keys.length) key value) keys.dropLast

/-- The document with a value under a dotted key, in the table that the last header named. -/
def assign (document : Entries) (header keys : List String) (value : Toml) : Option Entries :=
  onDocument (alongHeader (assignDotted keys value) header) document

/-- The table in braces of some dotted keys and values. -/
def inlineTable (pairs : List (List String × Toml)) : Option Toml := do
  let entries ← pairs.foldlM
    (fun entries (keys, value) => (assignDotted keys value .inline entries).map Prod.snd) []
  return table .inline entries

end Toml

end HostConsole

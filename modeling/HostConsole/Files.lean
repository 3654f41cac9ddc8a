/-!
# Files

The part of a file system that a console reads and writes: a tree of directories and files
without links, and the directory that relative paths start from.

## Main definitions

* `Files`: the tree, with `Files.ofEntries`
* `FileFault`: why something cannot be read or written
* `Files.isThere`, `Files.read`, `Files.write`, `Files.makeDirectories`: the operations
* `Files.changes`: what became different
* `joinPath`, `pathsTowards`: paths inside a directory, and the paths that lead to one
-/

namespace HostConsole

/-- A place in the tree: the names that lead to it from the root. -/
abbrev Place := List String

/-- What stands at a place. -/
inductive Node where
  | directory
  | file (bytes : List UInt8)
  deriving DecidableEq, Repr

/-- Why something cannot be read or written. -/
inductive FileFault where
  | missing
  | isDirectory
  | notDirectory
  | nameTooLong
  | badName
  | badText
  deriving DecidableEq, Repr

/-- The fault in words. -/
def FileFault.message : FileFault → String
  | missing => "No such file or directory (os error 2)"
  | isDirectory => "Is a directory (os error 21)"
  | notDirectory => "Not a directory (os error 20)"
  | nameTooLong => "File name too long (os error 36)"
  | badName => "file name contained an unexpected NUL byte"
  | badText => "stream did not contain valid UTF-8"

/-- A tree of directories and files. -/
structure Files where
  /-- The directory that relative paths start from. -/
  current : Place
  /-- What stands at each place but the root, which is a directory. -/
  nodes : List (Place × Node)

/-- Where a path leads to. -/
inductive Target where
  /-- Something stands there. -/
  | taken (place : Place) (node : Node)
  /-- Nothing stands there, and its directory is there. -/
  | free (place : Place)

namespace Files

/-- What stands at a place. -/
def node? (files : Files) (place : Place) : Option Node :=
  if place.isEmpty then some .directory else files.nodes.lookup place

/-- The tree with something at a place, in place of what stood there. -/
def put (files : Files) (place : Place) (node : Node) : Files :=
  { files with nodes := (place, node) :: files.nodes.filter fun entry => entry.1 != place }

/-- Follows names from a place. A path that ends in a slash asks for a directory. -/
def follow (files : Files) (place : Place) (node : Node) :
    List String → Except FileFault Target
  | [] => .ok (.taken place node)
  | name :: rest =>
    match node with
    | .file _ => .error .notDirectory
    | .directory =>
      if name = "." then follow files place node rest
      else if name = ".." then follow files place.dropLast .directory rest
      else if 255 < name.utf8ByteSize then .error .nameTooLong
      else match files.node? (place ++ [name]) with
        | some node => follow files (place ++ [name]) node rest
        | none => if rest.isEmpty then .ok (.free (place ++ [name])) else .error .missing

/-- The names of a path, a dot at the end where the path ends in a slash. -/
def namesOf (path : String) : List String :=
  let pieces := (path.toList.splitOn '/').map String.ofList
  let names := pieces.filter fun name => name != ""
  if pieces.getLast? = some "" then names ++ ["."] else names

/-- Where a path leads to. -/
def locate (files : Files) (path : String) : Except FileFault Target :=
  if path.toList.contains '\x00' then .error .badName
  else if path = "" then .error .missing
  else if 4095 < path.utf8ByteSize then .error .nameTooLong
  else
    let start := if path.toList.head? = some '/' then [] else files.current
    follow files start .directory (namesOf path)

/-- Does the path lead to a file or a directory? -/
def isThere (files : Files) (path : String) : Bool :=
  match files.locate path with
  | .ok (.taken ..) => true
  | _ => false

/-- The bytes of a file. -/
def read (files : Files) (path : String) : Except FileFault (List UInt8) := do
  match ← files.locate path with
  | .taken _ (.file bytes) => .ok bytes
  | .taken _ .directory => .error .isDirectory
  | .free _ => .error .missing

/-- The tree with a file written: a new one in a directory that is there, or an old one with
new bytes. -/
def write (files : Files) (path : String) (bytes : List UInt8) : Except FileFault Files := do
  match ← files.locate path with
  | .taken place (.file _) => .ok (files.put place (.file bytes))
  | .taken _ .directory => .error .isDirectory
  | .free place => .ok (files.put place (.file bytes))

/-- The tree with a directory for each of the names that lead on from a place. -/
def makeAlong (files : Files) (place : Place) : List String → Except FileFault Files
  | [] => .ok files
  | name :: rest =>
    if name = "." then makeAlong files place rest
    else if name = ".." then makeAlong files place.dropLast rest
    else if 255 < name.utf8ByteSize then .error .nameTooLong
    else
      let next := place ++ [name]
      match files.node? next with
      | some .directory => makeAlong files next rest
      | some (.file _) => .error .notDirectory
      | none => makeAlong (files.put next .directory) next rest

/-- The tree with a directory and all directories that lead to it. -/
def makeDirectories (files : Files) (path : String) : Except FileFault Files :=
  if path.toList.contains '\x00' then .error .badName
  else
    let start := if path.toList.head? = some '/' then [] else files.current
    makeAlong files start (namesOf path)

/-- The tree of some entries; the directories that lead to an entry come with it. -/
def ofEntries (current : Place) (entries : List (Place × Node)) : Files :=
  let withParents := fun (files : Files) (place : Place) =>
    (List.range place.length).foldl (fun files count =>
      let parent := place.take count
      if (files.node? parent).isSome then files else files.put parent .directory) files
  let start : Files := { current, nodes := [] }
  (( current, Node.directory) :: entries).foldl
    (fun files entry => (withParents files entry.1).put entry.1 entry.2) start

end Files

/-- The places of directories that one tree has and another has not, and the files that are new or
different in it. -/
def Files.changes (before after : Files) : List (Place × Node) :=
  after.nodes.reverse.filter fun entry => before.node? entry.1 != some entry.2

/-- A path, and the paths of the directories that lead to it. -/
def pathsTowards (path : String) : List String :=
  let pieces := path.toList.splitOn '/'
  (List.range pieces.length).filterMap fun count =>
    let front := List.intercalate ['/'] (pieces.take (count + 1))
    if front.isEmpty then none else some (.ofList front)

/-- The absolute path of a place. -/
def Place.path (place : Place) : String :=
  "/" ++ String.intercalate "/" place

/-- The path of a name inside a directory. A name that starts at the root stands alone. -/
def joinPath (directory name : String) : String :=
  if name.toList.head? = some '/' ∨ directory = "" then name
  else if directory.toList.getLast? = some '/' then directory ++ name
  else directory ++ "/" ++ name

end HostConsole

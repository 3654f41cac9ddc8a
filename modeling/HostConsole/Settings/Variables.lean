import HostConsole.Settings.Basic
import HostConsole.Number.Typed
import HostConsole.Text.AlphanumericTable
import HostConsole.Text.Lines
import HostConsole.Text.Utf8

/-!
# Settings in environment variables

A variable gives a setting by its name: a fixed beginning, then section and key with two
underscores between them, in letters of any case. Paths among the settings may name further
variables, which are put in their places.

## Main definitions

* `Variables`: the environment
* `Layer.ofVariables`: the layer of the environment
* `expand`: a path with the variables that it names, and with the home directory
-/

namespace HostConsole

/-- The variables of the environment, later ones winning. -/
abbrev Variables := List (String × String)

namespace Variables

/-- The value of a variable. -/
def get? (vars : Variables) (name : String) : Option String :=
  (vars.reverse.find? fun entry => entry.1 == name).map (·.2)

/-- The variables of a block of names and values, each ended by a zero byte. -/
def ofBlock (block : List UInt8) : Variables :=
  (block.splitOn 0).filterMap fun entry =>
    let cs := Utf8.decodeLossy entry
    let name := cs.takeWhile (· != '=')
    if name.length = cs.length then none
    else some (.ofList name, .ofList (cs.drop (name.length + 1)))

/-- The home directory. -/
def home? (vars : Variables) : Option String :=
  (vars.get? "HOME").filter fun home => home != ""

end Variables

/-- The lower case of a character as far as it can become a letter of ASCII. -/
def lowerLetter (c : Char) : Char :=
  if c = '\u212A' then 'k' else c.toLower

/-- The letters of a text in lower case. -/
def lowerText (s : String) : List Char :=
  s.toList.map lowerLetter

/-- The text with a point for every two underscores, from left to right. -/
def dotted : List Char → List Char
  | '_' :: '_' :: rest => '.' :: dotted rest
  | c :: rest => c :: dotted rest
  | [] => []

/-- The setting that a variable is about. -/
def settingName? (name : String) : Option String :=
  (Text.stripPrefix? "katello_" (lowerText name)).map fun rest => .ofList (dotted rest)

/-- The texts that the environment gives for settings. -/
def settingTexts (vars : Variables) : List (String × String) :=
  vars.filterMap fun (name, value) => (settingName? name).map fun setting => (setting, value)

/-- The text that the environment gives for a setting. A variable about a part of the setting
leaves it without a text. -/
def settingText? (vars : Variables) (setting : String) : Option String :=
  let texts := settingTexts vars
  let part := texts.any fun entry =>
    (Text.stripPrefix? (setting ++ ".") entry.1.toList).isSome
  if part then none else Variables.get? texts setting

/-- The truth value of a word. -/
def flagOfWord? (s : String) : Option Bool :=
  let word := String.ofList (lowerText s)
  if word = "1" ∨ word = "true" ∨ word = "on" ∨ word = "yes" then some true
  else if word = "0" ∨ word = "false" ∨ word = "off" ∨ word = "no" then some false
  else none

/-- The integer of a text: of a word for yes or no, or of digits. -/
def integerOfText? (s : String) : Option Int :=
  let word := String.ofList (lowerText s)
  if word = "true" ∨ word = "on" ∨ word = "yes" then some 1
  else if word = "false" ∨ word = "off" ∨ word = "no" then some 0
  else typedInteger? s

/-- The timeout of an integer; a negative one says to wait without limit. -/
def timeoutOfInteger (n : Int) : Option Nat :=
  if 0 ≤ n then some n.toNat else none

/-- The layer of the environment. A text that does not fit its setting gives nothing. -/
def Layer.ofVariables (vars : Variables) : Layer :=
  let text? := settingText? vars
  let timeout? := fun setting => ((text? setting).bind integerOfText?).map timeoutOfInteger
  { url := text? "server.url"
    username := text? "server.username"
    password := text? "server.password"
    insecure := (text? "server.insecure").bind flagOfWord?
    requestTimeout := timeout? "server.timeout_secs"
    org := text? "defaults.org"
    taskTimeout := timeout? "tasks.timeout_secs"
    reportDirectory := text? "report_dir" }

/-- Is the character one of a variable's name? -/
def isNameCharacter (c : Char) : Bool :=
  Text.isAlphanumeric c || c == '_'

/-- The text before the first colon with a dash behind it, and the text behind these two. -/
def splitDefault? : List Char → Option (List Char × List Char)
  | ':' :: '-' :: rest => some ([], rest)
  | c :: rest => (splitDefault? rest).map fun (before, after) => (c :: before, after)
  | [] => none

/-- The name of a variable in braces, and the default behind it if there is one. -/
def bracedName (inside : List Char) : List Char × Option (List Char) :=
  match splitDefault? inside with
  | some (name, otherwise) => if name.isEmpty then (inside, none) else (name, some otherwise)
  | none => (inside, none)

/-- The text with the variables that it names in their places, `fuel` characters of it at most;
`none` when it names one that there is not. Two dollars stand for one. -/
def expandVariables? (vars : Variables) : Nat → List Char → Option (List Char)
  | 0, _ => some []
  | fuel + 1, cs =>
    match cs with
    | [] => some []
    | '$' :: '\x7b' :: rest =>
      let inside := rest.takeWhile (· != '\x7d')
      if inside.length = rest.length then
        (expandVariables? vars fuel rest).map fun more => '$' :: '\x7b' :: more
      else
        let (name, otherwise) := bracedName inside
        match ((vars.get? (.ofList name)).map String.toList).or otherwise with
        | some value => (expandVariables? vars fuel (rest.drop (inside.length + 1))).map
            fun more => value ++ more
        | none => none
    | '$' :: '$' :: rest => (expandVariables? vars fuel rest).map ('$' :: ·)
    | '$' :: rest =>
      let name := rest.takeWhile isNameCharacter
      if name.isEmpty then (expandVariables? vars fuel rest).map ('$' :: ·)
      else match vars.get? (.ofList name) with
        | some value => (expandVariables? vars fuel (rest.drop name.length)).map
            fun more => value.toList ++ more
        | none => none
    | c :: rest => (expandVariables? vars fuel rest).map (c :: ·)

/-- The text with the home directory in place of a tilde at its beginning. -/
def expandHome (vars : Variables) (cs : List Char) : List Char :=
  let home := (vars.home?).map String.toList
  match cs, home with
  | ['~'], some home => home
  | '~' :: '/' :: rest, some home => home ++ '/' :: rest
  | cs, _ => cs

/-- A path with the variables that it names and with the home directory. It stays as it is when
it names a variable that there is not. -/
def expand (vars : Variables) (path : String) : String :=
  let cs := path.toList
  match expandVariables? vars (cs.length + 1) cs with
  | none => path
  | some expanded =>
    if expanded.head? = some '~' ∧ cs.head? ≠ some '~' then .ofList expanded
    else .ofList (expandHome vars expanded)

end HostConsole

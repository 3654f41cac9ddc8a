import HostConsole.Settings.Basic
import HostConsole.Toml.Reader
import HostConsole.Toml.Writer
import HostConsole.Failure

/-!
# Settings in files

A configuration file is a TOML document with a table for the server, one for defaults and one
for tasks.

## Main definitions

* `Layer.ofText?`: the layer of a configuration file
* `Settings.toText`: the settings as a configuration file, without the password
* `template`: a configuration file that gives nothing and explains all
-/

namespace HostConsole

open Toml

namespace Layer

/-- The fields of a section with the given field names. They may also be given in order, and a
date in place of a section gives none of them. -/
def section? (names : List String) : Toml → Option Entries
  | table _ entries => some entries
  | array items | tables items => some (names.zip items)
  | dateTime => some []
  | _ => none

/-- A field that may be missing, of a given kind. -/
def field? {α : Type} (entries : Entries) (name : String) (reader : Toml → Option α) :
    Option (Option α) :=
  match entries.lookup name with
  | none => some none
  | some value => (reader value).map some

/-- A text. -/
def textOf? : Toml → Option String
  | text s => some s
  | _ => none

/-- A truth value. -/
def flagOf? : Toml → Option Bool
  | boolean b => some b
  | _ => none

/-- A number of seconds. -/
def secondsOf? : Toml → Option Nat
  | integer n => if 0 ≤ n then some n.toNat else none
  | _ => none

/-- The fields of a section that may be missing. -/
def sectionOf? (document : Entries) (name : String) (names : List String) : Option Entries :=
  match document.lookup name with
  | none => some []
  | some value => section? names value

/-- The layer of a document. Entries of other names do not count. -/
def ofDocument? (document : Entries) : Option Layer := do
  let server ← sectionOf? document "server"
    ["url", "username", "password", "insecure", "timeout_secs"]
  let defaults ← sectionOf? document "defaults" ["org"]
  let tasks ← sectionOf? document "tasks" ["timeout_secs"]
  return {
    url := ← field? server "url" textOf?
    username := ← field? server "username" textOf?
    password := ← field? server "password" textOf?
    insecure := ← field? server "insecure" flagOf?
    requestTimeout := (← field? server "timeout_secs" secondsOf?).map some
    org := ← field? defaults "org" textOf?
    taskTimeout := (← field? tasks "timeout_secs" secondsOf?).map some
    reportDirectory := ← field? document "report_dir" textOf? }

/-- The layer of a configuration file. -/
def ofText? (cs : List Char) : Option Layer :=
  readDocument? cs >>= ofDocument?

end Layer

namespace Settings

/-- What is shown in place of the password. -/
def passwordMask : String := "********"

/-- A line for a text. -/
def textLine (key value : String) : String :=
  key ++ " = " ++ writeString value ++ "\n"

/-- A line for a text, where there is one. -/
def optionalLine (key : String) (value : Option String) : String :=
  match value with
  | some value => textLine key value
  | none => ""

/-- A line for a number of seconds, where there is one. -/
def secondsLine (key : String) (value : Option Nat) : String :=
  match value with
  | some value => key ++ " = " ++ Nat.repr value ++ "\n"
  | none => ""

/-- Can a file hold the number? -/
def isWritable (value : Option Nat) : Bool :=
  value.all (· < signedBound)

/-- The settings as a configuration file. The password is masked. -/
def toText (settings : Settings) : Except Failure String :=
  if isWritable settings.requestTimeout && isWritable settings.taskTimeout then
    .ok <|
      textLine "report_dir" settings.reportDirectory ++
      "\n[server]\n" ++
      textLine "url" settings.url ++
      optionalLine "username" settings.username ++
      optionalLine "password" (settings.password.map fun _ => passwordMask) ++
      "insecure = " ++ (if settings.insecure then "true" else "false") ++ "\n" ++
      secondsLine "timeout_secs" settings.requestTimeout ++
      "\n[defaults]\n" ++
      optionalLine "org" settings.org ++
      "\n[tasks]\n" ++
      secondsLine "timeout_secs" settings.taskTimeout
  else .error (.configuration .unwritableNumber)

/-- A configuration file that gives nothing and explains all. -/
def template : String :=
"# katello-system configuration
#
# Locations (by precedence, lowest to highest):
#   File: ~/.config/katello-system/config.toml (or --config FILE)
#   Env:  KATELLO_<SECTION>__<KEY>, e.g. KATELLO_SERVER__URL
#   CLI:  --url, --username, --password, --task-timeout

# Directory pdf reports are written to
# report_dir = \".\"

[server]
# url = \"https://katello.example.com/katello/api\"
# username = \"admin\"
# password = \"admin\"
# insecure = false
# timeout_secs = 60

[defaults]
# Organization used when --org is omitted
# org = \"ACME_Corporation\"

[tasks]
# Stop waiting for remote package tasks after this many seconds
# timeout_secs = 600
"

end Settings

end HostConsole

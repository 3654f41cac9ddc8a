import HostConsole.CommandLine.Values

/-!
# Reading a command line

The arguments are read from left to right, command by command. An option that waits for values
takes the following arguments as such until it has enough of them or another option comes; its
values are checked at that moment. A command is checked as a whole when its arguments are at an
end, after the command that it goes on with.

## Main definitions

* `Found`: what was given at one command
* `read`: what was given at each command, from the first one down
-/

namespace HostConsole.CommandLine

/-- What was given at one command: for each option, the values of each time that it was met. -/
abbrev Found := List (String × List (List String))

namespace Found

/-- Was the option given? -/
def has (found : Found) (identity : String) : Bool :=
  found.any fun entry => entry.1 == identity

/-- The values of an option, of all times together. -/
def values (found : Found) (identity : String) : List String :=
  ((found.lookup identity).getD []).flatten

/-- How often the option was met. -/
def count (found : Found) (identity : String) : Nat :=
  ((found.lookup identity).getD []).length

/-- The option met once more. -/
def add (found : Found) (identity : String) (values : List String) : Found :=
  match found with
  | [] => [(identity, [values])]
  | (name, groups) :: rest =>
    if name = identity then (name, groups ++ [values]) :: rest
    else (name, groups) :: add rest identity values

@[simp] theorem has_nil (identity : String) : has [] identity = false := rfl

@[simp] theorem values_nil (identity : String) : values [] identity = [] := rfl

end Found

/-- The state of reading at one command. -/
structure Reading where
  found : Found := []
  /-- The option whose values are being gathered, with those it has. -/
  pending : Option (OptionRule × List String) := none
  /-- Does the next argument belong to the pending option? -/
  waiting : Bool := false
  /-- How many operands were met. -/
  operands : Nat := 0
  /-- Are all further arguments operands? -/
  trailing : Bool := false

/-- Every command knows these two options. -/
def helpOptions : List OptionRule :=
  [{ identity := "help", long := some "help", short := some 'h', action := .help,
     least := 0, most := 0 },
   { identity := "version", long := some "version", short := some 'V', action := .version,
     least := 0, most := 0 }]

/-- The options of a command, with those that every command knows. -/
def CommandLevel.allOptions (level : CommandLevel) : List OptionRule :=
  level.options ++ helpOptions

/-- The option of a long name. -/
def CommandLevel.long? (level : CommandLevel) (name : String) : Option OptionRule :=
  level.allOptions.find? fun rule => rule.long == some name

/-- The option of a letter. -/
def CommandLevel.short? (level : CommandLevel) (letter : Char) : Option OptionRule :=
  level.allOptions.find? fun rule => rule.short == some letter

/-- Is that number of values right for the option? -/
def checkCount (rule : OptionRule) (count : Nat) : Except Rejection Unit :=
  if 0 < rule.least ∧ count = 0 then .error .invalidValue
  else if rule.least = rule.most then
    if count = rule.least then .ok () else .error .wrongNumberOfValues
  else if rule.most < count then .error .tooManyValues
  else .ok ()

/-- The pieces of a text between commas. -/
def commaPieces (s : String) : List String :=
  (s.toList.splitOn ',').map String.ofList

/-- An option met with its values, no other option being pending. -/
def meet (path : List String) (rule : OptionRule) (values : List String) (found : Found) :
    Except Rejection Found := do
  checkCount rule values.length
  let values := if rule.splits then values.flatMap commaPieces else values
  match rule.action with
  | .help => throw .displayHelp
  | .version => throw (.displayVersion path)
  | .switch | .once => if found.has rule.identity then throw .argumentConflict
  | .tally | .append => pure ()
  values.forM rule.kind.check
  return found.add rule.identity values

/-- The pending option takes the values it has. -/
def settle (path : List String) (r : Reading) : Except Rejection Reading :=
  match r.pending with
  | none => .ok { r with waiting := false }
  | some (rule, values) =>
    (meet path rule values r.found).map fun found =>
      { r with found, pending := none, waiting := false }

/-- An option met, after the pending one. -/
def react (path : List String) (rule : OptionRule) (values : List String) (r : Reading) :
    Except Rejection Reading := do
  let r ← settle path r
  return { r with found := ← meet path rule values r.found }

/-- An option that takes values: at once when one is attached, else from what follows. -/
def openOption (path : List String) (rule : OptionRule) (attached : Option String) (r : Reading) :
    Except Rejection Reading :=
  match attached with
  | some value => react path rule [value] r
  | none => (settle path r).map fun r => { r with pending := some (rule, []), waiting := true }

/-- The letters behind a dash. -/
def readLetters (path : List String) (level : CommandLevel) :
    List Char → Reading → Except Rejection Reading
  | [], r => .ok r
  | letter :: rest, r =>
    match level.short? letter with
    | none => .error .unknownArgument
    | some rule =>
      if rule.takesValues then
        openOption path rule (match rest with
          | [] => none
          | '=' :: value => some (.ofList value)
          | value => some (.ofList value)) r
      else do readLetters path level rest (← react path rule [] r)

/-- A long option: its name and the value attached to it. -/
def splitLong (cs : List Char) : String × Option String :=
  let name := cs.takeWhile (· != '=')
  (.ofList name, (cs.drop name.length).tail?.map String.ofList)

/-- The text behind two dashes. -/
def readLong (path : List String) (level : CommandLevel) (cs : List Char) (r : Reading) :
    Except Rejection Reading :=
  let (name, attached) := splitLong cs
  match level.long? name with
  | none => .error .unknownArgument
  | some rule =>
    if rule.takesValues then openOption path rule attached r
    else match attached with
      | some _ => .error .tooManyValues
      | none => react path rule [] r

/-- An argument that is neither an option nor the name of a command. -/
def readOperand (path : List String) (rule : CommandRule) (argument : String) (r : Reading) :
    Except Rejection Reading :=
  match rule.level.operands[r.operands]? with
  | some operand => (settle path r).map fun r =>
      { r with pending := some (operand, [argument]), operands := r.operands + 1 }
  | none =>
    let isCommand := (rule.command? argument).isSome || argument == "help"
    if rule.commands.isEmpty ∨ (r.trailing ∧ isCommand) then .error .unknownArgument
    else .error .invalidSubcommand

/-- A value of the pending option. -/
def takeValue (argument : String) (r : Reading) : Reading :=
  match r.pending with
  | none => { r with waiting := false }
  | some (option, values) =>
    let values := values ++ [argument]
    { r with pending := some (option, values), waiting := values.length < option.most }

/-- An argument of a command. -/
def readArgument (path : List String) (rule : CommandRule) (argument : String) (r : Reading) :
    Except Rejection Reading :=
  if r.trailing then readOperand path rule argument r
  else match argument.toList with
    | ['-', '-'] => .ok { r with trailing := true }
    | '-' :: '-' :: name => readLong path rule.level name r
    | '-' :: first :: letters => readLetters path rule.level (first :: letters) r
    | _ => if r.waiting then .ok (takeValue argument r) else readOperand path rule argument r

/-- Is the argument the name of a command here? -/
def isCommandName (rule : CommandRule) (argument : String) (r : Reading) : Bool :=
  !r.trailing && !r.waiting && !rule.commands.isEmpty &&
    ((rule.command? argument).isSome || argument == "help")

/-- Reads arguments up to the name of a command. Gives the state, and the name with the
arguments behind it. -/
def readLevel (path : List String) (rule : CommandRule) :
    List String → Reading → Except Rejection (Reading × Option (String × List String))
  | [], r => .ok (r, none)
  | argument :: rest, r =>
    if isCommandName rule argument r then .ok (r, some (argument, rest))
    else do readLevel path rule rest (← readArgument path rule argument r)

/-- What the names behind a request for help lead to. -/
def helpAbout : CommandRule → List String → Rejection
  | _, [] => .displayHelp
  | rule, name :: rest =>
    match rule.command? name with
    | some next => helpAbout next rest
    | none =>
      if name = "help" ∧ !rule.commands.isEmpty ∧ rest.isEmpty then .displayHelp
      else .invalidSubcommand

/-- Do two options exclude each other? -/
def excludes (level : CommandLevel) (a b : OptionRule) : Bool :=
  a.identity != b.identity &&
    (a.conflicts.contains b.identity || b.conflicts.contains a.identity ||
      level.choices.any fun members =>
        members.contains a.identity && members.contains b.identity)

/-- Are two options given that exclude each other? -/
def hasConflict (level : CommandLevel) (found : Found) : Bool :=
  let given := (level.options ++ level.operands).filter fun rule => found.has rule.identity
  given.any fun a => given.any fun b => excludes level a b

/-- Is an option missing that has to be there, for itself, for another one or for a choice? -/
def lacksRequired (level : CommandLevel) (found : Found) : Bool :=
  let rules := level.options ++ level.operands
  rules.any (fun rule => rule.isRequired && !found.has rule.identity) ||
    rules.any (fun rule => found.has rule.identity &&
      rule.requires.any fun identity => !found.has identity) ||
    level.choices.any fun members => !members.any found.has

/-- The checks of a whole command; `goesOn` says that a command of it followed. -/
def checkLevel (rule : CommandRule) (found : Found) (goesOn : Bool) : Except Rejection Unit :=
  if !rule.commands.isEmpty && !goesOn then
    if found.isEmpty then .error .displayHelpOnMissing else .error .missingSubcommand
  else if hasConflict rule.level found then .error .argumentConflict
  else if lacksRequired rule.level found then .error .missingRequiredArgument
  else .ok ()

/-- Reads a command and the commands it goes on with, `depth` of them at most. -/
def readCommand : Nat → List String → CommandRule → List String →
    Except Rejection (List (String × Found))
  | 0, _, _, _ => .ok []
  | depth + 1, path, rule, arguments => do
    let (r, next) ← readLevel path rule arguments {}
    let below ← match next with
      | none => pure []
      | some (name, rest) =>
        match rule.command? name with
        | some command => readCommand depth (path ++ [name]) command rest
        | none => throw (helpAbout rule rest)
    let r ← settle path r
    checkLevel rule r.found next.isSome
    return (rule.level.name, r.found) :: below

/-- Reads the arguments of a command line. Gives what was found at each command. -/
def read (rule : CommandRule) (arguments : List String) :
    Except Rejection (List (String × Found)) :=
  readCommand (arguments.length + 1) [rule.level.name] rule arguments

end HostConsole.CommandLine

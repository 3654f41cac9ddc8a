/-!
# Grammars of command lines

A command line names a command, gives options, and may go on with a command of the command.
A grammar says which options there are, how many values each takes, which of them exclude or
need each other and which have to be there.

## Main definitions

* `OptionRule`: an option, or a value without one
* `CommandRule`: a command with its options, its choices and its commands
* `Rejection`: why a command line does not fit its grammar
-/

namespace HostConsole.CommandLine

/-- What values an option takes. -/
inductive ValueKind where
  | text
  /-- A path, which is not empty. -/
  | path
  /-- A natural number of 64 bits. -/
  | natural
  /-- A natural number of 32 bits. -/
  | quantity
  | oneOf (words : List String)
  deriving DecidableEq, Repr

/-- What happens when an option is met. -/
inductive OptionAction where
  /-- It is switched on, once. -/
  | switch
  /-- It is counted. -/
  | tally
  /-- It takes its values, once. -/
  | once
  /-- It takes further values each time. -/
  | append
  /-- The help page is asked for. -/
  | help
  /-- The version is asked for. -/
  | version
  deriving DecidableEq, Repr

/-- An option. Its identity is unique within its command. -/
structure OptionRule where
  identity : String
  long : Option String := none
  short : Option Char := none
  action : OptionAction := .once
  kind : ValueKind := .text
  /-- The least number of values at one time. -/
  least : Nat := 1
  /-- The largest number of values at one time. -/
  most : Nat := 1
  /-- Are values cut at commas? -/
  splits : Bool := false
  conflicts : List String := []
  requires : List String := []
  isRequired : Bool := false
  deriving DecidableEq, Repr

/-- Does the option take values? -/
def OptionRule.takesValues (rule : OptionRule) : Bool :=
  match rule.action with
  | .once | .append => true
  | _ => false

/-- A command. Of each of its choices exactly one member has to be there. -/
structure CommandLevel where
  name : String
  options : List OptionRule := []
  /-- The values without an option, in their order. -/
  operands : List OptionRule := []
  choices : List (List String) := []
  deriving DecidableEq, Repr

/-- A command with its commands. A command that has any needs one of them. -/
inductive CommandRule where
  | mk (level : CommandLevel) (commands : List CommandRule)

namespace CommandRule

/-- The command itself. -/
def level : CommandRule → CommandLevel
  | mk level _ => level

/-- The commands of the command. -/
def commands : CommandRule → List CommandRule
  | mk _ commands => commands

/-- The command of a name. -/
def command? (rule : CommandRule) (name : String) : Option CommandRule :=
  rule.commands.find? fun r => r.level.name == name

end CommandRule

/-- Why a command line does not fit its grammar, or what it asks for in place of a command. -/
inductive Rejection where
  | unknownArgument
  | missingRequiredArgument
  | argumentConflict
  | invalidValue
  | valueValidation
  | wrongNumberOfValues
  | tooManyValues
  | invalidSubcommand
  | missingSubcommand
  | displayHelp
  /-- The version is asked for, of the command that these names lead to. -/
  | displayVersion (names : List String)
  | displayHelpOnMissing
  deriving DecidableEq, Repr

/-- The name of a rejection. -/
def Rejection.name : Rejection → String
  | unknownArgument => "UnknownArgument"
  | missingRequiredArgument => "MissingRequiredArgument"
  | argumentConflict => "ArgumentConflict"
  | invalidValue => "InvalidValue"
  | valueValidation => "ValueValidation"
  | wrongNumberOfValues => "WrongNumberOfValues"
  | tooManyValues => "TooManyValues"
  | invalidSubcommand => "InvalidSubcommand"
  | missingSubcommand => "MissingSubcommand"
  | displayHelp => "DisplayHelp"
  | displayVersion _ => "DisplayVersion"
  | displayHelpOnMissing => "DisplayHelpOnMissingArgumentOrSubcommand"

end HostConsole.CommandLine

import HostConsole.Json.Shape

/-!
# Tasks

A task is work that the server does on its own after a request has returned. It waits, runs, and
then stands in one of the ended states for ever.

## Main definitions

* `TaskState`: the states, with `TaskState.isTerminal` and `TaskState.succeeded`
* `Task`: the record
-/

namespace HostConsole

open Json

/-- The state of a task. -/
inductive TaskState where
  | waiting
  | running
  | finished
  | error
  | timedOut
  | canceled
  /-- A state that the server names and this library does not know. -/
  | unknown
  deriving DecidableEq, Repr

namespace TaskState

/-- The name of a state. -/
def name : TaskState → String
  | waiting => "waiting"
  | running => "running"
  | finished => "finished"
  | error => "error"
  | timedOut => "timed_out"
  | canceled => "canceled"
  | unknown => "unknown"

/-- The state of a name; three states have a second name, and any other name is unknown. -/
def ofName (s : String) : TaskState :=
  if s = "waiting" ∨ s = "pending" then waiting
  else if s = "running" then running
  else if s = "finished" ∨ s = "succeeded" then finished
  else if s = "error" ∨ s = "failed" then error
  else if s = "timed_out" then timedOut
  else if s = "canceled" then canceled
  else unknown

/-- Has the task ended? -/
def isTerminal : TaskState → Bool
  | waiting | running => false
  | _ => true

/-- Has the task ended well? -/
def succeeded : TaskState → Bool
  | finished => true
  | _ => false

/-- Reads a state: its name, or an object with the name over `null`. -/
def ofJson? : Json → Option TaskState
  | .string s => some (ofName s)
  | .object [(s, .null)] => some (ofName s)
  | _ => none

/-- Writes a state. -/
def toJson (state : TaskState) : Json :=
  .string state.name

@[simp] theorem ofName_name (state : TaskState) : ofName state.name = state := by
  cases state <;> decide

@[simp] theorem ofJson?_toJson (state : TaskState) : ofJson? state.toJson = some state := by
  simp [ofJson?, toJson]

end TaskState

/-- Work that the server does on its own. -/
structure Task where
  uuid : String
  state : TaskState
  resultDescription : String
  description : Option String
  systemName : Option String
  createdAt : Option String
  finishTime : Option String
  deriving DecidableEq, Repr

namespace Task

/-- Reads a task. -/
def ofJson? (value : Json) : Option Task := do
  let fields ← fields? ["uuid", "state", "result_description", "description", "system_name",
    "created_at", "finish_time"] value
  let optionalText := fun name => orDefault fields name none (optional? text?)
  return {
    uuid := ← required fields "uuid" text?
    state := ← required fields "state" TaskState.ofJson?
    resultDescription := ← orDefault fields "result_description" "" text?
    description := ← optionalText "description"
    systemName := ← optionalText "system_name"
    createdAt := ← optionalText "created_at"
    finishTime := ← optionalText "finish_time" }

/-- Writes a task. -/
def toJson (t : Task) : Json :=
  let optionalText := ofOption Json.string
  .object [
    ("uuid", .string t.uuid),
    ("state", t.state.toJson),
    ("result_description", .string t.resultDescription),
    ("description", optionalText t.description),
    ("system_name", optionalText t.systemName),
    ("created_at", optionalText t.createdAt),
    ("finish_time", optionalText t.finishTime)]

end Task

end HostConsole

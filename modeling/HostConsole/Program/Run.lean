import HostConsole.Program.Basic
import HostConsole.Server.Connection

/-!
# Runs

A program runs in surroundings: a far end, files and a clock that moves only while the program
sleeps. A run leaves behind its result, everything that could be seen of it, and the
surroundings as they are then.

## Main definitions

* `Surroundings`, `Event`, `Ending`: where a program runs, what is seen of it, how it ends
* `Connection.watch`: looking at a task until it has ended
* `Program.run`: the run of a program
-/

namespace HostConsole

/-- Where a program runs. -/
structure Surroundings where
  network : Network
  files : Files
  /-- The time, in milliseconds. -/
  clock : Nat := 0

/-- What is seen of a run. -/
inductive Event where
  /-- The client was given a request to send. -/
  | sent (turn : Turn)
  | told (message : Output.Message)
  /-- A line for the user that is no result. -/
  | warned (text : String)
  /-- A task was seen, as it was then. -/
  | saw (task : Task)
  /-- Nothing was done for some milliseconds. -/
  | slept (duration : Nat)

/-- How a run ends. -/
structure Ending (α : Type) where
  result : Except Failure α
  events : List Event
  surroundings : Surroundings

/-- The turn that an event stands for. -/
def Event.turn? : Event → Option Turn
  | sent turn => some turn
  | _ => none

/-- The turns among some events, in their order. -/
def turnsOf (events : List Event) : List Turn :=
  events.filterMap Event.turn?

@[simp] theorem turnsOf_nil : turnsOf [] = [] := rfl

@[simp] theorem turnsOf_append (events more : List Event) :
    turnsOf (events ++ more) = turnsOf events ++ turnsOf more :=
  List.filterMap_append

@[simp] theorem turnsOf_sent (turn : Turn) (events : List Event) :
    turnsOf (.sent turn :: events) = turn :: turnsOf events := rfl

@[simp] theorem turnsOf_told (message : Output.Message) (events : List Event) :
    turnsOf (.told message :: events) = turnsOf events := rfl

@[simp] theorem turnsOf_saw (task : Task) (events : List Event) :
    turnsOf (.saw task :: events) = turnsOf events := rfl

@[simp] theorem turnsOf_slept (duration : Nat) (events : List Event) :
    turnsOf (.slept duration :: events) = turnsOf events := rfl

@[simp] theorem turnsOf_map_sent (turns : List Turn) : turnsOf (turns.map .sent) = turns := by
  induction turns with
  | nil => rfl
  | cons turn turns ih => rw [List.map_cons, turnsOf_sent, ih]

namespace Ending

variable {α : Type}

/-- The turns of a run, in their order. -/
def turns (ending : Ending α) : List Turn :=
  turnsOf ending.events

/-- The ending with what was seen before. -/
def after (events : List Event) (ending : Ending α) : Ending α :=
  { ending with events := events ++ ending.events }

@[simp] theorem after_nil (ending : Ending α) : ending.after [] = ending := rfl

@[simp] theorem result_after (events : List Event) (ending : Ending α) :
    (ending.after events).result = ending.result := rfl

@[simp] theorem surroundings_after (events : List Event) (ending : Ending α) :
    (ending.after events).surroundings = ending.surroundings := rfl

@[simp] theorem turns_after (events : List Event) (ending : Ending α) :
    (ending.after events).turns = turnsOf events ++ ending.turns :=
  turnsOf_append events ending.events

theorem after_after (events more : List Event) (ending : Ending α) :
    (ending.after more).after events = ending.after (events ++ more) := by
  simp [after, List.append_assoc]

end Ending

/-- The failure that a fault ends a program with. -/
def RemoteFault.failure (fault : RemoteFault) (missing : Option Failure) : Failure :=
  match missing with
  | some failure => if fault.isNotFound then failure else .remote fault
  | none => .remote fault

/-- Has a wait of so many milliseconds been long enough? -/
def Polling.isOver (polling : Polling) (waited : Nat) : Bool :=
  match polling.timeout with
  | some timeout => decide (timeout ≤ waited)
  | none => false

namespace Connection

/-- How watching a task ends: with the task, what was seen, what is left to arrive and the time. -/
structure Watch where
  result : Except Failure Task
  events : List Event
  left : List Delivery
  clock : Nat

/-- The watch with what was seen before. -/
def Watch.after (events : List Event) (watch : Watch) : Watch :=
  { watch with events := events ++ watch.events }

/-- Looks at a task again and again, at once and then behind each interval, until it has ended,
a look fails or the time is over. -/
def watch (c : Connection) (task : String) (polling : Polling) (started : Nat) :
    List Delivery → Nat → Watch
  | [], clock =>
    let call : Call := .lookup (.task task)
    { result := .error (.remote (c.broken call.request))
      events := [.sent (c.turn call .nothing)], left := [], clock }
  | delivery :: rest, clock =>
    let call : Call := .lookup (.task task)
    let asked := Event.sent (c.turn call delivery)
    match c.receive call delivery with
    | .error fault => { result := .error (.remote fault), events := [asked], left := rest, clock }
    | .ok (seen : Task) =>
      let events := [asked, .saw seen]
      if seen.state.isTerminal then { result := .ok seen, events, left := rest, clock }
      else if polling.isOver (clock - started) then
        { result := .error (.taskTimeout task (clock - started)), events, left := rest, clock }
      else (c.watch task polling started rest (clock + polling.interval)).after
        (events ++ [.slept polling.interval])

end Connection

/-- The run of a program. -/
def Program.run {α : Type} (c : Connection) : Program α → Surroundings → Ending α
  | .done result, s => { result := .ok result, events := [], surroundings := s }
  | .fail failure, s => { result := .error failure, events := [], surroundings := s }
  | .tell message next, s => (next.run c s).after [.told message]
  | .ask call missing next, s =>
    let exchange := c.exchange call s.network
    let events := exchange.turns.map Event.sent
    let s := { s with network := exchange.network }
    match exchange.result with
    | .ok answer => ((next answer).run c s).after events
    | .error fault => { result := .error (fault.failure missing), events, surroundings := s }
  | .await task polling next, s =>
    match c.obstacle? s.network.isListening (Lookup.task task).request with
    | some fault => { result := .error (.remote fault), events := [], surroundings := s }
    | none =>
      let watch := c.watch task polling s.clock s.network.deliveries s.clock
      let s := { s with
        network := { s.network with deliveries := watch.left }
        clock := watch.clock }
      match watch.result with
      | .ok ended => ((next ended).run c s).after watch.events
      | .error failure => { result := .error failure, events := watch.events, surroundings := s }
  | .save path bytes unwritable next, s =>
    match s.files.write path bytes with
    | .ok files => next.run c { s with files }
    | .error _ => { result := .error unwritable, events := [], surroundings := s }

end HostConsole

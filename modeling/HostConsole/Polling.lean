/-!
# Polling

How a task is waited for.

## Main definitions

* `Polling`: the time between two looks at a task, and the time to wait for it
* `Polling.withTimeout`: a look every second
-/

namespace HostConsole

/-- How a task is waited for, in milliseconds. Without a timeout the wait ends with the task. -/
structure Polling where
  interval : Nat
  timeout : Option Nat
  deriving DecidableEq, Repr

/-- The usual time between two looks at a task. -/
def Polling.usualInterval : Nat := 1000

/-- A look every second, for a limited time or not. -/
def Polling.withTimeout (timeout : Option Nat) : Polling :=
  { interval := usualInterval, timeout }

end HostConsole

import HostConsole.Display.Machine
import HostConsole.Record.Task

/-!
# Tasks on the screen

## Main definitions

* `Display.tasks`, `Display.task`: layouts for a listing of tasks and for one task
-/

namespace HostConsole.Display

open Output

/-- The row of a task. What came of it begins on a line of its own. -/
def taskRow (t : Task) : Row :=
  Dictionary.ofList [
    ("uuid", t.uuid), ("system_name", text t.systemName), ("description", text t.description),
    ("created_at", moment t.createdAt), ("finish_time", moment t.finishTime),
    ("state", t.state.name), ("result", "\n" ++ t.resultDescription)]

/-- A listing of tasks. -/
def tasks (strategy : Strategy) (found : List Task) : Listing :=
  ({ strategy, header := some "Remote tasks"
     columns := [⟨"uuid", "Task ID", .always⟩, ⟨"system_name", "System", .always⟩,
       ⟨"description", "Action", .always⟩, ⟨"created_at", "Started", .verbose⟩,
       ⟨"finish_time", "Finished", .verbose⟩, ⟨"state", "Status", .always⟩,
       ⟨"result", "Result", .verbose⟩] },
   found.map taskRow)

/-- One task. -/
def task (strategy : Strategy) (t : Task) : Sheet :=
  ({ strategy, header := some "Remote task"
     columns := [⟨"system_name", "System", .always⟩, ⟨"description", "Action", .always⟩,
       ⟨"created_at", "Started", .always⟩, ⟨"finish_time", "Finished", .always⟩,
       ⟨"state", "Status", .always⟩, ⟨"result", "Result", .always⟩] },
   taskRow t)

end HostConsole.Display

import HostConsole.Output.Message
import HostConsole.Polling
import HostConsole.Server.Call

/-!
# Programs

A command is a program of single steps: it tells something, asks the server, waits for a task or
saves a file, and goes on with what came of the step. A step that does not succeed ends the
program, so that a program never sees a failure and never tries again.

## Main definitions

* `Program`: the programs, a monad
* `Program.look`, `Program.change`, `Program.tell`, `Program.require`: programs of one step
-/

namespace HostConsole

/-- A program with a result. -/
inductive Program (α : Type) where
  | done (result : α)
  | fail (failure : Failure)
  | tell (message : Output.Message) (next : Program α)
  /-- Asks the server. Where the server has nothing at the resource, the program ends with
  `missing`, if that is given. -/
  | ask (call : Call) (missing : Option Failure) (next : call.Answer → Program α)
  /-- Looks at a task until it has ended. -/
  | await (task : String) (polling : Polling) (next : Task → Program α)
  /-- Writes a file. Where that cannot be done, the program ends with `unwritable`. -/
  | save (path : String) (bytes : List UInt8) (unwritable : Failure) (next : Program α)

namespace Program

variable {α β : Type}

/-- A program that goes on with another one. -/
def bind : Program α → (α → Program β) → Program β
  | done result, f => f result
  | fail failure, _ => fail failure
  | tell message next, f => tell message (next.bind f)
  | ask call missing next, f => ask call missing fun answer => (next answer).bind f
  | await task polling next, f => await task polling fun ended => (next ended).bind f
  | save path bytes unwritable next, f => save path bytes unwritable (next.bind f)

instance : Monad Program where
  pure := done
  bind := bind

/-- Looks something up at the server. -/
def look (l : Lookup) (missing : Option Failure := none) : Program l.Answer :=
  ask (.lookup l) missing done

/-- Changes something at the server. -/
def change (c : Change) : Program c.Answer :=
  ask (.change c) none done

/-- Tells something. -/
def say (message : Output.Message) : Program Unit :=
  tell message (done ())

/-- Waits for a task. -/
def waitFor (task : String) (polling : Polling) : Program Task :=
  await task polling done

/-- Writes a file. -/
def write (path : String) (bytes : List UInt8) (unwritable : Failure) : Program Unit :=
  save path bytes unwritable (done ())

/-- Goes on with a result, if there is one. -/
def require : Except Failure α → Program α
  | .ok result => done result
  | .error failure => fail failure

@[simp] theorem pure_bind (result : α) (f : α → Program β) :
    (pure result : Program α) >>= f = f result := rfl

@[simp] theorem fail_bind (failure : Failure) (f : α → Program β) :
    (fail failure : Program α) >>= f = fail failure := rfl

theorem bind_done (p : Program α) : p.bind done = p := by
  induction p with
  | done | fail => rfl
  | tell message next ih => exact congrArg (tell message) ih
  | ask call missing next ih => exact congrArg (ask call missing) (funext ih)
  | await task polling next ih => exact congrArg (await task polling) (funext ih)
  | save path bytes unwritable next ih => exact congrArg (save path bytes unwritable) ih

theorem bind_bind {γ : Type} (p : Program α) (f : α → Program β) (g : β → Program γ) :
    (p.bind f).bind g = p.bind fun result => (f result).bind g := by
  induction p with
  | done | fail => rfl
  | tell message next ih => exact congrArg (tell message) ih
  | ask call missing next ih => exact congrArg (ask call missing) (funext ih)
  | await task polling next ih => exact congrArg (await task polling) (funext ih)
  | save path bytes unwritable next ih => exact congrArg (save path bytes unwritable) ih

instance : LawfulMonad Program :=
  .mk' Program bind_done (fun _ _ => rfl) bind_bind

end Program

end HostConsole

import HostConsole.Console

/-!
# The program

Reads the command line, the environment and the files that the command line is about, runs the
console on them, and writes what became of them. The program itself opens no connection: it finds
nobody listening.
-/

namespace HostConsole

/-- What stands at a path. -/
def nodeAt? (path : String) : IO (Option Node) := do
  try
    return some (.file (← IO.FS.readBinFile path).toList)
  catch _ =>
    try
      let _ ← IO.FS.realPath path
      return some .directory
    catch _ => return none

/-- What stands at some paths and at the paths that lead to them. -/
def snapshot (current : Place) (paths : List String) : IO Files := do
  let mut entries : List (Place × Node) := []
  for path in paths.flatMap pathsTowards do
    if let some node ← nodeAt? path then
      let start := if path.toList.head? = some '/' then [] else current
      entries := (start ++ Files.namesOf path, node) :: entries
  return Files.ofEntries current entries.reverse

/-- Writes what became different. -/
def store (changes : List (Place × Node)) : IO Unit := do
  for (place, node) in changes do
    match node with
    | .directory => IO.FS.createDirAll place.path
    | .file bytes => IO.FS.writeBinFile place.path (ByteArray.mk bytes.toArray)

/-- The paths of the configuration files, and of the directory for reports. -/
def pathsOf (arguments : List String) (vars : Variables) : IO (List String) := do
  match Invocation.ofArguments arguments with
  | .error _ => return []
  | .ok invocation =>
    let paths := (configurationPath? vars).toList ++ invocation.globals.config.toList
    let files ← snapshot [] paths
    match invocation.globals.settings vars files with
    | .error _ => return paths
    | .ok settings => return paths ++ [settings.reportDirectory]

/-- Runs the console. -/
def runProgram (arguments : List String) : IO UInt32 := do
  let vars := Variables.ofBlock (← IO.FS.readBinFile "/proc/self/environ").toList
  let current := Files.namesOf ((vars.get? "PWD").getD "")
  let files ← snapshot current (← pathsOf arguments vars)
  let stdout ← IO.getStdout
  let stderr ← IO.getStderr
  let colors := Console.areColorsWanted vars (← stdout.isTty)
  let network : Network := { isListening := false, deliveries := [] }
  let closing := Console.run arguments vars colors { network, files }
  stdout.putStr closing.output
  stderr.putStr closing.complaints
  store (files.changes closing.surroundings.files)
  return closing.exitCode.number.toUInt32

end HostConsole

/-- Runs the console on the arguments of the command line. -/
def main (arguments : List String) : IO UInt32 :=
  HostConsole.runProgram arguments

import ImportOrder.Datum.JsonReader
import ImportOrder.Program
import ImportOrder.SyntaxTree.Reader

/-!
# The command line program

The outer layer: it finds the files, the environment and the syntax trees, runs
`runProgram` on them, shows what it wrote, and carries out what it changed.

The trees are read from standard input as a JSON list, and only for commands that look
at sources. The files are those below the working directory and below the paths that are
given, what is in the directories above them, and what the user has configured.
-/

namespace ImportOrder.Main

/-- The names of an absolute path. -/
def locationOf (path : String) : Location :=
  (pathParts path).filterMap fun part => match part with
    | .name s => some s
    | _ => none

/-- What a file holds. -/
def loadFile (p : Project) (loc : Location) : IO Project := do
  try
    let bytes ← IO.FS.readBinFile (writtenFromRoot loc)
    return p.plant loc (.file (Content.ofBytes bytes.toList))
  catch
    | .permissionDenied .. => return p.plant loc (.file (.locked .permissionDenied))
    | .hardwareFault .. => return p.plant loc (.file (.locked .deviceFailure))
    | _ => return p

/-- Load what is in a directory and, on demand, what is below it. -/
partial def loadDirectory (deep : Bool) (p : Project) (loc : Location) : IO Project := do
  try
    let top ← IO.FS.realPath (writtenFromRoot loc)
    let mut project := p.plant loc .directory
    for entry in ← top.readDir do
      let below := loc ++ [entry.fileName]
      if ← entry.path.isDir then
        if deep then project ← loadDirectory deep project below
        else project :=
          if (project.node? below).isSome then project else project.plant below .directory
      else project ← loadFile project below
    return project
  catch _ => return p

/-- Load the directories above a location, nearest last. -/
def loadAbove (p : Project) (loc : Location) : IO Project :=
  (ancestors loc).reverse.foldlM (loadDirectory false) p

/-- Load everything that a path leads to. -/
def loadPath (p : Project) (path : String) : IO Project := do
  try
    let loc := locationOf (← IO.FS.realPath path).toString
    let p ← loadAbove p loc
    loadDirectory true p loc
  catch _ => return p

/-- The variables of the process. -/
def loadEnvironment : IO Environment := do
  try
    let bytes ← IO.FS.readBinFile "/proc/self/environ"
    let text := (String.fromUTF8? bytes).getD ""
    return (text.splitOn "\x00").filterMap fun entry =>
      match entry.splitOn "=" with
      | name :: value@(_ :: _) => some (name, "=".intercalate value)
      | _ => none
  catch _ => return []

/-- The trees on standard input. -/
def loadTrees : IO TreeSource := do
  let text ← (← IO.getStdin).readToEnd
  return ((readJson? text).bind TreeSource.ofDatum?).getD TreeSource.empty

/-- Load one file, if there is one at a path. -/
def loadFileAt (p : Project) (path : String) : IO Project := do
  try
    loadFile p (locationOf (← IO.FS.realPath path).toString)
  catch _ => return p

/-- Load the user's configuration files and then the file with patterns that they lead
to. -/
def loadUserFiles (p : Project) (env : Environment) : IO Project := do
  let p ← (configurationFiles env).foldlM loadFileAt p
  (p.userPatternsPath? env).toList.foldlM loadFileAt p

/-- The paths that a request is about. -/
def pathsOf : Except UsageError Request → List String
  | .ok (.run { command := .check paths _, .. }) => paths
  | .ok (.run { command := .fix file _ _, .. }) => [file]
  | _ => []

/-- Find what the program runs on. -/
def loadSurroundings (request : Except UsageError Request) : IO Surroundings := do
  let here := locationOf (← IO.currentDir).toString
  let environment ← loadEnvironment
  let paths := pathsOf request
  let mut project ← loadAbove { cwd := here } here
  project ← loadPath project ".importsort"
  project ← loadUserFiles project environment
  for path in paths do project ← loadPath project path
  let trees ← if paths.isEmpty then pure TreeSource.empty else loadTrees
  return { project, environment, trees }

/-- Write the files that have changed. -/
def storeChanges (before after : Project) : IO Unit := do
  for (loc, content) in after.files do
    unless before.node? loc == some (.file content) do
      IO.FS.createDirAll (writtenFromRoot loc.dropLast)
      IO.FS.writeBinFile (writtenFromRoot loc) ⟨content.bytes.toArray⟩

end ImportOrder.Main

open ImportOrder in
/-- Run the program. -/
def main (arguments : List String) : IO UInt32 := do
  let surroundings ← Main.loadSurroundings (readArguments arguments)
  let outcome := runProgram surroundings arguments
  Main.storeChanges surroundings.project outcome.project
  (← IO.getStderr).putStr outcome.output.stderr
  (← IO.getStdout).putStr outcome.output.stdout
  return outcome.exit.toUInt32

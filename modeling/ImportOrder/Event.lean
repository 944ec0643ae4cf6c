import ImportOrder.Order
import ImportOrder.Failure
import ImportOrder.Run

/-!
# Events

What the program tells about its progress while it works. Events do not influence any
result; the command line turns them into log lines.
-/

namespace ImportOrder

/-- A step of the program's work. -/
inductive Event where
  /-- the rule has been set up -/
  | ruleConfigured (rule : Rule)
  /-- a number of files is about to be checked -/
  | checkingFiles (count : Nat)
  /-- a file is left out because it could not be parsed -/
  | skippingFile (path : String) (cause : Failure)
  /-- a file has been read and is about to be parsed -/
  | parsingFile (path language : String)
  /-- imports come after other statements -/
  | lateImports (count : Nat)
  /-- the runs of imports have been determined -/
  | collectedRuns (count : Nat)
  /-- a run is out of order -/
  | runOutOfOrder (line : Nat) (cause : Violation)
  /-- fixes are about to be applied -/
  | applyingFixes (pass fixes : Nat)
  /-- mending has come to an end -/
  | fixingFinished (passes remaining : Nat)
deriving DecidableEq, Repr

/-- What is told while a list of statements is checked. -/
def checkEvents (rule : Rule) (ss : List Statement) : List Event :=
  let late := ((ss.dropWhile Statement.isImport).filter Statement.isImport).length
  if rule.importsAtStart && late != 0 then [.lateImports late]
  else
    let runs := collectRuns ss
    .collectedRuns runs.length :: runs.filterMap fun r =>
      match firstViolation rule r.imports with
      | .ok (some cause) => some (.runOutOfOrder r.head.startLine cause)
      | _ => none

end ImportOrder

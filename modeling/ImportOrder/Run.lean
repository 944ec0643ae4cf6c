import ImportOrder.Statement

/-!
# Runs of imports

A run is a maximal sequence of imports that follow each other without another statement
between them. The rule orders imports within a run only. A run has at least one import,
which its type says, and remembers at which place of the statement list it begins.
-/

namespace ImportOrder

/-- A sequence of neighbouring imports. -/
structure Run where
  /-- the place of the first import in the list of statements -/
  firstIndex : Nat
  /-- the first import -/
  head : ImportDecl
  /-- the imports after it -/
  tail : List ImportDecl
deriving DecidableEq, Repr

namespace Run

/-- All imports of the run. -/
def imports (r : Run) : List ImportDecl := r.head :: r.tail

/-- The last import of the run. -/
def last (r : Run) : ImportDecl := r.imports.getLast (List.cons_ne_nil _ _)

/-- The place of the last import in the list of statements. -/
def lastIndex (r : Run) : Nat := r.firstIndex + r.imports.length - 1

/-- A run is never empty, so the arithmetic does not stop at zero. -/
theorem lastIndex_eq (r : Run) : r.lastIndex = r.firstIndex + r.tail.length := rfl

/-- From the first import to the last one. -/
def span (r : Run) : Except Fault Span := r.head.span.cover r.last.span

end Run

/-- What a walk over statements has found so far: the runs that are complete, and the
one that the last statement belongs to. -/
structure RunScan where
  /-- the runs that another statement has ended, in order -/
  complete : List Run := []
  /-- the run that may still grow -/
  current : Option Run := none
deriving DecidableEq, Repr

namespace RunScan

/-- All runs, if the one that may still grow ends here. -/
def flush (scan : RunScan) : List Run := scan.complete ++ scan.current.toList

/-- Go on to the statement at place `index`: an import joins the current run or begins
one, any other statement ends it. -/
def next (scan : RunScan) : Statement × Nat → RunScan
  | (.other .., _) => { complete := scan.flush }
  | (.importDecl d, index) =>
    match scan.current with
    | some r => { scan with current := some { r with tail := r.tail ++ [d] } }
    | none => { scan with current := some ⟨index, d, []⟩ }

end RunScan

/-- The runs of a list of statements, in order. -/
def collectRuns (ss : List Statement) : List Run := (ss.zipIdx.foldl RunScan.next {}).flush

end ImportOrder

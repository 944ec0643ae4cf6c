import ImportOrder.Order
import ImportOrder.Layout
import ImportOrder.Placement
import ImportOrder.Spacing

/-!
# Checking a text

`check` finds everything in a text that breaks the rule. It proceeds in two steps:

* `findings` lists the problems in order, each with the fix that would remove it. If
  imports have to come first and some do not, these are all that is reported. Otherwise
  each run is looked at in turn: its order, then its braced lists, then, if the order is
  right, the blank line after it;
* `withhold` keeps a fix only if its span is clear of the spans of all fixes kept before
  it. A problem whose fix is withheld is reported all the same, and a later pass can
  mend it.
-/

namespace ImportOrder

/-- What a diagnostic is about. -/
inductive Problem where
  /-- a run is out of order, and this is the first thing wrong with it -/
  | importOrder (cause : Violation)
  /-- an import comes after another statement -/
  | misplacedImport
  /-- a run is not followed by a blank line -/
  | missingTrailingLine
  /-- a braced list is not sorted -/
  | specifierOrder
deriving DecidableEq, Repr

/-- The text shown to the user. -/
def Problem.message : Problem → String
  | .importOrder _ => "Import order is not correct."
  | .misplacedImport => "All imports should go at the top of the file."
  | .missingTrailingLine => "Imports should be followed by a blank line."
  | .specifierOrder => "Import specifiers should be sorted alphabetically."

/-- A problem at an import, with the fix that would remove it. -/
structure Finding where
  /-- what is wrong -/
  problem : Problem
  /-- the import at which it is reported -/
  decl : ImportDecl
  /-- what would remove it -/
  fix : Fix
deriving DecidableEq, Repr

/-- A reported problem. -/
structure Diagnostic where
  /-- what is wrong -/
  problem : Problem
  /-- the import at which it is reported -/
  anchor : Span
  /-- the line on which that import starts -/
  line : Nat
  /-- what removes the problem, unless it was withheld -/
  fix : Option Fix
deriving DecidableEq, Repr

/-- The text shown to the user. -/
def Diagnostic.message (d : Diagnostic) : String := d.problem.message

/-- Report a finding with or without its fix. -/
def Finding.report (f : Finding) (withFix : Bool) : Diagnostic :=
  ⟨f.problem, f.decl.span, f.decl.startLine, if withFix then some f.fix else none⟩

/-- The unsorted braced lists among the imports. -/
def specifierFindings (text : String) (rule : Rule) : List ImportDecl → Except Fault (List Finding)
  | [] => .ok []
  | d :: rest => do
    let here ← if d.unsorted rule.ignoreCase then specifierFix text rule.ignoreCase d else .ok none
    let later ← specifierFindings text rule rest
    .ok (match here with
      | some fix => ⟨.specifierOrder, d, fix⟩ :: later
      | none => later)

/-- Everything that is wrong with one run. -/
def runFindings (text : String) (rule : Rule) (ss : List Statement) (r : Run) :
    Except Fault (List Finding) := do
  let violation ← firstViolation rule r.imports
  let order ← match violation with
    | some cause => do
      let fix ← runFix text rule r
      .ok [⟨.importOrder cause, r.head, fix⟩]
    | none => .ok []
  let specifiers ← specifierFindings text rule r.imports
  let trailing ←
    if violation.isNone && rule.enforceTrailingLine then trailingFix text ss r else .ok none
  .ok (order ++ specifiers ++
    (match trailing with
    | some fix => [⟨.missingTrailingLine, r.last, fix⟩]
    | none => []))

/-- Everything that is wrong with some runs. -/
def allRunFindings (text : String) (rule : Rule) (ss : List Statement) :
    List Run → Except Fault (List Finding)
  | [] => .ok []
  | r :: rest => do
    let here ← runFindings text rule ss r
    let later ← allRunFindings text rule ss rest
    .ok (here ++ later)

/-- The imports that come too late, if the rule minds. -/
def lateImports (text : String) (rule : Rule) (ss : List Statement) :
    Except Fault (List Misplaced) :=
  if rule.importsAtStart then misplacedImports text ss else .ok []

/-- Everything that is wrong, in order. -/
def findings (text : String) (rule : Rule) (ss : List Statement) : Except Fault (List Finding) := do
  let late ← lateImports text rule ss
  if late.isEmpty then allRunFindings text rule ss (collectRuns ss)
  else .ok (late.map fun m => ⟨.misplacedImport, m.decl, m.fix⟩)

/-- Report findings in order and drop each fix that overlaps one kept before; `taken`
holds the spans of those. -/
def withhold (taken : List Span) : List Finding → List Diagnostic
  | [] => []
  | f :: rest =>
    if taken.any (·.overlaps f.fix.span) then f.report false :: withhold taken rest
    else f.report true :: withhold (f.fix.span :: taken) rest

/-- Everything in the text that breaks the rule. -/
def check (text : String) (rule : Rule) (ss : List Statement) : Except Fault (List Diagnostic) := do
  let found ← findings text rule ss
  .ok (withhold [] found)

/-- The fixes that diagnostics carry. -/
def fixesOf (ds : List Diagnostic) : List Fix := ds.filterMap (·.fix)

end ImportOrder

import ImportOrder.Rule
import ImportOrder.Fault

/-!
# Order violations

A run is in order if no import compares greater than its successor, and, where blank
lines are asked for, if a change of category comes with one. The first pair that breaks
this says what is wrong.

The blank line is judged by the lines on which the two imports start.
-/

namespace ImportOrder

/-- What is wrong between two neighbouring imports. -/
inductive Violation where
  /-- the second one belongs to an earlier category -/
  | wrongCategory
  /-- the categories agree and the second path sorts before the first -/
  | wrongPath
  /-- the category changes without a blank line -/
  | missingBlankLine
deriving DecidableEq, Repr

/-- What is wrong between two imports, the second of which follows the first. -/
def pairViolation (rule : Rule) (a b : ImportDecl) : Except Fault (Option Violation) :=
  match compareCategories rule.sortOrder a b with
  | .gt => .ok (some .wrongCategory)
  | .eq => .ok (if comparePaths rule.ignoreCase a b = .gt then some .wrongPath else none)
  | .lt =>
    if rule.enforceBlankLine then do
      let adjoining ← nextLine a.startLine
      .ok (if b.startLine ≤ adjoining then some .missingBlankLine else none)
    else .ok none

/-- What is wrong between the first two neighbours that are not in order. -/
def firstViolation (rule : Rule) : List ImportDecl → Except Fault (Option Violation)
  | a :: b :: rest => do
    match ← pairViolation rule a b with
    | some v => .ok (some v)
    | none => firstViolation rule (b :: rest)
  | _ => .ok none

/-- Some specifier sorts after its successor. -/
def specifiersUnsorted (ignoreCase : Bool) : List Specifier → Bool
  | a :: b :: rest =>
    compareSpecifiers ignoreCase a b == .gt || specifiersUnsorted ignoreCase (b :: rest)
  | _ => false

/-- The braced list of an import is not sorted. -/
def ImportDecl.unsorted (d : ImportDecl) (ignoreCase : Bool) : Bool :=
  specifiersUnsorted ignoreCase d.named

end ImportOrder

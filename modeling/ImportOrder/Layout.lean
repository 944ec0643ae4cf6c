import ImportOrder.Rule
import ImportOrder.Run
import ImportOrder.Fix

/-!
# Laying out a run anew

The fix for a run that is out of order replaces the whole run:

* `desiredOrder` sorts the imports into one bucket for each category, in the order of
  the categories, and sorts each bucket by path; imports that compare equal keep their
  order;
* `renderBuckets` writes the imports as they stand in the text, one below the other,
  with a blank line between buckets if the rule asks for one.

The fix for a braced list that is not sorted puts the specifiers, as they stand in the
text, into sorted order and leaves the text between them where it is.
-/

namespace ImportOrder

/-- The imports of a run in the order they should have, one bucket for each category. -/
def desiredOrder (rule : Rule) (ds : List ImportDecl) : List (List ImportDecl) :=
  rule.sortOrder.categories.map fun c =>
    (ds.filter (·.category = c)).mergeSort fun a b => comparePaths rule.ignoreCase a b != .gt

/-- The texts of imports, one below the other. -/
def renderBucket (text : String) (ds : List ImportDecl) : Except Fault String := do
  let pieces ← ds.mapM (·.span.slice text)
  .ok ("\n".intercalate pieces)

/-- The text of buckets of imports. -/
def renderBuckets (text : String) (blankLine : Bool) (buckets : List (List ImportDecl)) :
    Except Fault String := do
  let pieces ← (buckets.filter (!·.isEmpty)).mapM (renderBucket text)
  .ok ((if blankLine then "\n\n" else "\n").intercalate pieces)

/-- Replace a run by its imports in the desired order. -/
def runFix (text : String) (rule : Rule) (r : Run) : Except Fault Fix := do
  let span ← r.span
  let replacement ← renderBuckets text rule.enforceBlankLine (desiredOrder rule r.imports)
  .ok ⟨span, replacement⟩

/-- The texts between neighbouring specifiers. -/
def separators (text : String) : List Specifier → Except Fault (List String)
  | a :: b :: rest => do
    let gap ← Span.slice ⟨a.span.stop, b.span.start⟩ text
    let gaps ← separators text (b :: rest)
    .ok (gap :: gaps)
  | _ => .ok []

/-- Pieces with a separator after each of them but the last. -/
def interleave : List String → List String → String
  | p :: ps, s :: ss => p ++ s ++ interleave ps ss
  | ps, _ => String.join ps

/-- Replace the braced list of an import by the same list in sorted order. An import
without such a list has nothing to sort. -/
def specifierFix (text : String) (ignoreCase : Bool) (d : ImportDecl) : Except Fault (Option Fix) :=
  match d.named with
  | [] => .ok none
  | first :: rest => do
    let listed := first :: rest
    let gaps ← separators text listed
    let sorted := listed.mergeSort fun a b => compareSpecifiers ignoreCase a b != .gt
    let pieces ← sorted.mapM (·.span.slice text)
    let span ← Span.make first.span.start (listed.getLast (List.cons_ne_nil _ _)).span.stop
    .ok (some ⟨span, interleave pieces gaps⟩)

end ImportOrder

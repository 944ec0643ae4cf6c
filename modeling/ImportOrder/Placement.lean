import ImportOrder.Statement
import ImportOrder.Fix

/-!
# Imports below other statements

An import that comes after some other statement is misplaced. Its fix lifts it to just
before the first statement that is not an import: the import with a line break after it
goes there, and the text that was between the two places follows.
-/

namespace ImportOrder

/-- An import that comes too late, with the fix that lifts it. -/
structure Misplaced where
  /-- the import -/
  decl : ImportDecl
  /-- lifts it above the first other statement -/
  fix : Fix
deriving DecidableEq, Repr

/-- The statements from the first one on that is not an import. -/
def fromFirstOther (ss : List Statement) : List Statement := ss.dropWhile Statement.isImport

/-- The fix that lifts an import to the offset `target`. -/
def liftFix (text : String) (target : Nat) (d : ImportDecl) : Except Fault Fix := do
  let moved ← d.span.slice text
  let passed ← Span.slice ⟨target, d.span.start⟩ text
  let span ← Span.make target d.span.stop
  .ok ⟨span, moved ++ "\n" ++ passed⟩

/-- The misplaced imports, in order. -/
def misplacedImports (text : String) (ss : List Statement) : Except Fault (List Misplaced) :=
  match fromFirstOther ss with
  | [] => .ok []
  | other :: rest =>
    (rest.filterMap Statement.decl?).mapM fun d => do
      let fix ← liftFix text other.span.start d
      .ok ⟨d, fix⟩

end ImportOrder

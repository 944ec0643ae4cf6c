import ImportOrder.Run
import ImportOrder.Fix

/-!
# The blank line after a run

The statement after a run should start at least two lines below the end of the
last import. If it does not, the fix puts the missing line breaks right after that import, in
place of the blanks that stand there: two breaks if the statement is on the same line,
one if it is on the next.
-/

namespace ImportOrder

/-- Blanks that the fix swallows. -/
def isPadding (c : Char) : Bool := c == ' ' || c == '\t'

/-- The fix that adds the missing blank line after a run, if one is missing. -/
def trailingFix (text : String) (ss : List Statement) (r : Run) : Except Fault (Option Fix) :=
  match ss[r.lastIndex + 1]? with
  | none => .ok none
  | some following => do
    let last := r.last
    let adjoining ← nextLine last.endLine
    if following.startLine > adjoining then .ok none
    else
      let breaks := if following.startLine ≤ last.endLine then "\n\n" else "\n"
      let gap ← Span.between last.span.stop following.span.start text.toList
      let padding := (gap.takeWhile isPadding).length
      let span ← Span.make last.span.stop (last.span.stop + padding)
      .ok (some ⟨span, breaks⟩)

end ImportOrder

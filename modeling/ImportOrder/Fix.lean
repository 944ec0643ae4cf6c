import ImportOrder.Text.Span

/-!
# Fixes

A fix replaces the text under one span. Several fixes are applied to one text together,
so their spans all refer to the text before any of them:

* the fixes are taken in order of their spans, and two neighbours that overlap are a
  *conflict*, which is reported before the text is looked at;
* otherwise the pieces of the text between the spans are kept and every span is
  replaced.
-/

namespace ImportOrder

/-- The replacement of the text under a span. -/
structure Fix where
  /-- what is replaced -/
  span : Span
  /-- what is put there -/
  replacement : String
deriving DecidableEq, Repr, Inhabited

/-- Two spans that cannot both be replaced, the earlier one first. -/
structure Conflict where
  /-- the span that comes first -/
  first : Span
  /-- the span that overlaps it -/
  second : Span
deriving DecidableEq, Repr

namespace Fix

/-- The order in which fixes are applied: by start, then by end. -/
def before (a b : Fix) : Bool :=
  a.span.start < b.span.start || (a.span.start == b.span.start && a.span.stop ≤ b.span.stop)

/-- The fixes in the order in which they are applied; equals keep their places. -/
def inOrder (fixes : List Fix) : List Fix := fixes.mergeSort before

/-- The first two neighbours that overlap. -/
def firstConflict : List Fix → Option Conflict
  | a :: b :: rest =>
    if a.span.overlaps b.span then some ⟨a.span, b.span⟩ else firstConflict (b :: rest)
  | _ => none

/-- The text from the offset `cursor` on, with the fixes applied one after another. -/
def splice (text : List Char) (cursor : Nat) : List Fix → Except Fault (List Char)
  | [] => Span.between cursor (byteLength text) text
  | f :: rest => do
    let kept ← Span.between cursor f.span.start text
    let tail ← splice text f.span.stop rest
    .ok (kept ++ f.replacement.toList ++ tail)

/-- Apply several fixes to one text. -/
def applyAll (text : String) (fixes : List Fix) : Except (Halt Conflict) String :=
  let ordered := inOrder fixes
  match firstConflict ordered with
  | some c => .error (.error c)
  | none => match splice text.toList 0 ordered with
    | .ok chars => .ok (String.ofList chars)
    | .error f => .error (.fault f)

end Fix

end ImportOrder

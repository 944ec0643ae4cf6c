import ImportOrder.Fault
import ImportOrder.Text.Cut

/-!
# Spans

A span is a stretch of a text between two byte offsets. Spans come from outside, so
nothing is assumed of them: `start` may even lie after `stop`. The operations that need
the proper order check it and answer with a fault otherwise.

* `Span.make`, `Span.cover` — form a span, checking its order;
* `Span.overlaps` — do two spans share ground? An empty span, which stands for an
  insertion point, overlaps another one only strictly inside it, or at the very same
  point if both are empty;
* `Span.slice` — the text under the span.
-/

namespace ImportOrder

/-- A stretch of a text, from the byte offset `start` up to the byte offset `stop`. -/
structure Span where
  /-- the offset of the first byte -/
  start : Nat
  /-- the offset after the last byte -/
  stop : Nat
deriving DecidableEq, Repr, Inhabited

namespace Span

/-- The span between two offsets, which have to be in order. -/
def make (start stop : Nat) : Except Fault Span :=
  if start ≤ stop then .ok ⟨start, stop⟩ else .error (.invertedSpan start stop)

/-- The insertion point at an offset. -/
def emptyAt (offset : Nat) : Span := ⟨offset, offset⟩

/-- The number of bytes under the span. -/
def length (s : Span) : Except Fault Nat :=
  if s.start ≤ s.stop then .ok (s.stop - s.start) else .error (.invertedSpan s.start s.stop)

/-- Nothing lies under the span. -/
def isEmpty (s : Span) : Bool := s.start == s.stop

/-- The least span around two spans. -/
def cover (a b : Span) : Except Fault Span :=
  make (min a.start b.start) (max a.stop b.stop)

/-- The two spans have common ground. -/
def overlaps (a b : Span) : Bool :=
  if a.isEmpty && b.isEmpty then a.start == b.start
  else if a.isEmpty then b.start < a.start && a.start < b.stop
  else if b.isEmpty then a.start < b.start && b.start < a.stop
  else a.start < b.stop && b.start < a.stop

/-- The text between two offsets, as characters. -/
def between (start stop : Nat) (text : List Char) : Except Fault (List Char) :=
  match between? start stop text with
  | some piece => .ok piece
  | none => .error (.badSlice start stop)

/-- The text under the span. -/
def slice (s : Span) (text : String) : Except Fault String :=
  (between s.start s.stop text.toList).map String.ofList

/-- A span is written as its two offsets with two full stops between them. -/
instance : ToString Span where
  toString s := s!"{s.start}..{s.stop}"

end Span

end ImportOrder

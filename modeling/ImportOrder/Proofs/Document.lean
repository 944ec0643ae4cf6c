import ImportOrder.Statement
import ImportOrder.Proofs.Boundary
import Mathlib.Tactic.MkIffOfInductiveProp

/-!
# Modules in document order

What a parser delivers for a text is *document-ordered*: the statements stand in the
text one after another, none of them empty, and so do the specifiers of each import
inside it. The lines of a statement are *counted* if they say how many line breaks come
before its ends. Both can be decided.

Spans that stand one after another are *laid out*, and they are *in line* if none of
them is empty.
-/

namespace ImportOrder

/-! ## Spans one after another -/

/-- Spans stand in a text one after another inside an outer span. They may be empty. -/
@[mk_iff]
structure LaidOut (text : List Char) (outer : Span) (spans : List Span) : Prop where
  /-- each ends where it starts or later -/
  ordered : ∀ s ∈ spans, s.start ≤ s.stop
  /-- each lies inside the outer span -/
  inside : ∀ s ∈ spans, outer.start ≤ s.start ∧ s.stop ≤ outer.stop
  /-- the text can be cut at their ends -/
  cuts : ∀ s ∈ spans, IsBoundary text s.start ∧ IsBoundary text s.stop
  /-- each ends before the later ones start -/
  apart : spans.Pairwise fun a b => a.stop ≤ b.start

instance (text : List Char) (outer : Span) (spans : List Span) :
    Decidable (LaidOut text outer spans) :=
  decidable_of_iff _ (laidOut_iff text outer spans).symm

namespace LaidOut

variable {text : List Char} {outer : Span} {spans : List Span}

theorem nil (outer : Span) : LaidOut text outer [] := ⟨nofun, nofun, nofun, .nil⟩

theorem single {s : Span} (hordered : s.start ≤ s.stop)
    (hcuts : IsBoundary text s.start ∧ IsBoundary text s.stop) :
    LaidOut text s [s] :=
  ⟨List.forall_mem_singleton.2 hordered, List.forall_mem_singleton.2 ⟨Nat.le_refl _, Nat.le_refl _⟩,
    List.forall_mem_singleton.2 hcuts, List.pairwise_singleton ..⟩

/-- Leaving out spans leaves the others laid out. -/
theorem sublist {some : List Span} (h : LaidOut text outer spans) (hsub : some.Sublist spans) :
    LaidOut text outer some :=
  ⟨fun s hs => h.ordered s (hsub.mem hs), fun s hs => h.inside s (hsub.mem hs),
    fun s hs => h.cuts s (hsub.mem hs), h.apart.sublist hsub⟩

theorem tail {s : Span} (h : LaidOut text outer (s :: spans)) : LaidOut text outer spans :=
  h.sublist (List.sublist_cons_self s spans)

/-- Spans laid out in a span are so in any wider one. -/
theorem within {inner : Span} (h : LaidOut text inner spans) (hstart : outer.start ≤ inner.start)
    (hstop : inner.stop ≤ outer.stop) : LaidOut text outer spans := by
  refine ⟨h.ordered, ?_, h.cuts, h.apart⟩
  intro s hs
  have hinside := h.inside s hs
  omega

/-- Two rows of spans, the second where the first ends. -/
theorem append {i mid j : Nat} {xs ys : List Span} (hx : LaidOut text ⟨i, mid⟩ xs)
    (hy : LaidOut text ⟨mid, j⟩ ys) (hlo : i ≤ mid) (hhi : mid ≤ j) :
    LaidOut text ⟨i, j⟩ (xs ++ ys) := by
  have hx' : LaidOut text ⟨i, j⟩ xs := hx.within (Nat.le_refl _) hhi
  have hy' : LaidOut text ⟨i, j⟩ ys := hy.within hlo (Nat.le_refl _)
  refine ⟨List.forall_mem_append.2 ⟨hx'.ordered, hy'.ordered⟩,
    List.forall_mem_append.2 ⟨hx'.inside, hy'.inside⟩,
    List.forall_mem_append.2 ⟨hx'.cuts, hy'.cuts⟩,
    List.pairwise_append.2 ⟨hx'.apart, hy'.apart, ?_⟩⟩
  intro s hs t ht
  exact Nat.le_trans (hx.inside s hs).2 (hy.inside t ht).1

/-- The first span starts before the last one ends. -/
theorem start_le_stop {first last : Span} (h : LaidOut text outer (first :: spans))
    (hlast : last ∈ first :: spans) : first.start ≤ last.stop := by
  have hfirst := h.ordered first List.mem_cons_self
  rcases List.mem_cons.1 hlast with rfl | hin
  · exact hfirst
  · have hapart : first.stop ≤ last.start := List.rel_of_pairwise_cons h.apart hin
    have hordered := h.ordered last hlast
    omega

end LaidOut

/-- Spans stand in a text one after another inside an outer span, and none of them is
empty. -/
structure InLine (text : List Char) (outer : Span) (spans : List Span) : Prop where
  /-- none is empty -/
  proper : ∀ s ∈ spans, s.start < s.stop
  /-- each lies inside the outer span -/
  inside : ∀ s ∈ spans, outer.start ≤ s.start ∧ s.stop ≤ outer.stop
  /-- the text can be cut at their ends -/
  cuts : ∀ s ∈ spans, IsBoundary text s.start ∧ IsBoundary text s.stop
  /-- each ends before the later ones start -/
  apart : spans.Pairwise fun a b => a.stop ≤ b.start

/-- Spans are in a row if none is empty, they lie inside, end at boundaries, and each
ends before the next one starts. -/
theorem inLine_iff {text : List Char} {outer : Span} {spans : List Span} : InLine text outer spans ↔
    (∀ s ∈ spans, s.start < s.stop) ∧ (∀ s ∈ spans, outer.start ≤ s.start ∧ s.stop ≤ outer.stop) ∧
    (∀ s ∈ spans, IsBoundary text s.start ∧ IsBoundary text s.stop) ∧
    spans.Pairwise fun a b => a.stop ≤ b.start :=
  ⟨fun h => ⟨h.proper, h.inside, h.cuts, h.apart⟩, fun ⟨h₁, h₂, h₃, h₄⟩ => ⟨h₁, h₂, h₃, h₄⟩⟩

instance (text : List Char) (outer : Span) (spans : List Span) :
    Decidable (InLine text outer spans) :=
  decidable_of_iff _ inLine_iff.symm

theorem inLine_iff_laidOut {text : List Char} {outer : Span} {spans : List Span} :
    InLine text outer spans ↔ LaidOut text outer spans ∧ ∀ s ∈ spans, s.start < s.stop :=
  ⟨fun h => ⟨⟨fun s hs => Nat.le_of_lt (h.proper s hs), h.inside, h.cuts, h.apart⟩, h.proper⟩,
    fun ⟨h, hproper⟩ => ⟨hproper, h.inside, h.cuts, h.apart⟩⟩

theorem InLine.laidOut {text : List Char} {outer : Span} {spans : List Span}
    (h : InLine text outer spans) :
    LaidOut text outer spans := (inLine_iff_laidOut.1 h).1

theorem InLine.sublist {text : List Char} {outer : Span} {spans some : List Span}
    (h : InLine text outer spans) (hsub : some.Sublist spans) : InLine text outer some :=
  ⟨fun s hs => h.proper s (hsub.mem hs), fun s hs => h.inside s (hsub.mem hs),
    fun s hs => h.cuts s (hsub.mem hs), h.apart.sublist hsub⟩

theorem InLine.tail {text : List Char} {outer s : Span} {spans : List Span}
    (h : InLine text outer (s :: spans)) : InLine text outer spans :=
  h.sublist (List.sublist_cons_self s spans)

/-- The text as a whole. -/
def wholeSpan (text : List Char) : Span := ⟨0, byteLength text⟩

/-- The statements stand in the text in their order, and so do the specifiers of
each import in it. -/
structure DocumentOrdered (text : String) (ss : List Statement) : Prop where
  /-- the statements stand one after another -/
  statements : InLine text.toList (wholeSpan text.toList) (ss.map Statement.span)
  /-- the specifiers stand one after another inside their import -/
  specifiers : ∀ d ∈ ss.filterMap Statement.decl?,
    InLine text.toList d.span (d.specifiers.map Specifier.span)

/-- A module is in the order of its text exactly if its statements are in a row in it,
and the specifiers of each import in a row in the import. -/
theorem documentOrdered_iff {text : String} {ss : List Statement} : DocumentOrdered text ss ↔
    InLine text.toList (wholeSpan text.toList) (ss.map Statement.span) ∧
    ∀ d ∈ ss.filterMap Statement.decl?,
      InLine text.toList d.span (d.specifiers.map Specifier.span) :=
  ⟨fun h => ⟨h.statements, h.specifiers⟩, fun ⟨h₁, h₂⟩ => ⟨h₁, h₂⟩⟩

instance (text : String) (ss : List Statement) : Decidable (DocumentOrdered text ss) :=
  decidable_of_iff _ documentOrdered_iff.symm

/-! ## Lines -/

/-- The number of line breaks in a text. -/
def lineBreaks (cs : List Char) : Nat := cs.count '\n'

@[simp] theorem lineBreaks_nil : lineBreaks [] = 0 := rfl

@[simp] theorem lineBreaks_append (a b : List Char) :
    lineBreaks (a ++ b) = lineBreaks a + lineBreaks b :=
  List.count_append

/-- The piece of a text between two offsets; there is none where the text cannot be
cut. -/
def sliceOf (text : List Char) (i j : Nat) : List Char := (between? i j text).getD []

/-- The middle of three texts lies between their joints. -/
theorem sliceOf_append (a m b : List Char) :
    sliceOf (a ++ m ++ b) (byteLength a) (byteLength a + byteLength m) = m := by
  rw [sliceOf, between?_eq_some_iff.2 ⟨a, b, rfl, rfl, rfl⟩]
  rfl

/-- The line of an offset, counted from one. -/
def lineAt (text : List Char) (n : Nat) : Nat := 1 + lineBreaks (sliceOf text 0 n)

/-- The line at an offset is one more than the number of line breaks before it. -/
theorem lineAt_append (a b : List Char) : lineAt (a ++ b) (byteLength a) = 1 + lineBreaks a := by
  have h := sliceOf_append [] a b
  simp only [List.nil_append, byteLength_nil, Nat.zero_add] at h
  rw [lineAt, h]

/-- The lines of the statements are those of their ends. -/
def Counted (text : String) (ss : List Statement) : Prop :=
  ∀ s ∈ ss, s.startLine = lineAt text.toList s.span.start ∧
    s.endLine = lineAt text.toList s.span.stop

instance (text : String) (ss : List Statement) : Decidable (Counted text ss) :=
  inferInstanceAs (Decidable (∀ s ∈ ss, _))

/-- Nothing but entries of the braced list stands between entries of the braced list. -/
def NamedTogether (d : ImportDecl) : Prop :=
  ∀ s ∈ (d.specifiers.dropWhile (·.kind ≠ .named)).dropWhile (·.kind = .named), s.kind ≠ .named

instance (d : ImportDecl) : Decidable (NamedTogether d) := inferInstanceAs (Decidable (∀ s ∈ _, _))

/-- The number of lines of a text. -/
def lineCount (text : String) : Nat := 1 + lineBreaks text.toList

/-- The number of imports after the first other statement. -/
def lateCount (ss : List Statement) : Nat :=
  ((ss.dropWhile Statement.isImport).filter Statement.isImport).length

end ImportOrder

import ImportOrder.Fix
import ImportOrder.Proofs.Boundary
import Mathlib.Data.List.Pairwise
import Mathlib.Tactic.SplitIfs
import Mathlib.Tactic.ByContra

/-!
# Fixes that can be applied together

Fixes are applied in the order of their spans, and only neighbours are compared. That is
enough:

* spans with their ends in order that are *clear* of each other follow one another, so
  that nothing between two neighbours is cut twice (`stop_le_start_of_clear`);
* so fixes that fit the text and are pairwise clear have no conflict and can all be
  applied, in whatever order they are handed over (`applyAll_of_clear`).
-/

namespace ImportOrder

/-! ## Overlapping spans -/

namespace Span

/-- A span is given by its ends. -/
theorem eq_of_ends {a b : Span} (hstart : a.start = b.start) (hstop : a.stop = b.stop) : a = b :=
  congrArg₂ Span.mk hstart hstop

/-- **When two spans overlap**: two points where they coincide, a point and a stretch
where the point lies strictly inside, two stretches where each starts before the other
ends. -/
theorem overlaps_iff {a b : Span} : a.overlaps b = true ↔
    if a.start = a.stop ∧ b.start = b.stop then a.start = b.start
    else if a.start = a.stop then b.start < a.start ∧ a.start < b.stop
    else if b.start = b.stop then a.start < b.start ∧ b.start < a.stop
    else a.start < b.stop ∧ b.start < a.stop := by
  simp only [overlaps, isEmpty, Bool.and_eq_true, beq_iff_eq]
  split_ifs <;> simp

theorem overlaps_comm (a b : Span) : a.overlaps b = b.overlaps a := by
  rw [Bool.eq_iff_iff, overlaps_iff, overlaps_iff]
  split_ifs <;> omega

/-- A span that ends before another one starts is clear of it, unless both are the same
point. -/
theorem clear_of_stop_le {a b : Span} (hab : a.stop ≤ b.start) (hne : a.start < b.stop) :
    a.overlaps b = false := by
  rw [← Bool.not_eq_true, overlaps_iff]
  split_ifs <;> omega

/-- A stretch overlaps every span around it. -/
theorem overlaps_of_within {a b : Span} (hb : b.start < b.stop) (hstart : a.start ≤ b.start)
    (hstop : b.stop ≤ a.stop) : a.overlaps b = true := by
  rw [overlaps_iff]
  split_ifs <;> omega

/-- A span with its ends in order overlaps itself. -/
theorem overlaps_self {a : Span} (ha : a.start ≤ a.stop) : a.overlaps a = true := by
  rw [overlaps_iff]
  split_ifs <;> omega

end Span

namespace Fix

/-- The span of the fix has its ends in order, and the text can be cut at both. -/
structure Fits (text : List Char) (f : Fix) : Prop where
  /-- the span does not end before it starts -/
  ordered : f.span.start ≤ f.span.stop
  /-- the text can be cut where the span starts -/
  start : IsBoundary text f.span.start
  /-- the text can be cut where the span ends -/
  stop : IsBoundary text f.span.stop

/-- The two fixes do not touch common ground. -/
def Clear (a b : Fix) : Prop := a.span.overlaps b.span = false

theorem Clear.symm {a b : Fix} (h : Clear a b) : Clear b a := by
  rw [Clear, Span.overlaps_comm]
  exact h

instance : Std.Symm Clear := ⟨fun _ _ => Clear.symm⟩

/-! ## The order of application -/

/-- Fixes are ordered by where they start, and then by where they stop. -/
theorem before_iff {a b : Fix} : a.before b = true ↔
    a.span.start < b.span.start ∨ a.span.start = b.span.start ∧ a.span.stop ≤ b.span.stop := by
  simp [before]

theorem before_trans (a b c : Fix) (hab : a.before b = true) (hbc : b.before c = true) :
    a.before c = true := by
  rw [before_iff] at *
  omega

theorem before_total (a b : Fix) : (a.before b || b.before a) = true := by
  rw [Bool.or_eq_true, before_iff, before_iff]
  omega

/-- Fixes of which each comes before the other are fixes of one span. -/
theorem span_eq_of_before {a b : Fix} (hab : a.before b = true) (hba : b.before a = true) :
    a.span = b.span := by
  rw [before_iff] at hab hba
  exact Span.eq_of_ends (by omega) (by omega)

theorem inOrder_pairwise (fixes : List Fix) :
    (inOrder fixes).Pairwise fun a b => a.before b = true :=
  List.pairwise_mergeSort before_trans before_total fixes

theorem inOrder_perm (fixes : List Fix) : (inOrder fixes).Perm fixes :=
  List.mergeSort_perm fixes before

/-- **Clear neighbours follow one another.** Of two clear fixes the one that comes first
ends before the other one starts. -/
theorem stop_le_start_of_clear {a b : Fix} (ha : a.span.start ≤ a.span.stop)
    (hb : b.span.start ≤ b.span.stop) (hab : a.before b = true) (hclear : Clear a b) :
    a.span.stop ≤ b.span.start := by
  rw [before_iff] at hab
  by_contra hlt
  have hover : a.span.overlaps b.span = true := by
    rw [Span.overlaps_iff]
    split_ifs <;> omega
  rw [Clear, hover] at hclear
  cases hclear

/-- Fixes that are clear of each other are in no conflict. -/
theorem firstConflict_eq_none {fixes : List Fix} (h : fixes.Pairwise Clear) :
    firstConflict fixes = none := by
  induction fixes with
  | nil => rfl
  | cons a rest ih =>
    cases rest with
    | nil => rfl
    | cons b rest =>
      have hab : a.span.overlaps b.span = false := List.rel_of_pairwise_cons h List.mem_cons_self
      rw [firstConflict, hab]
      exact ih h.of_cons

/-! ## Applying -/

/-- Fixes that follow one another can be applied from any boundary before the first of
them. -/
theorem exists_splice {text : List Char} {cursor : Nat} {fixes : List Fix}
    (hcursor : IsBoundary text cursor) (hfits : ∀ f ∈ fixes, f.Fits text)
    (hfirst : ∀ f ∈ fixes, cursor ≤ f.span.start)
    (hchain : fixes.Pairwise fun a b => a.span.stop ≤ b.span.start) :
    ∃ out, splice text cursor fixes = .ok out := by
  induction fixes generalizing cursor with
  | nil =>
    obtain ⟨m, hm⟩ := exists_between? hcursor (isBoundary_end text) hcursor.le
    exact ⟨m, Span.between_eq_ok_iff.2 hm⟩
  | cons f rest ih =>
    have hf := hfits f List.mem_cons_self
    obtain ⟨m, hm⟩ := exists_between? hcursor hf.start (hfirst f List.mem_cons_self)
    obtain ⟨tail, htail⟩ := ih hf.stop (fun g hg => hfits g (List.mem_cons_of_mem _ hg))
      (fun g hg => List.rel_of_pairwise_cons hchain hg) hchain.of_cons
    refine ⟨m ++ f.replacement.toList ++ tail, ?_⟩
    rw [splice, bind_ok (Span.between_eq_ok_iff.2 hm), bind_ok htail]

/-- There is one order in which clear fixes can be applied. If two fixes could both come
first, their spans would be equal, and clear fixes have different spans. -/
theorem eq_inOrder {fixes sorted : List Fix} (hordered : ∀ f ∈ fixes, f.span.start ≤ f.span.stop)
    (hclear : fixes.Pairwise Clear) (hperm : sorted.Perm fixes)
    (hsorted : sorted.Pairwise fun a b => a.before b = true) : sorted = inOrder fixes := by
  refine (hperm.trans (inOrder_perm fixes).symm).eq_of_pairwise ?_ hsorted (inOrder_pairwise fixes)
  intro a b ha hb hab hba
  have ha : a ∈ fixes := hperm.mem_iff.1 ha
  have hb : b ∈ fixes := (inOrder_perm fixes).mem_iff.1 hb
  have hspan : a.span = b.span := span_eq_of_before hab hba
  by_contra hne
  have hab : Clear a b := hclear.forall ha hb hne
  rw [Clear, ← hspan, Span.overlaps_self (hordered a ha)] at hab
  cases hab

/-- The order of application of clear fixes does not depend on how they are listed. -/
theorem inOrder_eq_of_perm {fixes others : List Fix}
    (hordered : ∀ f ∈ fixes, f.span.start ≤ f.span.stop) (hclear : fixes.Pairwise Clear)
    (hperm : others.Perm fixes) : inOrder others = inOrder fixes :=
  eq_inOrder hordered hclear ((inOrder_perm others).trans hperm) (inOrder_pairwise others)

/-- Clear fixes follow one another in the order of application. -/
theorem inOrder_inRow {fixes : List Fix} (hordered : ∀ f ∈ fixes, f.span.start ≤ f.span.stop)
    (hclear : fixes.Pairwise Clear) :
    (inOrder fixes).Pairwise fun a b => a.span.stop ≤ b.span.start := by
  have hsorted : (inOrder fixes).Pairwise Clear :=
    (inOrder_perm fixes).symm.pairwise hclear Clear.symm
  have hmem : ∀ f ∈ inOrder fixes, f ∈ fixes := fun f => (inOrder_perm fixes).mem_iff.1
  refine List.Pairwise.imp_of_mem ?_ (List.Pairwise.and (inOrder_pairwise fixes) hsorted)
  intro a b ha hb hab
  exact stop_le_start_of_clear (hordered a (hmem a ha)) (hordered b (hmem b hb)) hab.1 hab.2

/-- **Clear fixes that fit are applied**, and the result does not depend on how they are
listed. -/
theorem applyAll_of_clear {text : String} {fixes : List Fix}
    (hfits : ∀ f ∈ fixes, f.Fits text.toList) (hclear : fixes.Pairwise Clear) :
    ∃ out, ∀ others : List Fix, others.Perm fixes → applyAll text others = .ok out := by
  have hsorted : (inOrder fixes).Pairwise Clear :=
    (inOrder_perm fixes).symm.pairwise hclear Clear.symm
  have hordered : ∀ f ∈ fixes, f.span.start ≤ f.span.stop := fun f hf => (hfits f hf).ordered
  obtain ⟨out, hout⟩ := exists_splice (isBoundary_zero text.toList)
    (fun f hf => hfits f ((inOrder_perm fixes).mem_iff.1 hf)) (fun f _ => Nat.zero_le _)
    (inOrder_inRow hordered hclear)
  refine ⟨String.ofList out, fun others hperm => ?_⟩
  rw [applyAll, inOrder_eq_of_perm hordered hclear hperm]
  simp only [firstConflict_eq_none hsorted, hout]

end Fix

end ImportOrder

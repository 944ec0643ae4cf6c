import ImportOrder.Proofs.Lifting
import ImportOrder.Proofs.TidySheet
import Mathlib.Algebra.Group.Nat.Defs

/-!
# One pass over a page

A pass checks a text and applies the fixes that the check offers. On a page it lifts the
first late import, or, if there is none, it makes all runs tidy. `check_pass` says that
the program does just that.
-/

namespace ImportOrder

/-- The page after the fixes that are kept for its runs. -/
def Page.tidy (rule : Rule) (p : Page) : Page := { p with sheet := p.sheet.tidy rule }

theorem Sheet.blocks_tidy_nil (rule : Rule) (final : List ImportBlock) :
    (Sheet.tidy rule ⟨[], final⟩).blocks = (tidyRun rule none final).map .imported := rfl

/-- Tidying a sheet tidies its first run, with a view to the statement after it, and
then the rest. -/
theorem Sheet.blocks_tidy_cons (rule : Rule) (s : Stanza) (rest : List Stanza)
    (final : List ImportBlock) :
    (Sheet.tidy rule ⟨s :: rest, final⟩).blocks =
      (tidyRun rule (some s.other) s.imports).map .imported ++
      .other s.other :: (Sheet.tidy rule ⟨rest, final⟩).blocks :=
  Sheet.blocks_cons (s.tidy rule) (rest.map (Stanza.tidy rule)) (tidyRun rule none final)

/-- The lines of a page that is cut from a module can be counted on from if those of the
module can. -/
theorem Page.inRange_cut {text : String} {ss : List Statement} (h : DocumentOrdered text ss)
    (hlines : ∀ s ∈ ss, s.startLine < 2 ^ 32 - 1 ∧ s.endLine < 2 ^ 32 - 1) :
    (Page.cut text ss).sheet.InRange := by
  obtain ⟨-, hstatements, -⟩ := Page.cut_spec h
  refine inRange_of_place (n := byteLength (Page.cut text ss).lead) fun s hs => ?_
  have := hlines s (hstatements ▸ hs)
  rw [lineBound]
  omega

/-- There are late imports, and the rule minds. -/
def Page.Late (rule : Rule) (p : Page) : Prop :=
  rule.importsAtStart = true ∧ lateBlocks p.sheet.blocks ≠ 0

instance (rule : Rule) (p : Page) : Decidable (p.Late rule) := inferInstanceAs (Decidable (_ ∧ _))

/-- The page after one pass. -/
def Page.pass (rule : Rule) (p : Page) : Page := if p.Late rule then p.lifted else p.tidy rule

/-- A page that is not late has no late imports in the sense of the program. -/
theorem lateImports_eq_nil {p : Page} {rule : Rule} (h : ¬ p.Late rule) :
    lateImports p.text rule p.statements = .ok [] := by
  rw [lateImports_eq_nil_iff]
  intro hrule
  rw [← List.length_eq_zero_iff, Page.statements, Sheet.place_eq, length_lateDecls]
  exact Nat.eq_zero_of_not_pos fun hpos => h ⟨hrule, Nat.ne_of_gt hpos⟩

/-- What a check reports of a page whose imports come first, or need not. -/
theorem check_tidy {p : Page} (hproper : p.Proper) (hrange : p.sheet.InRange) {rule : Rule}
    (h : ¬ p.Late rule) :
    check p.text rule p.statements = .ok (p.sheet.diagnostics rule (byteLength p.lead)) :=
  check_page hproper hrange (lateImports_eq_nil h)

/-- Fixes for a sheet are fixes for the page. -/
theorem applyAll_page {p : Page} {new : Sheet} {fixes : Nat → List Fix}
    (h : Rewrites p.sheet.chars new.chars fixes)
    (hclear : (fixes (byteLength p.lead)).Pairwise Fix.Clear) :
    Fix.applyAll p.text (fixes (byteLength p.lead)) =
      .ok ({ p with sheet := new } : Page).text := by
  have hscript := (Rewrites.keep p.lead).append h
  have happly := hscript.applyAll (by simpa only [List.nil_append, Nat.zero_add] using hclear)
  simp only [List.nil_append, Nat.zero_add] at happly
  exact happly

/-- **One pass.** A check of a page ends well, and so does applying the fixes that it
offers. -/
theorem check_pass {p : Page} (hproper : p.Proper) (hrange : p.sheet.InRange) (rule : Rule) :
    ∃ ds, check p.text rule p.statements = .ok ds ∧
      Fix.applyAll p.text (fixesOf ds) = .ok (p.pass rule).text := by
  unfold Page.pass
  split
  · next hlate =>
    obtain ⟨tops, passed, b, tail, hsplit⟩ := exists_lateSplit hlate.2
    obtain ⟨ds, fixes, hcheck, hfixes, hrewrites, -⟩ := check_lifted hproper hlate.1 hsplit
    have hclear := check_clear hcheck
    rw [hfixes] at hclear
    refine ⟨ds, hcheck, ?_⟩
    rw [hfixes]
    exact applyAll_page hrewrites hclear
  · next hlate =>
    have hcheck := check_tidy hproper hrange hlate
    exact ⟨_, hcheck, applyAll_page (p.sheet.rewrites_tidy hproper rule) (check_clear hcheck)⟩

end ImportOrder

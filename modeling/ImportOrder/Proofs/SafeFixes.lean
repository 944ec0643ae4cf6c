import ImportOrder.Check
import ImportOrder.Proofs.Edits
import Mathlib.Data.List.Perm.Subperm
import Mathlib.Data.List.TakeWhile

/-!
# The fixes of one check can be applied together

Nothing is assumed of the statements here: they may overlap, lie outside the text or be
listed in any order. If a check has a result at all, then

* every step that proposes a fix has cut the text at both ends of the span it proposes,
  so each finding *fits* the text (`Finding.Fits`, one lemma for each of the four kinds
  of finding);
* the fixes that are kept are clear of each other (`withhold_clear`).

Hence all kept fixes can be applied, in any order.
-/

namespace ImportOrder

/-! ## Every category has its place -/

/-- A sort order lists all categories. -/
theorem SortOrder.categories_perm (o : SortOrder) : o.categories.Perm Category.all := by
  have hsub : o.categories.Subperm Category.all :=
    List.subperm_of_subset o.nodup fun c _ => Category.mem_all c
  exact hsub.perm_of_length_le (by rw [o.length_eq]; exact Nat.le_refl 3)

/-- Every category has its place in an order, since an order is made so. -/
theorem SortOrder.mem_categories (o : SortOrder) (c : Category) : c ∈ o.categories :=
  o.categories_perm.mem_iff.2 (Category.mem_all c)

/-- No import gets lost between the buckets. -/
theorem exists_bucket (rule : Rule) {ds : List ImportDecl} {d : ImportDecl} (hd : d ∈ ds) :
    ∃ bucket ∈ desiredOrder rule ds, d ∈ bucket := by
  refine ⟨_, List.mem_map.2 ⟨d.category, rule.sortOrder.mem_categories d.category, rfl⟩, ?_⟩
  rw [List.mem_mergeSort, List.mem_filter]
  exact ⟨hd, decide_eq_true rfl⟩

/-! ## Every proposed fix fits -/

/-- The imports of buckets that can be written down all lie in the text. -/
theorem slice_of_renderBuckets {text : String} {blank : Bool} {buckets : List (List ImportDecl)}
    {out : String} (h : renderBuckets text blank buckets = .ok out) {bucket : List ImportDecl}
    (hb : bucket ∈ buckets) {d : ImportDecl} (hd : d ∈ bucket) :
    ∃ piece, d.span.slice text = .ok piece := by
  obtain ⟨pieces, hpieces, -⟩ := ok_of_bind h
  have hne : bucket ∈ buckets.filter (!·.isEmpty) := by
    rw [List.mem_filter]
    refine ⟨hb, ?_⟩
    cases bucket with
    | nil => cases hd
    | cons _ _ => rfl
  obtain ⟨shown, -, hshown⟩ := ok_of_mapM hpieces bucket hne
  obtain ⟨slices, hslices, -⟩ := ok_of_bind hshown
  obtain ⟨piece, -, hpiece⟩ := ok_of_mapM hslices d hd
  exact ⟨piece, hpiece⟩

/-- The fix for a run goes from the lesser start to the greater stop, and the texts of
all imports could be cut out, so both are boundaries. -/
theorem runFix_fits {text : String} {rule : Rule} {r : Run} {f : Fix}
    (h : runFix text rule r = .ok f) : f.Fits text.toList := by
  obtain ⟨span, hspan, h⟩ := ok_of_bind h
  obtain ⟨out, hout, h⟩ := ok_of_bind h
  obtain rfl := Except.ok.inj h
  obtain ⟨rfl, hordered⟩ := Span.eq_of_make hspan
  have hcut : ∀ d ∈ r.imports, IsBoundary text.toList d.span.start ∧
      IsBoundary text.toList d.span.stop := by
    intro d hd
    obtain ⟨bucket, hb, hdb⟩ := exists_bucket rule hd
    obtain ⟨piece, hpiece⟩ := slice_of_renderBuckets hout hb hdb
    exact (Span.boundaries_of_slice hpiece).2
  have hhead := hcut r.head List.mem_cons_self
  have hlast := hcut r.last (List.getLast_mem _)
  refine ⟨hordered, ?_, ?_⟩
  · rcases Nat.le_total r.head.span.start r.last.span.start with hle | hle
    · simpa only [Nat.min_eq_left hle] using hhead.1
    · simpa only [Nat.min_eq_right hle] using hlast.1
  · rcases Nat.le_total r.head.span.stop r.last.span.stop with hle | hle
    · simpa only [Nat.max_eq_right hle] using hlast.2
    · simpa only [Nat.max_eq_left hle] using hhead.2

/-- The fix for a braced list goes from the first entry to the last. -/
theorem specifierFix_fits {text : String} {ignoreCase : Bool} {d : ImportDecl} {f : Fix}
    (h : specifierFix text ignoreCase d = .ok (some f)) : f.Fits text.toList := by
  unfold specifierFix at h
  split at h
  · cases h
  · next first rest _ =>
    obtain ⟨gaps, -, h⟩ := ok_of_bind h
    obtain ⟨pieces, hpieces, h⟩ := ok_of_bind h
    obtain ⟨span, hspan, h⟩ := ok_of_bind h
    obtain rfl := Option.some.inj (Except.ok.inj h)
    obtain ⟨rfl, hordered⟩ := Span.eq_of_make hspan
    have hcut : ∀ s ∈ first :: rest,
        IsBoundary text.toList s.span.start ∧ IsBoundary text.toList s.span.stop := by
      intro s hs
      obtain ⟨piece, -, hpiece⟩ := ok_of_mapM hpieces s (List.mem_mergeSort.2 hs)
      exact (Span.boundaries_of_slice hpiece).2
    exact ⟨hordered, (hcut first List.mem_cons_self).1, (hcut _ (List.getLast_mem _)).2⟩

/-- The fix for a late import goes from the target to the end of the import. -/
theorem liftFix_fits {text : String} {target : Nat} {d : ImportDecl} {f : Fix}
    (h : liftFix text target d = .ok f) : f.Fits text.toList := by
  obtain ⟨moved, hmoved, h⟩ := ok_of_bind h
  obtain ⟨passed, hpassed, h⟩ := ok_of_bind h
  obtain ⟨span, hspan, h⟩ := ok_of_bind h
  obtain rfl := Except.ok.inj h
  obtain ⟨rfl, hordered⟩ := Span.eq_of_make hspan
  exact ⟨hordered, (Span.boundaries_of_slice hpassed).2.1, (Span.boundaries_of_slice hmoved).2.2⟩

/-- Padding takes one byte for each character. -/
theorem byteLength_padding {cs : List Char} (h : ∀ c ∈ cs, isPadding c = true) :
    byteLength cs = cs.length := by
  induction cs with
  | nil => rfl
  | cons c rest ih =>
    have hc : c.utf8Size = 1 := by
      have hpad := h c List.mem_cons_self
      rw [isPadding, Bool.or_eq_true, beq_iff_eq, beq_iff_eq] at hpad
      rcases hpad with rfl | rfl <;> rfl
    rw [byteLength, hc, ih fun x hx => h x (List.mem_cons_of_mem _ hx), List.length_cons,
      Nat.add_comm]

/-- The fix for a missing line replaces the padding after the run. The padding is the
front of the gap, so the text can be cut behind it. -/
theorem trailingFix_fits {text : String} {ss : List Statement} {r : Run} {f : Fix}
    (h : trailingFix text ss r = .ok (some f)) : f.Fits text.toList := by
  unfold trailingFix at h
  split at h
  · cases h
  · next following _ =>
    obtain ⟨adjoining, -, h⟩ := ok_of_bind h
    split at h
    · cases h
    · obtain ⟨gap, hgap, h⟩ := ok_of_bind h
      obtain ⟨span, hspan, h⟩ := ok_of_bind h
      obtain rfl := Option.some.inj (Except.ok.inj h)
      obtain ⟨rfl, hordered⟩ := Span.eq_of_make hspan
      refine ⟨hordered, (Span.boundaries_of_between hgap).2.1, ?_⟩
      obtain ⟨a, b, htext, hlen, -⟩ := between?_eq_some_iff.1 (Span.between_eq_ok_iff.1 hgap)
      refine ⟨a ++ gap.takeWhile isPadding, gap.dropWhile isPadding ++ b, ?_, ?_⟩
      · rw [htext, List.append_assoc a (gap.takeWhile isPadding), ← List.append_assoc _ _ b,
          List.takeWhile_append_dropWhile, List.append_assoc]
      · rw [byteLength_append, hlen, byteLength_padding fun c hc => List.mem_takeWhile_imp hc]

/-! ## A run's findings, part by part -/

/-- What is found at one import: its braced list, if that is not sorted. -/
def specifierFinding (text : String) (rule : Rule) (d : ImportDecl) : Except Fault (List Finding) :=
  if d.unsorted rule.ignoreCase then do
    let fix? ← specifierFix text rule.ignoreCase d
    .ok (fix?.toList.map fun fix => ⟨.specifierOrder, d, fix⟩)
  else .ok []

/-- What is found about the order of a run with a given first violation. -/
def orderFindings (text : String) (rule : Rule) (r : Run) :
    Option Violation → Except Fault (List Finding)
  | some cause => do
    let fix ← runFix text rule r
    .ok [⟨.importOrder cause, r.head, fix⟩]
  | none => .ok []

/-- What is found behind a run with a given first violation. -/
def trailingFindings (text : String) (rule : Rule) (ss : List Statement) (r : Run)
    (violation : Option Violation) : Except Fault (List Finding) :=
  if violation.isNone && rule.enforceTrailingLine then do
    let fix? ← trailingFix text ss r
    .ok (fix?.toList.map fun fix => ⟨.missingTrailingLine, r.last, fix⟩)
  else .ok []

/-- Lists are looked at one import after another, and the first fault ends it. -/
theorem specifierFindings_cons (text : String) (rule : Rule) (d : ImportDecl)
    (rest : List ImportDecl) :
    specifierFindings text rule (d :: rest) = (do
      let here ← specifierFinding text rule d
      let later ← specifierFindings text rule rest
      .ok (here ++ later)) := by
  rw [specifierFindings, specifierFinding]
  split
  · cases specifierFix text rule.ignoreCase d with
    | error e => rfl
    | ok fix? => cases fix? <;> rfl
  · rfl

/-- **A run is looked at in parts**: its order, its lists, and the line after it, which
is only looked at when the order is not violated. -/
theorem runFindings_eq (text : String) (rule : Rule) (ss : List Statement) (r : Run) :
    runFindings text rule ss r = (do
      let violation ← firstViolation rule r.imports
      let order ← orderFindings text rule r violation
      let specifiers ← specifierFindings text rule r.imports
      let trailing ← trailingFindings text rule ss r violation
      .ok (order ++ specifiers ++ trailing)) := by
  unfold runFindings orderFindings trailingFindings
  rcases firstViolation rule r.imports with e | _ | cause
  · rfl
  · rcases specifierFindings text rule r.imports with e | specifiers
    · rfl
    · rcases trailingFix text ss r with e | _ | fix <;> cases rule.enforceTrailingLine <;> rfl
  · rcases runFix text rule r with e | fix
    · rfl
    · rcases specifierFindings text rule r.imports with e | specifiers <;> rfl

/-- The fix of the finding fits the text. -/
def Finding.Fits (text : String) (f : Finding) : Prop := f.fix.Fits text.toList

theorem specifierFinding_fits {text : String} {rule : Rule} {d : ImportDecl} {found : List Finding}
    (h : specifierFinding text rule d = .ok found) : ∀ f ∈ found, f.Fits text := by
  unfold specifierFinding at h
  split at h
  · obtain ⟨fix?, hfix, h⟩ := ok_of_bind h
    obtain rfl := Except.ok.inj h
    intro f hf
    obtain ⟨fix, hmem, rfl⟩ := List.mem_map.1 hf
    obtain rfl := Option.mem_toList.1 hmem
    exact specifierFix_fits hfix
  · obtain rfl := Except.ok.inj h
    exact fun f hf => nomatch hf

theorem specifierFindings_fit {text : String} {rule : Rule} {ds : List ImportDecl}
    {found : List Finding} (h : specifierFindings text rule ds = .ok found) :
    ∀ f ∈ found, f.Fits text := by
  induction ds generalizing found with
  | nil =>
    obtain rfl := Except.ok.inj h
    exact fun f hf => nomatch hf
  | cons d rest ih =>
    rw [specifierFindings_cons] at h
    obtain ⟨here, hhere, h⟩ := ok_of_bind h
    obtain ⟨later, hlater, h⟩ := ok_of_bind h
    obtain rfl := Except.ok.inj h
    intro f hf
    rcases List.mem_append.1 hf with hf | hf
    · exact specifierFinding_fits hhere f hf
    · exact ih hlater f hf

theorem orderFindings_fit {text : String} {rule : Rule} {r : Run} {violation : Option Violation}
    {found : List Finding} (h : orderFindings text rule r violation = .ok found) :
    ∀ f ∈ found, f.Fits text := by
  cases violation with
  | none =>
    obtain rfl := Except.ok.inj h
    exact fun f hf => nomatch hf
  | some cause =>
    obtain ⟨fix, hfix, h⟩ := ok_of_bind h
    obtain rfl := Except.ok.inj h
    intro f hf
    obtain rfl := List.mem_singleton.1 hf
    exact runFix_fits hfix

theorem trailingFindings_fit {text : String} {rule : Rule} {ss : List Statement} {r : Run}
    {violation : Option Violation} {found : List Finding}
    (h : trailingFindings text rule ss r violation = .ok found) : ∀ f ∈ found, f.Fits text := by
  unfold trailingFindings at h
  split at h
  · obtain ⟨fix?, hfix, h⟩ := ok_of_bind h
    obtain rfl := Except.ok.inj h
    intro f hf
    obtain ⟨fix, hmem, rfl⟩ := List.mem_map.1 hf
    obtain rfl := Option.mem_toList.1 hmem
    exact trailingFix_fits hfix
  · obtain rfl := Except.ok.inj h
    exact fun f hf => nomatch hf

theorem runFindings_fit {text : String} {rule : Rule} {ss : List Statement} {r : Run}
    {found : List Finding} (h : runFindings text rule ss r = .ok found) :
    ∀ f ∈ found, f.Fits text := by
  rw [runFindings_eq] at h
  obtain ⟨violation, -, h⟩ := ok_of_bind h
  obtain ⟨order, horder, h⟩ := ok_of_bind h
  obtain ⟨specifiers, hspecifiers, h⟩ := ok_of_bind h
  obtain ⟨trailing, htrailing, h⟩ := ok_of_bind h
  obtain rfl := Except.ok.inj h
  intro f hf
  rcases List.mem_append.1 hf with hf | hf
  · rcases List.mem_append.1 hf with hf | hf
    · exact orderFindings_fit horder f hf
    · exact specifierFindings_fit hspecifiers f hf
  · exact trailingFindings_fit htrailing f hf

theorem allRunFindings_fit {text : String} {rule : Rule} {ss : List Statement} {rs : List Run}
    {found : List Finding} (h : allRunFindings text rule ss rs = .ok found) :
    ∀ f ∈ found, f.Fits text := by
  induction rs generalizing found with
  | nil =>
    obtain rfl := Except.ok.inj h
    exact fun f hf => nomatch hf
  | cons r rest ih =>
    rw [allRunFindings] at h
    obtain ⟨here, hhere, h⟩ := ok_of_bind h
    obtain ⟨later, hlater, h⟩ := ok_of_bind h
    obtain rfl := Except.ok.inj h
    intro f hf
    rcases List.mem_append.1 hf with hf | hf
    · exact runFindings_fit hhere f hf
    · exact ih hlater f hf

theorem misplacedImports_fit {text : String} {ss : List Statement} {late : List Misplaced}
    (h : misplacedImports text ss = .ok late) : ∀ m ∈ late, m.fix.Fits text.toList := by
  unfold misplacedImports at h
  split at h
  · obtain rfl := Except.ok.inj h
    exact fun m hm => nomatch hm
  · next other rest _ =>
    generalize rest.filterMap Statement.decl? = ds at h
    induction ds generalizing late with
    | nil =>
      obtain rfl := Except.ok.inj h
      exact fun m hm => nomatch hm
    | cons d ds ih =>
      rw [List.mapM_cons] at h
      obtain ⟨m, hm, h⟩ := ok_of_bind h
      obtain ⟨fix, hfix, hm⟩ := ok_of_bind hm
      obtain rfl := Except.ok.inj hm
      obtain ⟨more, hmore, h⟩ := ok_of_bind h
      obtain rfl := Except.ok.inj h
      intro m' hm'
      rcases List.mem_cons.1 hm' with rfl | hm'
      · exact liftFix_fits hfix
      · exact ih hmore m' hm'

/-- **Every finding fits.** What a check proposes starts and ends where the text can be
cut. -/
theorem findings_fit {text : String} {rule : Rule} {ss : List Statement} {found : List Finding}
    (h : findings text rule ss = .ok found) : ∀ f ∈ found, f.Fits text := by
  obtain ⟨late, hlate, h⟩ := ok_of_bind h
  split at h
  · exact allRunFindings_fit h
  · obtain rfl := Except.ok.inj h
    intro f hf
    obtain ⟨m, hm, rfl⟩ := List.mem_map.1 hf
    unfold lateImports at hlate
    split at hlate
    · exact misplacedImports_fit hlate m hm
    · obtain rfl := Except.ok.inj hlate
      cases hm

/-! ## The fixes that are kept -/

@[simp] theorem fixesOf_report_true (f : Finding) (ds : List Diagnostic) :
    fixesOf (f.report true :: ds) = f.fix :: fixesOf ds := rfl

@[simp] theorem fixesOf_report_false (f : Finding) (ds : List Diagnostic) :
    fixesOf (f.report false :: ds) = fixesOf ds := rfl

/-- What is kept is taken from what was found. -/
theorem fixesOf_withhold_sublist (taken : List Span) (found : List Finding) :
    (fixesOf (withhold taken found)).Sublist (found.map Finding.fix) := by
  induction found generalizing taken with
  | nil => exact List.Sublist.refl _
  | cons f rest ih =>
    rw [withhold, List.map_cons]
    split
    · rw [fixesOf_report_false]
      exact (ih taken).cons _
    · rw [fixesOf_report_true]
      exact (ih _).cons_cons _

/-- **Kept fixes are clear of each other**, and of the spans that were taken before. -/
theorem withhold_clear (taken : List Span) (found : List Finding) :
    (fixesOf (withhold taken found)).Pairwise Fix.Clear ∧
      ∀ f ∈ fixesOf (withhold taken found), ∀ s ∈ taken, s.overlaps f.span = false := by
  induction found generalizing taken with
  | nil => exact ⟨List.Pairwise.nil, fun f hf => nomatch hf⟩
  | cons f rest ih =>
    rw [withhold]
    split
    · rw [fixesOf_report_false]
      exact ih taken
    · next hfree =>
      rw [fixesOf_report_true]
      obtain ⟨hpairwise, hclear⟩ := ih (f.fix.span :: taken)
      refine ⟨List.Pairwise.cons (fun g hg => hclear g hg _ List.mem_cons_self) hpairwise, ?_⟩
      intro g hg s hs
      rcases List.mem_cons.1 hg with rfl | hg
      · rw [List.any_eq_true] at hfree
        exact Bool.eq_false_iff.2 fun hover => hfree ⟨s, hs, hover⟩
      · exact hclear g hg s (List.mem_cons_of_mem _ hs)

/-- The fixes that a check reports are clear of each other, because one that is in the
way of an earlier one is withheld. -/
theorem check_clear {text : String} {rule : Rule} {ss : List Statement} {ds : List Diagnostic}
    (h : check text rule ss = .ok ds) : (fixesOf ds).Pairwise Fix.Clear := by
  obtain ⟨found, -, h⟩ := ok_of_bind h
  obtain rfl := Except.ok.inj h
  exact (withhold_clear [] found).1

theorem check_fits {text : String} {rule : Rule} {ss : List Statement} {ds : List Diagnostic}
    (h : check text rule ss = .ok ds) : ∀ f ∈ fixesOf ds, f.Fits text.toList := by
  obtain ⟨found, hfound, h⟩ := ok_of_bind h
  obtain rfl := Except.ok.inj h
  intro f hf
  obtain ⟨g, hg, rfl⟩ := List.mem_map.1 ((fixesOf_withhold_sublist [] found).mem hf)
  exact findings_fit hfound g hg

/-- **A check proposes what can be done.** The fixes that one check offers are clear of
each other, and in whatever order they are handed over they can be applied to the text,
always with the same result. -/
theorem check_fixes_applicable {text : String} {rule : Rule} {ss : List Statement}
    {ds : List Diagnostic} (h : check text rule ss = .ok ds) :
    ((fixesOf ds).Pairwise fun a b => a.span.overlaps b.span = false ∧
      b.span.overlaps a.span = false) ∧
      ∃ out, ∀ fixes : List Fix, fixes.Perm (fixesOf ds) → Fix.applyAll text fixes = .ok out :=
  ⟨(check_clear h).imp fun hab => ⟨hab, Fix.Clear.symm hab⟩,
    Fix.applyAll_of_clear (check_fits h) (check_clear h)⟩

/-- Two runs that are listed in the wrong order each get their blank line. -/
theorem check_fixes_applicable_jumbled :
    let rule : Rule := { importsAtStart := false, enforceTrailingLine := true }
    let ss : List Statement := [
      .importDecl ⟨⟨4, 5⟩, 1, 1, none, "c", []⟩, .other "d" ⟨6, 7⟩ 1 1,
      .importDecl ⟨⟨0, 1⟩, 1, 1, none, "a", []⟩, .other "b" ⟨2, 3⟩ 1 1]
    let ds : List Diagnostic := [
      ⟨.missingTrailingLine, ⟨4, 5⟩, 1, some ⟨⟨5, 6⟩, "\n\n"⟩⟩,
      ⟨.missingTrailingLine, ⟨0, 1⟩, 1, some ⟨⟨1, 2⟩, "\n\n"⟩⟩]
    check "a b c d" rule ss = .ok ds ∧
      ((fixesOf ds).Pairwise fun a b => a.span.overlaps b.span = false ∧
        b.span.overlaps a.span = false) ∧
      ∃ out, ∀ fixes : List Fix, fixes.Perm (fixesOf ds) →
        Fix.applyAll "a b c d" fixes = .ok out := by
  intro rule ss ds
  have h : check "a b c d" rule ss = .ok ds := by decide +kernel
  exact ⟨h, check_fixes_applicable h⟩

end ImportOrder

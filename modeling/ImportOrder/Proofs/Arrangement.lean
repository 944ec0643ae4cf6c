import ImportOrder.Proofs.Compliance

/-!
# Where a check cannot go wrong

Every step of a check that may meet a fault cuts the text somewhere, forms a span or
counts a line. A module is *arranged* if its statements stand in the text one after
another and so do the specifiers of each import inside it. This asks less than document
order does: statements and specifiers may be empty. In an arranged module every cut is
at a boundary and every span is in order, so a check ends well (`check_ok`), one lemma
for each step.
-/

namespace ImportOrder

/-- The statements stand in the text in their order, and so do the specifiers of
each import in it. -/
structure Arranged (text : String) (ss : List Statement) : Prop where
  /-- the statements stand one after another -/
  statements : LaidOut text.toList (wholeSpan text.toList) (ss.map Statement.span)
  /-- the specifiers stand one after another inside their import -/
  specifiers : ∀ d, .importDecl d ∈ ss →
    LaidOut text.toList d.span (d.specifiers.map Specifier.span)

/-! ## The steps of a check -/

section

variable {text : String} {rule : Rule} {ss : List Statement}

/-- Looking for late imports meets no fault. The target is the start of the first other
statement, and both ends of a late import lie behind it at boundaries, so the texts
between them can be cut out. -/
theorem misplacedImports_ok (h : Arranged text ss) :
    ∃ late, misplacedImports text ss = .ok late := by
  unfold misplacedImports
  cases hother : fromFirstOther ss with
  | nil => exact ⟨[], rfl⟩
  | cons other rest =>
    obtain ⟨-, hss⟩ := fromFirstOther_eq_cons hother
    have hlaid :
        LaidOut text.toList (wholeSpan text.toList) ((other :: rest).map Statement.span) := by
      refine h.statements.sublist (List.Sublist.map _ ?_)
      rw [hss]
      exact List.sublist_append_right ..
    have hcut := (hlaid.cuts other.span List.mem_cons_self).1
    refine ⟨_, mapM_ok (g := fun d => ⟨d, liftOf text.toList other.span.start d⟩) ?_⟩
    intro d hd
    obtain ⟨s, hs, hdecl⟩ := List.mem_filterMap.1 hd
    obtain rfl := eq_importDecl hdecl
    have hspan : d.span ∈ (other :: rest).map Statement.span :=
      List.mem_cons_of_mem _ (List.mem_map_of_mem hs)
    have hafter : other.span.stop ≤ d.span.start :=
      List.rel_of_pairwise_cons hlaid.apart (List.mem_map_of_mem hs)
    have hordered := hlaid.ordered other.span List.mem_cons_self
    exact bind_ok (liftFix_eq hcut (hlaid.cuts _ hspan).1 (hlaid.cuts _ hspan).2 (by omega)
      (hlaid.ordered _ hspan))

theorem lateImports_ok (h : Arranged text ss) (rule : Rule) :
    ∃ late, lateImports text rule ss = .ok late := by
  unfold lateImports
  split
  · exact misplacedImports_ok h
  · exact ⟨[], rfl⟩

/-- The fix for a run meets no fault, because the imports are laid out one after
another. -/
theorem runFix_ok {r : Run} {outer : Span} (rule : Rule)
    (h : LaidOut text.toList outer (r.imports.map ImportDecl.span)) :
    ∃ fix, runFix text rule r = .ok fix := by
  have hhead := h.ordered r.head.span List.mem_cons_self
  have hspan : r.span =
      .ok ⟨min r.head.span.start r.last.span.start, max r.head.span.stop r.last.span.stop⟩ :=
    Span.make_eq_ok (by omega)
  have hslice : ∀ bucket ∈ desiredOrder rule r.imports, ∀ d ∈ bucket,
      d.span.slice text = .ok (textUnder text d) := by
    intro bucket hbucket d hd
    obtain ⟨c, -, rfl⟩ := List.mem_map.1 hbucket
    have hmem : d ∈ r.imports := (List.mem_filter.1 (List.mem_mergeSort.1 hd)).1
    exact h.slice_eq (List.mem_map_of_mem hmem)
  rw [runFix, bind_ok hspan, bind_ok (renderBuckets_eq hslice)]
  exact ⟨_, rfl⟩

/-- The fix for a braced list meets no fault: its entries are laid out one after
another, and so are the gaps. -/
theorem specifierFix_ok {outer : Span} {d : ImportDecl}
    (h : LaidOut text.toList outer (d.specifiers.map Specifier.span)) (ignoreCase : Bool) :
    ∃ fix?, specifierFix text ignoreCase d = .ok fix? := by
  have hnamed : LaidOut text.toList outer (d.named.map Specifier.span) :=
    h.sublist (List.filter_sublist.map _)
  cases hlist : d.named with
  | nil =>
    rw [specifierFix, hlist]
    exact ⟨none, rfl⟩
  | cons first rest => exact ⟨_, specifierFix_eq hlist hnamed⟩

/-- The lists of all imports can be looked at, because each of them can. -/
theorem specifierFindings_ok {ds : List ImportDecl}
    (h : ∀ d ∈ ds, LaidOut text.toList d.span (d.specifiers.map Specifier.span)) :
    ∃ found, specifierFindings text rule ds = .ok found := by
  induction ds with
  | nil => exact ⟨[], rfl⟩
  | cons d rest ih =>
    obtain ⟨hd, hrest⟩ := List.forall_mem_cons.1 h
    obtain ⟨later, hlater⟩ := ih hrest
    obtain ⟨here, hhere⟩ : ∃ here, specifierFinding text rule d = .ok here := by
      obtain ⟨fix?, hfix⟩ := specifierFix_ok hd rule.ignoreCase
      unfold specifierFinding
      split
      · rw [bind_ok hfix]
        exact ⟨_, rfl⟩
      · exact ⟨[], rfl⟩
    rw [specifierFindings_cons, bind_ok hhere, bind_ok hlater]
    exact ⟨_, rfl⟩

/-- The fix for a missing blank line meets no fault where the line after the run can
still be counted. -/
theorem trailingFix_ok {r : Run} {before after : List Statement}
    (hfills : r.Fills 0 ss before after) (h : Arranged text ss)
    (hend : r.last.endLine + 1 < lineBound) : ∃ fix?, trailingFix text ss r = .ok fix? := by
  unfold trailingFix
  rw [hfills.following]
  cases after with
  | nil => exact ⟨none, rfl⟩
  | cons s rest =>
    have hpair : LaidOut text.toList (wholeSpan text.toList) [r.last.span, s.span] :=
      h.statements.sublist (hfills.last_infix.sublist.map Statement.span)
    obtain ⟨gap, hgap⟩ := exists_between? (hpair.cuts r.last.span List.mem_cons_self).2
      (hpair.cuts s.span (List.mem_cons_of_mem _ List.mem_cons_self)).1
      (List.rel_of_pairwise_cons hpair.apart List.mem_cons_self)
    simp only [List.head?_cons, bind_ok (nextLine_eq hend)]
    split
    · exact ⟨none, rfl⟩
    · rw [bind_ok (Span.between_eq_ok_iff.2 hgap), bind_ok (Span.make_eq_ok (Nat.le_add_right ..))]
      exact ⟨_, rfl⟩

/-- **A run of an arranged module** is looked at without a fault. -/
theorem runFindings_ok (h : Arranged text ss) {r : Run} (hr : r ∈ collectRuns ss)
    (hrange : ∀ d ∈ r.imports, d.InRange) : ∃ found, runFindings text rule ss r = .ok found := by
  obtain ⟨before, after, hfills⟩ := exists_fills hr
  have hlaid : LaidOut text.toList (wholeSpan text.toList) (r.imports.map ImportDecl.span) := by
    have hsub := h.statements.sublist (hfills.isInfix.sublist.map Statement.span)
    rw [List.map_map] at hsub
    exact hsub
  obtain ⟨violation, hviolation⟩ := firstViolation_ok rule hrange
  obtain ⟨order, horder⟩ : ∃ order, orderFindings text rule r violation = .ok order := by
    cases violation with
    | none => exact ⟨[], rfl⟩
    | some cause =>
      obtain ⟨fix, hfix⟩ := runFix_ok rule hlaid
      rw [orderFindings, bind_ok hfix]
      exact ⟨_, rfl⟩
  obtain ⟨specifiers, hspecifiers⟩ :
      ∃ specifiers, specifierFindings text rule r.imports = .ok specifiers :=
    specifierFindings_ok fun d hd => h.specifiers d (mem_imports.2 ⟨r, hr, hd⟩)
  obtain ⟨trailing, htrailing⟩ :
      ∃ trailing, trailingFindings text rule ss r violation = .ok trailing := by
    obtain ⟨fix?, hfix⟩ := trailingFix_ok hfills h (hrange r.last (List.getLast_mem _)).2
    unfold trailingFindings
    split
    · rw [bind_ok hfix]
      exact ⟨_, rfl⟩
    · exact ⟨[], rfl⟩
  rw [runFindings_eq, bind_ok hviolation, bind_ok horder, bind_ok hspecifiers, bind_ok htrailing]
  exact ⟨_, rfl⟩

/-- If each run can be looked at, so can all of them. -/
theorem allRunFindings_ok {rs : List Run}
    (h : ∀ r ∈ rs, ∃ found, runFindings text rule ss r = .ok found) :
    ∃ found, allRunFindings text rule ss rs = .ok found := by
  induction rs with
  | nil => exact ⟨[], rfl⟩
  | cons r rest ih =>
    obtain ⟨⟨here, hhere⟩, hrest⟩ := List.forall_mem_cons.1 h
    obtain ⟨later, hlater⟩ := ih hrest
    rw [allRunFindings, bind_ok hhere, bind_ok hlater]
    exact ⟨_, rfl⟩

/-- **A check of an arranged module ends well.** -/
theorem check_ok (h : Arranged text ss)
    (hlines : ∀ s ∈ ss, s.startLine < 2 ^ 32 - 1 ∧ s.endLine < 2 ^ 32 - 1) (rule : Rule) :
    ∃ ds, check text rule ss = .ok ds := by
  obtain ⟨late, hlate⟩ := lateImports_ok h rule
  have hrange := inRange_imports hlines
  obtain ⟨found, hfound⟩ : ∃ found, findings text rule ss = .ok found := by
    rw [findings, bind_ok hlate]
    split
    · exact allRunFindings_ok fun r hr => runFindings_ok h hr (hrange r hr)
    · exact ⟨_, rfl⟩
  rw [check, bind_ok hfound]
  exact ⟨_, rfl⟩

end

end ImportOrder

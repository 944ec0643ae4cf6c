import ImportOrder.Proofs.Compliance
import ImportOrder.Proofs.Pass

/-!
# What a check reports

A *notice* is what a diagnostic says, without the fix but with the answer whether there
is one. `notices` lists the notices that a module deserves, said of its statements and
its runs only: if imports come too late, one for each of them; otherwise, run by run,

* one for the order of the run, with what is wrong first,
* one for each braced list that is not sorted,
* one for a missing blank line after the run, if its order is right.

The main statement is `check_reports_notices`: a check of a document-ordered module
gives these, in this order. They come in the order of the text, since each is anchored
at an import of its run (`pairwise_notices`).
-/

namespace ImportOrder

/-! ## What a module deserves -/

/-- What a diagnostic says, and whether it comes with a fix. -/
structure Notice where
  /-- what is wrong -/
  problem : Problem
  /-- the import at which it is reported -/
  anchor : Span
  /-- the line on which that import starts -/
  line : Nat
  /-- there is a fix -/
  mendable : Bool
deriving DecidableEq, Repr

/-- The notice of a problem at an import. -/
def Notice.about (problem : Problem) (mendable : Bool) (d : ImportDecl) : Notice :=
  ⟨problem, d.span, d.startLine, mendable⟩

/-- What the diagnostic says. -/
def Diagnostic.notice (d : Diagnostic) : Notice := ⟨d.problem, d.anchor, d.line, d.fix.isSome⟩

@[simp] theorem Finding.notice_report (f : Finding) (withFix : Bool) :
    (f.report withFix).notice = .about f.problem withFix f.decl := by cases withFix <;> rfl

/-- A statement follows the run without a blank line between them. -/
def Run.Crowded (ss : List Statement) (r : Run) : Prop :=
  ∃ s ∈ ss[r.lastIndex + 1]?, s.startLine ≤ r.last.endLine + 1

instance (ss : List Statement) (r : Run) : Decidable (r.Crowded ss) :=
  inferInstanceAs (Decidable (∃ s ∈ _, _))

/-- The notices for a run: its order, its braced lists, the blank line after it. A list
is not mended while the run is put in order. -/
def runNotices (rule : Rule) (ss : List Statement) (r : Run) : List Notice :=
  let cause := firstDiscord rule r.imports
  (cause.toList.map fun v => .about (.importOrder v) true r.head) ++
    (r.imports.filter (¬ ·.NamesSorted rule)).map (.about .specifierOrder cause.isNone) ++
    (if cause = none ∧ rule.enforceTrailingLine = true ∧ r.Crowded ss then
      [.about .missingTrailingLine true r.last]
    else [])

/-- The notices for a module. Only the first of the late imports is mended. -/
def notices (rule : Rule) (ss : List Statement) : List Notice :=
  match if rule.importsAtStart then lateDecls ss else [] with
  | d :: ds => .about .misplacedImport true d :: ds.map (.about .misplacedImport false)
  | [] => (collectRuns ss).flatMap (runNotices rule ss)

/-! ## The notices of a run -/

/-- An import is noticed for its list exactly if the names are not sorted. A list that
is not sorted is not empty, so it has a fix. -/
theorem ImportBlock.notices_listFinding (rule : Rule) (n : Nat) (b : ImportBlock) (withFix : Bool) :
    ((b.listFinding rule n).map fun f => (f.report withFix).notice) =
      if (b.decl.shift n).NamesSorted rule then []
        else [.about .specifierOrder withFix (b.decl.shift n)] := by
  rw [ImportBlock.listFinding, ← ImportDecl.unsorted_shift n]
  by_cases hsorted : (b.decl.shift n).NamesSorted rule
  · simp [hsorted, unsorted_eq_false.2 hsorted]
  · have hunsorted : (b.decl.shift n).unsorted rule.ignoreCase = true := by
      simpa using mt unsorted_eq_false.1 hsorted
    rw [if_pos hunsorted, if_neg hsorted, ImportBlock.listFix]
    rw [ImportDecl.unsorted_shift, ImportDecl.unsorted] at hunsorted
    cases hnamed : b.decl.named with
    | nil =>
      rw [hnamed] at hunsorted
      cases hunsorted
    | cons first rest => simp

/-- The unsorted lists of a run. -/
theorem notices_listFindings (rule : Rule) (n : Nat) (bs : List ImportBlock) (withFix : Bool) :
    ((listFindings rule n bs).map fun f => (f.report withFix).notice) =
      ((placeImports n bs).filter (¬ ·.NamesSorted rule)).map (.about .specifierOrder withFix) := by
  induction bs generalizing n with
  | nil => rfl
  | cons b rest ih =>
    rw [listFindings_cons, List.map_append, b.notices_listFinding, ih, placeImports,
      List.filter_cons]
    by_cases hsorted : (b.decl.shift n).NamesSorted rule <;> simp [hsorted]

/-- A placed import is the import of some block. -/
theorem exists_of_mem_placeImports {n : Nat} {bs : List ImportBlock} {d : ImportDecl}
    (h : d ∈ placeImports n bs) :
    ∃ b ∈ bs, ∃ m, d = b.decl.shift m := by
  induction bs generalizing n with
  | nil => cases h
  | cons b rest ih =>
    rcases List.mem_cons.1 h with rfl | h
    · exact ⟨b, List.mem_cons_self, n, rfl⟩
    · obtain ⟨c, hc, m, rfl⟩ := ih h
      exact ⟨c, List.mem_cons_of_mem b hc, m, rfl⟩

/-- What is wrong first with a run of blocks. -/
theorem violation?_eq_firstDiscord (rule : Rule) {bs : List ImportBlock}
    (h : ∀ b ∈ bs, b.decl.InRange) (n : Nat) :
    violation? rule bs = firstDiscord rule (placeImports n bs) := by
  have hplaced : ∀ d ∈ placeImports n bs, d.startLine + 1 < lineBound := by
    intro d hd
    obtain ⟨b, hb, m, rfl⟩ := exists_of_mem_placeImports hd
    exact (h b hb).1
  have hok : firstViolation rule (placeImports n bs) = .ok (violation? rule bs) :=
    firstViolation_eq h n
  rw [firstViolation_eq_ok rule fun d hd _ => hplaced d hd] at hok
  exact (Except.ok.inj hok).symm

/-- Line breaks are missing after a run if a statement follows too closely. -/
theorem missingBreaks_isSome (rule : Rule) (o : OtherBlock) {bs : List ImportBlock}
    (hne : bs ≠ []) :
    (missingBreaks rule (some o) bs).isSome = true ↔
      rule.enforceTrailingLine = true ∧ o.startLine ≤ (bs.getLast hne).decl.endLine + 1 := by
  simp only [missingBreaks, List.getLast?_eq_some_getLast hne]
  cases rule.enforceTrailingLine with
  | false => simp
  | true =>
    by_cases hnear : o.startLine ≤ (bs.getLast hne).decl.endLine + 1
    · simp [breaksBetween, hnear, Nat.not_lt.2 hnear]
    · simp [breaksBetween, hnear, Nat.lt_of_not_le hnear]

/-- A run is noticed for the line after it exactly if one is missing. -/
theorem notices_trailingAt (rule : Rule) {next : Option OtherBlock} (b : ImportBlock)
    {bs : List ImportBlock} {ss : List Statement} {index m : Nat} (n : Nat)
    (hnext : ss[index + bs.length + 1]? = next.map (OtherBlock.place m)) :
    let r : Run := ⟨index, b.decl.shift n, placeImports (n + byteLength b.chars) bs⟩
    ((trailingAt rule next n (b :: bs)).map fun f => (f.report true).notice) =
      if rule.enforceTrailingLine = true ∧ r.Crowded ss then
        [.about .missingTrailingLine true r.last]
      else [] := by
  intro r
  obtain ⟨k, hlast, -, -⟩ := getLast_placeImports (List.cons_ne_nil b bs) n
  have hend : r.last.endLine = ((b :: bs).getLast (List.cons_ne_nil b bs)).decl.endLine :=
    (congrArg ImportDecl.endLine hlast).trans (ImportDecl.endLine_shift ..)
  have hplaced : (placeImports n (b :: bs)).getLast? = some r.last :=
    List.getLast?_eq_some_getLast _
  have hcrowded : r.Crowded ss ↔ ∃ o ∈ next, o.startLine ≤ r.last.endLine + 1 := by
    rw [Run.Crowded, Run.lastIndex_eq, placeImports_length, hnext]
    cases next <;> simp [OtherBlock.startLine_place]
  simp only [trailingAt, hplaced, hcrowded]
  cases next with
  | none => simp [missingBreaks]
  | some o =>
    have hmissing := missingBreaks_isSome rule o (List.cons_ne_nil b bs)
    rw [← hend] at hmissing
    simp only [Option.mem_some_iff, exists_eq_left', ← hmissing]
    cases missingBreaks rule (some o) (b :: bs) <;> simp

/-- **The notices of a run** are those of its diagnostics. -/
theorem notices_diagnosticsAt (rule : Rule) {next : Option OtherBlock} {b : ImportBlock}
    {bs : List ImportBlock} (hrange : ∀ x ∈ b :: bs, x.decl.InRange) {ss : List Statement}
    {index m : Nat} (n : Nat) (hnext : ss[index + bs.length + 1]? = next.map (OtherBlock.place m)) :
    (diagnosticsAt rule next n (b :: bs)).map Diagnostic.notice =
      runNotices rule ss ⟨index, b.decl.shift n, placeImports (n + byteLength b.chars) bs⟩ := by
  have himports : Run.imports ⟨index, b.decl.shift n, placeImports (n + byteLength b.chars) bs⟩ =
      placeImports n (b :: bs) := rfl
  have hlists := notices_listFindings rule n (b :: bs)
  rw [runNotices, himports, ← violation?_eq_firstDiscord rule hrange n]
  cases hcause : violation? rule (b :: bs) with
  | none =>
    have htrailing := notices_trailingAt rule b n hnext
    rw [diagnosticsAt_of_none hcause, List.map_map, List.map_append]
    simp only [Option.toList_none, List.map_nil, List.nil_append, Option.isNone_none, true_and,
      ← htrailing, ← hlists]
    rfl
  | some cause =>
    rw [diagnosticsAt_of_some hcause, List.map_cons, List.map_map]
    simp only [Option.toList_some, List.map_cons, List.map_nil, Option.isNone_some, reduceCtorEq,
      false_and, if_false, List.append_nil, ← hlists, Finding.notice_report]
    rfl

/-! ## The notices of a module -/

/-- The runs of statements that begin with a run of blocks. -/
theorem notices_run (rule : Rule) {bs : List ImportBlock} (hrange : ∀ b ∈ bs, b.decl.InRange)
    {rest : List Statement} {next : Option OtherBlock} {m : Nat} (n : Nat)
    (hnext : rest.head? = next.map (OtherBlock.place m)) (prior : List Statement) :
    let ss := prior ++ ((placeImports n bs).map .importDecl ++ rest)
    (runsFrom prior.length ((placeImports n bs).map .importDecl ++ rest)).flatMap
      (runNotices rule ss) =
      (diagnosticsAt rule next n bs).map Diagnostic.notice ++
        (runsFrom (prior.length + bs.length) rest).flatMap (runNotices rule ss) := by
  intro ss
  obtain _ | ⟨b, bs⟩ := bs
  · rfl
  · have hfollowing : ss[prior.length + bs.length + 1]? = next.map (OtherBlock.place m) := by
      rw [← hnext, ← getElem?_after prior rest (placeImports n (b :: bs)), placeImports_length,
        List.length_cons, Nat.add_assoc]
    rw [notices_diagnosticsAt rule hrange n hfollowing, placeImports,
      runsFrom_run (leadingImports_of_head? hnext), List.flatMap_cons, placeImports_length,
      List.length_cons, Nat.add_comm bs.length, Nat.add_assoc]

/-- **The notices of a sheet** are those of its diagnostics. The induction goes stanza
by stanza, and the statements that have been read join those before the sheet. -/
theorem notices_diagnostics (rule : Rule) {p : Sheet} (hrange : p.InRange) (n : Nat)
    (prior : List Statement) :
    (runsFrom prior.length (p.place n)).flatMap (runNotices rule (prior ++ p.place n)) =
      (p.diagnostics rule n).map Diagnostic.notice := by
  obtain ⟨stanzas, final⟩ := p
  induction stanzas generalizing n prior with
  | nil =>
    have hnext :
        ([] : List Statement).head? = (none : Option OtherBlock).map (OtherBlock.place 0) := rfl
    have hrun := notices_run rule hrange.final n hnext prior
    simp only [List.append_nil, runsFrom, List.flatMap_nil] at hrun
    exact hrun
  | cons s rest ih =>
    obtain ⟨hs, hrest⟩ := List.forall_mem_cons.1 hrange.stanzas
    have hlater := ih (n + byteLength s.chars) (prior ++ s.place n) ⟨hrest, hrange.final⟩
    have hnext : (s.other.place (n + byteLength (importChars s.imports)) ::
        Sheet.place (n + byteLength s.chars) ⟨rest, final⟩).head? =
          (some s.other).map (OtherBlock.place (n + byteLength (importChars s.imports))) := rfl
    rw [Sheet.place_cons, notices_run rule hs n hnext prior, OtherBlock.place, runsFrom,
      Sheet.diagnostics, stanzaDiagnostics, List.map_append, List.append_cancel_left_eq]
    simp only [Stanza.place, OtherBlock.place, List.length_append, List.length_map,
      placeImports_length, List.length_singleton, List.append_assoc, List.singleton_append,
      Nat.add_assoc] at hlater ⊢
    exact hlater

/-! ## The order of the notices -/

theorem decls_map (ds : List ImportDecl) :
    (ds.map Statement.importDecl).filterMap Statement.decl? = ds := by
  rw [List.filterMap_map]
  exact List.filterMap_some

/-- **Every import is in one run**, and the runs come in order. -/
theorem flatMap_imports (index : Nat) (ss : List Statement) :
    (runsFrom index ss).flatMap Run.imports = ss.filterMap Statement.decl? := by
  fun_induction runsFrom index ss with
  | case1 => rfl
  | case2 index form span a b rest ih => exact ih
  | case3 index d rest more ih =>
    obtain ⟨hrest, -⟩ := leadingImports_spec rest
    rw [List.flatMap_cons, ih]
    conv_rhs => rw [← hrest]
    rw [← List.cons_append, ← List.map_cons, List.filterMap_append, decls_map]
    rfl

/-- The imports of a module start one after another. -/
theorem pairwise_starts {text : String} {ss : List Statement} (h : DocumentOrdered text ss) :
    (ss.filterMap Statement.decl?).Pairwise fun a b => a.span.start ≤ b.span.start := by
  have hstarts : ss.Pairwise fun s t => s.span.start ≤ t.span.start := by
    refine (List.pairwise_map.1 h.statements.apart).imp_of_mem ?_
    intro s t hs _ hapart
    have hproper := h.statements.proper s.span (List.mem_map_of_mem hs)
    omega
  rw [List.pairwise_filterMap]
  refine hstarts.imp ?_
  intro s t hle a ha b hb
  obtain rfl := eq_importDecl ha
  obtain rfl := eq_importDecl hb
  exact hle

/-- A run's notices are at its first import, at some of its imports in their order, and
at its last import. -/
theorem anchors_runNotices (rule : Rule) (ss : List Statement) (r : Run) :
    ((runNotices rule ss r).map Notice.anchor).Sublist
      ((r.head :: r.imports ++ [r.last]).map ImportDecl.span) := by
  have hlists (cause : Option Violation) : (((r.imports.filter (¬ ·.NamesSorted rule)).map
      (Notice.about .specifierOrder cause.isNone)).map Notice.anchor).Sublist
        (r.imports.map ImportDecl.span) := by
    rw [List.map_map]
    exact List.filter_sublist.map ImportDecl.span
  simp only [runNotices, List.map_append, List.map_cons,
    ← List.singleton_append (l := List.map _ r.imports)]
  refine List.Sublist.append (List.Sublist.append ?_ (hlists _)) ?_
  · cases firstDiscord rule r.imports <;> simp [Notice.about]
  · split <;> simp [Notice.about]

/-- Notices about a run are about its first import, its lists or its last import, and
these are imports of it. -/
theorem Run.mem_imports_of_mem_ends {r : Run} {d : ImportDecl}
    (h : d ∈ r.head :: r.imports ++ [r.last]) :
    d ∈ r.imports := by
  rcases List.mem_append.1 h with h | h
  · rcases List.mem_cons.1 h with rfl | h
    · exact List.mem_cons_self
    · exact h
  · obtain rfl := List.mem_singleton.1 h
    exact List.getLast_mem _

theorem Run.pairwise_ends {r : Run}
    (h : r.imports.Pairwise fun a b => a.span.start ≤ b.span.start) :
    (r.head :: r.imports ++ [r.last]).Pairwise fun a b => a.span.start ≤ b.span.start := by
  have hhead : ∀ d ∈ r.imports, r.head.span.start ≤ d.span.start := by
    intro d hd
    rcases List.mem_cons.1 hd with rfl | hd
    · exact Nat.le_refl _
    · exact List.rel_of_pairwise_cons h hd
  have hlast : ∀ d ∈ r.imports, d.span.start ≤ r.last.span.start := by
    intro d hd
    have hsplit : r.imports.dropLast ++ [r.last] = r.imports := List.dropLast_append_getLast _
    rw [← hsplit] at h hd
    rcases List.mem_append.1 hd with hd | hd
    · exact (List.pairwise_append.1 h).2.2 d hd r.last (List.mem_singleton_self _)
    · rw [List.mem_singleton.1 hd]
  refine List.pairwise_append.2 ⟨List.pairwise_cons.2 ⟨hhead, h⟩, List.pairwise_singleton .., ?_⟩
  intro d hd e he
  rw [List.mem_singleton.1 he]
  exact hlast d (r.mem_imports_of_mem_ends (List.mem_append_left _ hd))

/-- **Notices come in the order of the text.** -/
theorem pairwise_notices {text : String} {ss : List Statement} (h : DocumentOrdered text ss)
    (rule : Rule) :
    ((notices rule ss).map Notice.anchor).Pairwise fun a b => a.start ≤ b.start := by
  have hstarts := pairwise_starts h
  unfold notices
  split
  · next d ds hlate =>
    have hsub : (d :: ds).Sublist (ss.filterMap Statement.decl?) := by
      split at hlate
      · rw [← hlate]
        exact (List.dropWhile_sublist _).filterMap _
      · cases hlate
    have hanchors :
        ((.about .misplacedImport true d :: ds.map (.about .misplacedImport false)).map
          Notice.anchor) = (d :: ds).map ImportDecl.span := by
      rw [List.map_cons, List.map_map]
      rfl
    rw [hanchors, List.pairwise_map]
    exact hstarts.sublist hsub
  · rw [← flatMap_imports 0, ← collectRuns_eq, List.pairwise_flatMap] at hstarts
    rw [List.map_flatMap, List.pairwise_flatMap]
    constructor
    · intro r hr
      refine List.Pairwise.sublist (anchors_runNotices rule ss r) ?_
      rw [List.pairwise_map]
      exact r.pairwise_ends (hstarts.1 r hr)
    · refine hstarts.2.imp ?_
      intro q r hle x hx y hy
      obtain ⟨d, hd, rfl⟩ := List.mem_map.1 ((anchors_runNotices rule ss q).mem hx)
      obtain ⟨e, he, rfl⟩ := List.mem_map.1 ((anchors_runNotices rule ss r).mem hy)
      exact hle d (q.mem_imports_of_mem_ends hd) e (r.mem_imports_of_mem_ends he)

/-- What a check reports, without its fixes. -/
theorem check_notices {text : String} {ss : List Statement} (h : DocumentOrdered text ss)
    (hlines : ∀ s ∈ ss, s.startLine < 2 ^ 32 - 1 ∧ s.endLine < 2 ^ 32 - 1) (rule : Rule) :
    ∃ ds, check text rule ss = .ok ds ∧ ds.map Diagnostic.notice = notices rule ss := by
  unfold notices
  split
  · next d ds hlate =>
    obtain ⟨hrule, hlate⟩ : rule.importsAtStart = true ∧ lateDecls ss = d :: ds := by
      split at hlate
      · next hrule => exact ⟨hrule, hlate⟩
      · cases hlate
    cases hother : fromFirstOther ss with
    | nil =>
      rw [lateDecls, hother] at hlate
      cases hlate
    | cons other rest =>
      refine ⟨_, check_late hrule h hother hlate, ?_⟩
      simp only [List.map_cons, List.map_map, Finding.notice_report]
      rfl
  · next hlate =>
    obtain ⟨htext, hstatements, hproper⟩ := Page.cut_spec h
    have hrange := Page.inRange_cut h hlines
    have hnone :
        lateImports (Page.cut text ss).text rule (Page.cut text ss).statements = .ok [] := by
      rw [htext, hstatements, lateImports_eq_nil_iff]
      intro hrule
      simpa [hrule] using hlate
    have hcheck := check_page hproper hrange hnone
    rw [htext, hstatements] at hcheck
    have hnotices := notices_diagnostics rule hrange (byteLength (Page.cut text ss).lead) []
    rw [List.nil_append, List.length_nil, ← Page.statements, hstatements,
      ← collectRuns_eq] at hnotices
    exact ⟨_, hcheck, hnotices.symm⟩

/-- **A check reports what the module deserves**, in the order of the text. -/
theorem check_reports_notices {text : String} {ss : List Statement} (h : DocumentOrdered text ss)
    (hlines : ∀ s ∈ ss, s.startLine < 2 ^ 32 - 1 ∧ s.endLine < 2 ^ 32 - 1) (rule : Rule) :
    ∃ ds, check text rule ss = .ok ds ∧ ds.map Diagnostic.notice = notices rule ss ∧
      ds.Pairwise fun a b => a.anchor.start ≤ b.anchor.start := by
  obtain ⟨ds, hcheck, hnotices⟩ := check_notices h hlines rule
  refine ⟨ds, hcheck, hnotices, ?_⟩
  have hordered := pairwise_notices h rule
  rw [← hnotices, List.map_map, List.pairwise_map] at hordered
  exact hordered

/-- A run in order without a blank line after it, and a run out of order with an
unsorted list in it. -/
theorem check_reports_notices_two_runs :
    let text := "b\nq\nyx\nc"
    let rule : Rule := { importsAtStart := false, enforceTrailingLine := true, ignoreCase := false }
    let ss : List Statement := [
      .importDecl ⟨⟨0, 1⟩, 1, 1, some .type, "b", []⟩, .other "q" ⟨2, 3⟩ 2 2,
      .importDecl ⟨⟨4, 6⟩, 3, 3, some .value, "d", [⟨.named, "y", ⟨4, 5⟩⟩, ⟨.named, "x", ⟨5, 6⟩⟩]⟩,
      .importDecl ⟨⟨7, 8⟩, 4, 4, some .value, "c", []⟩]
    notices rule ss = [
        ⟨.missingTrailingLine, ⟨0, 1⟩, 1, true⟩, ⟨.importOrder .wrongPath, ⟨4, 6⟩, 3, true⟩,
        ⟨.specifierOrder, ⟨4, 6⟩, 3, false⟩] ∧
      ∃ ds, check text rule ss = .ok ds ∧ ds.map Diagnostic.notice = notices rule ss ∧
        ds.Pairwise fun a b => a.anchor.start ≤ b.anchor.start := by
  intro text rule ss
  exact ⟨by decide +kernel, check_reports_notices (by decide) (by decide) rule⟩

end ImportOrder

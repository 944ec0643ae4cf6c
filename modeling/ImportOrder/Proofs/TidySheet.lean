import ImportOrder.Proofs.MaximalRuns
import ImportOrder.Proofs.TidyRun

/-!
# What a check finds on a sheet

Run after run, a check reports what is wrong with the runs of a sheet.
`Sheet.diagnostics` says what that is, `Sheet.tidy` what becomes of the sheet, and two
statements tie them to the program:

* `check_page` — these are the diagnostics of a check that looks at the runs;
* `rewrites_tidy` — and the fixes that they carry make the sheet tidy.
-/

namespace ImportOrder

/-! ## The runs of a sheet -/

/-- What is found in the runs of stanzas that stand at an offset, and in the run after
them. -/
def stanzaFindings (rule : Rule) (n : Nat) : List Stanza → List ImportBlock → List Finding
  | [], final => findingsAt rule none n final
  | s :: rest, final =>
    findingsAt rule (some s.other) n s.imports ++
      stanzaFindings rule (n + byteLength s.chars) rest final

/-- What is reported of the runs of stanzas that stand at an offset, and of the run
after them. -/
def stanzaDiagnostics (rule : Rule) (n : Nat) : List Stanza → List ImportBlock → List Diagnostic
  | [], final => diagnosticsAt rule none n final
  | s :: rest, final =>
    diagnosticsAt rule (some s.other) n s.imports ++
      stanzaDiagnostics rule (n + byteLength s.chars) rest final

/-- The stanza after the fixes that are kept for its run. -/
def Stanza.tidy (rule : Rule) (s : Stanza) : Stanza :=
  { s with imports := tidyRun rule (some s.other) s.imports }

/-- What is reported of the runs of a sheet that stands at an offset. -/
def Sheet.diagnostics (rule : Rule) (n : Nat) (p : Sheet) : List Diagnostic :=
  stanzaDiagnostics rule n p.stanzas p.final

/-- The sheet after the fixes that are kept for its runs. -/
def Sheet.tidy (rule : Rule) (p : Sheet) : Sheet :=
  ⟨p.stanzas.map (Stanza.tidy rule), tidyRun rule none p.final⟩

/-- The lines of all imports can be counted on from. -/
structure Sheet.InRange (p : Sheet) : Prop where
  /-- in the stanzas -/
  stanzas : ∀ s ∈ p.stanzas, ∀ b ∈ s.imports, b.decl.InRange
  /-- and in the last run -/
  final : ∀ b ∈ p.final, b.decl.InRange

/-- A list of statements does not begin with an import. -/
theorem leadingImports_of_head? {rest : List Statement} {next : Option OtherBlock} {n : Nat}
    (h : rest.head? = next.map (OtherBlock.place n)) : leadingImports rest = [] := by
  cases next with
  | none =>
    rw [Option.map_none, List.head?_eq_none_iff] at h
    rw [h]
    rfl
  | some o =>
    obtain ⟨tail, rfl⟩ := List.head?_eq_some_iff.1 h
    rfl

/-- What is found in a run and in what follows it. -/
theorem allRunFindings_run {bs : List ImportBlock} (hproper : ∀ b ∈ bs, b.Proper)
    (hrange : ∀ b ∈ bs, b.decl.InRange) {rest : List Statement} {next : Option OtherBlock}
    {pre : List Char}
    (hnext : rest.head? =
      next.map (OtherBlock.place (byteLength pre + byteLength (importChars bs))))
    (rule : Rule) (post : List Char) (prior : List Statement) {later : List Finding}
    (hlater : allRunFindings (String.ofList (pre ++ importChars bs ++ post)) rule
      (prior ++ ((placeImports (byteLength pre) bs).map .importDecl ++ rest))
      (runsFrom (prior.length + bs.length) rest) = .ok later) :
    allRunFindings (String.ofList (pre ++ importChars bs ++ post)) rule
      (prior ++ ((placeImports (byteLength pre) bs).map .importDecl ++ rest))
      (runsFrom prior.length ((placeImports (byteLength pre) bs).map .importDecl ++ rest)) =
        .ok (findingsAt rule next (byteLength pre) bs ++ later) := by
  obtain _ | ⟨b, bs⟩ := bs
  · exact hlater
  · have hfollowing :
        (prior ++ ((placeImports (byteLength pre) (b :: bs)).map Statement.importDecl ++ rest))[
        prior.length + bs.length + 1]? = next.map
          (OtherBlock.place (byteLength pre + byteLength (importChars (b :: bs)))) := by
      rw [← hnext, ← getElem?_after prior rest (placeImports (byteLength pre) (b :: bs)),
        placeImports_length, List.length_cons, Nat.add_assoc]
    have hhere := runFindings_placed hproper hrange hfollowing rule post
    rw [placeImports] at hhere hlater ⊢
    rw [runsFrom_run (leadingImports_of_head? hnext), allRunFindings, bind_ok hhere]
    rw [List.length_cons, Nat.add_comm bs.length, ← Nat.add_assoc] at hlater
    rw [placeImports_length, bind_ok hlater]

theorem Sheet.chars_cons (s : Stanza) (rest : List Stanza) (final : List ImportBlock) :
    Sheet.chars ⟨s :: rest, final⟩ =
      importChars s.imports ++ (s.other.chars ++ Sheet.chars ⟨rest, final⟩) := by
  simp only [Sheet.chars, stanzaChars_cons, Stanza.chars, List.append_assoc]

theorem Sheet.place_nil (n : Nat) (final : List ImportBlock) :
    Sheet.place n ⟨[], final⟩ = (placeImports n final).map .importDecl := rfl

/-- The statements of a sheet are the imports of its first run, the statement after them
and the rest, each behind the text of those before. -/
theorem Sheet.place_cons (n : Nat) (s : Stanza) (rest : List Stanza) (final : List ImportBlock) :
    Sheet.place n ⟨s :: rest, final⟩ = (placeImports n s.imports).map .importDecl ++
      s.other.place (n + byteLength (importChars s.imports)) ::
        Sheet.place (n + byteLength s.chars) ⟨rest, final⟩ := by
  simp only [Sheet.place, placeStanzas, Stanza.place, stanzaChars_cons, byteLength_append,
    List.append_assoc, Nat.add_assoc, List.cons_append, List.nil_append]

/-- If the lines of placed imports can be counted, so can those of their blocks. -/
theorem inRange_of_placeImports {bs : List ImportBlock} {n : Nat}
    (h : ∀ s ∈ (placeImports n bs).map Statement.importDecl,
      s.startLine + 1 < lineBound ∧ s.endLine + 1 < lineBound) : ∀ b ∈ bs, b.decl.InRange := by
  induction bs generalizing n with
  | nil => exact fun b hb => (List.not_mem_nil hb).elim
  | cons b rest ih =>
    obtain ⟨hb, hrest⟩ := List.forall_mem_cons.1 h
    exact List.forall_mem_cons.2 ⟨hb, ih hrest⟩

/-- The lines of a sheet can be counted on from if those of its statements can. -/
theorem inRange_of_place {p : Sheet} {n : Nat}
    (h : ∀ s ∈ p.place n, s.startLine + 1 < lineBound ∧ s.endLine + 1 < lineBound) : p.InRange := by
  obtain ⟨stanzas, final⟩ := p
  induction stanzas generalizing n with
  | nil => exact ⟨nofun, inRange_of_placeImports h⟩
  | cons s rest ih =>
    rw [Sheet.place_cons] at h
    obtain ⟨hrun, hlater⟩ := List.forall_mem_append.1 h
    obtain ⟨hstanzas, hfinal⟩ := ih (List.forall_mem_cons.1 hlater).2
    exact ⟨List.forall_mem_cons.2 ⟨inRange_of_placeImports hrun, hstanzas⟩, hfinal⟩

/-- What is found in the runs of a sheet that ends a text. The induction goes stanza by
stanza, and what has been read joins the text and the statements before the sheet. -/
theorem allRunFindings_sheet {p : Sheet} (hproper : p.Proper) (hrange : p.InRange) (rule : Rule)
    (pre : List Char) (prior : List Statement) :
    allRunFindings (String.ofList (pre ++ p.chars)) rule (prior ++ p.place (byteLength pre))
      (runsFrom prior.length (p.place (byteLength pre))) =
        .ok (stanzaFindings rule (byteLength pre) p.stanzas p.final) := by
  obtain ⟨stanzas, final⟩ := p
  induction stanzas generalizing pre prior with
  | nil =>
    have hnext : ([] : List Statement).head? = (none : Option OtherBlock).map
      (OtherBlock.place (byteLength pre + byteLength (importChars final))) := rfl
    have hrun :=
      allRunFindings_run hproper.final hrange.final hnext rule [] prior (by rw [runsFrom]; rfl)
    simp only [List.append_nil] at hrun
    exact hrun
  | cons s rest ih =>
    obtain ⟨hs, hrest⟩ := List.forall_mem_cons.1 hproper.stanzas
    obtain ⟨hsRange, hrestRange⟩ := List.forall_mem_cons.1 hrange.stanzas
    have hlater := ih (pre ++ s.chars) (prior ++ s.place (byteLength pre)) ⟨hrest, hproper.final⟩
      ⟨hrestRange, hrange.final⟩
    have hnext : (s.other.place (byteLength pre + byteLength (importChars s.imports)) ::
        Sheet.place (byteLength pre + byteLength s.chars) ⟨rest, final⟩).head? =
          (some s.other).map
            (OtherBlock.place (byteLength pre + byteLength (importChars s.imports))) := rfl
    rw [Sheet.chars_cons, Sheet.place_cons, ← List.append_assoc]
    refine allRunFindings_run hs.imports hsRange hnext rule
      (s.other.chars ++ Sheet.chars ⟨rest, final⟩) prior ?_
    rw [OtherBlock.place, runsFrom]
    simp only [Stanza.chars, Stanza.place, byteLength_append, List.length_append, List.length_map,
      placeImports_length, List.length_singleton, List.append_assoc, List.singleton_append,
      Nat.add_assoc, OtherBlock.place] at hlater ⊢
    exact hlater

/-! ## What is kept of a sheet -/

/-- The fixes of the stanzas, one behind the other, rewrite their texts into those of
the tidied stanzas. -/
theorem rewrites_stanzas {stanzas : List Stanza} {final : List ImportBlock}
    (hstanzas : ∀ s ∈ stanzas, s.Proper) (hfinal : ∀ b ∈ final, b.Proper) (rule : Rule) :
    Rewrites (stanzaChars stanzas ++ importChars final)
      (stanzaChars (stanzas.map (Stanza.tidy rule)) ++ importChars (tidyRun rule none final))
      fun n => fixesOf (stanzaDiagnostics rule n stanzas final) := by
  induction stanzas with
  | nil => exact rewrites_tidyRun hfinal rule none
  | cons s rest ih =>
    obtain ⟨hs, hrest⟩ := List.forall_mem_cons.1 hstanzas
    have hscript := (rewrites_tidyRun hs.imports rule (some s.other)).append
      ((Rewrites.keep s.other.chars).append (ih hrest))
    simp only [List.map_cons, stanzaChars_cons, Stanza.chars, Stanza.tidy, List.append_assoc]
    refine hscript.congr fun n => ?_
    rw [stanzaDiagnostics, fixesOf_append, List.nil_append, Stanza.chars, byteLength_append,
      Nat.add_assoc]

/-- **The fixes that are kept for a sheet make it tidy.** -/
theorem Sheet.rewrites_tidy {p : Sheet} (h : p.Proper) (rule : Rule) :
    Rewrites p.chars (p.tidy rule).chars fun n => fixesOf (p.diagnostics rule n) :=
  rewrites_stanzas h.stanzas h.final rule

/-- What is reported of the runs of a sheet is what remains of the findings. -/
theorem withhold_stanzas {stanzas : List Stanza} {final : List ImportBlock}
    (hstanzas : ∀ s ∈ stanzas, s.Proper) (hfinal : ∀ b ∈ final, b.Proper) (rule : Rule) {n : Nat}
    {taken : List Span} (htaken : ∀ t ∈ taken, t.start ≤ t.stop ∧ t.stop ≤ n) :
    withhold taken (stanzaFindings rule n stanzas final) =
      stanzaDiagnostics rule n stanzas final := by
  induction stanzas generalizing n taken with
  | nil =>
    have hrun := withhold_run hfinal rule none htaken []
    simp only [List.append_nil, withhold] at hrun
    exact hrun
  | cons s rest ih =>
    obtain ⟨hs, hrest⟩ := List.forall_mem_cons.1 hstanzas
    rw [stanzaFindings, withhold_run hs.imports rule _ htaken, stanzaDiagnostics, ih hrest]
    intro t ht
    rw [Stanza.chars, byteLength_append]
    rcases List.mem_append.1 ht with ht | ht
    · obtain ⟨f, hf, rfl⟩ := List.mem_map.1 (List.mem_reverse.1 ht)
      have := (rewrites_tidyRun hs.imports rule (some s.other)).within hf
      omega
    · have := htaken t ht
      omega

/-- **The diagnostics of a check that looks at the runs** of a page. -/
theorem check_page {p : Page} (hproper : p.Proper) (hrange : p.sheet.InRange) {rule : Rule}
    (hlate : lateImports p.text rule p.statements = .ok []) :
    check p.text rule p.statements = .ok (p.sheet.diagnostics rule (byteLength p.lead)) := by
  have hfound := allRunFindings_sheet hproper hrange rule p.lead []
  have hfindings : findings p.text rule p.statements =
      .ok (stanzaFindings rule (byteLength p.lead) p.sheet.stanzas p.sheet.final) := by
    rw [findings, bind_ok hlate, collectRuns_eq]
    exact hfound
  rw [check, bind_ok hfindings, withhold_stanzas hproper.stanzas hproper.final rule
    fun _ ht => (List.not_mem_nil ht).elim]
  rfl

end ImportOrder

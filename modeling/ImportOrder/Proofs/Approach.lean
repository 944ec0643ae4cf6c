import ImportOrder.Proofs.OrderedRuns
import ImportOrder.Proofs.Pass

/-!
# Each pass brings a page closer

A page that is read from a text has to be lifted into shape first, one late import after
another. Then its runs are put in order, and then they are clean. `Page.Within` counts
how many passes that can take, and `within_pass` says that a pass uses up one of them.

What is said of all runs of a sheet is said with `Sheet.Each`.
-/

namespace ImportOrder

/-! ## All runs of a sheet -/

/-- Something holds of every run of a sheet and the statement after it. -/
structure Sheet.Each (P : Option OtherBlock → List ImportBlock → Prop) (p : Sheet) : Prop where
  /-- of the runs of the stanzas -/
  stanzas : ∀ s ∈ p.stanzas, P (some s.other) s.imports
  /-- and of the run at the end -/
  final : P none p.final

namespace Sheet

variable {P Q : Option OtherBlock → List ImportBlock → Prop}

/-- A property of all runs is one of the first run, which comes before the first
statement that is no import, and of the runs after it. -/
theorem each_cons {s : Stanza} {rest : List Stanza} {final : List ImportBlock} :
    Sheet.Each P ⟨s :: rest, final⟩ ↔ P (some s.other) s.imports ∧ Sheet.Each P ⟨rest, final⟩ := by
  constructor
  · rintro ⟨hstanzas, hfinal⟩
    obtain ⟨hs, hrest⟩ := List.forall_mem_cons.1 hstanzas
    exact ⟨hs, hrest, hfinal⟩
  · rintro ⟨hs, hrest, hfinal⟩
    exact ⟨List.forall_mem_cons.2 ⟨hs, hrest⟩, hfinal⟩

theorem Each.and {p : Sheet} (hP : p.Each P) (hQ : p.Each Q) :
    p.Each fun next bs => P next bs ∧ Q next bs :=
  ⟨fun s hs => ⟨hP.stanzas s hs, hQ.stanzas s hs⟩, hP.final, hQ.final⟩

/-- What follows from a property of a run holds of all runs if the property does. -/
theorem Each.imp {p : Sheet} (h : p.Each P) (himp : ∀ next bs, P next bs → Q next bs) : p.Each Q :=
  ⟨fun s hs => himp _ _ (h.stanzas s hs), himp _ _ h.final⟩

/-- Making a sheet tidy makes every run tidy. -/
theorem Each.tidy {p : Sheet} {rule : Rule} (h : p.Each P)
    (htidy : ∀ next bs, P next bs → Q next (tidyRun rule next bs)) : (p.tidy rule).Each Q :=
  ⟨List.forall_mem_map.2 fun s hs => htidy _ _ (h.stanzas s hs), htidy _ _ h.final⟩

/-- A sheet is settled stanza by stanza: the second one starts where the text of the
first ends, and on the line on which it ends. -/
theorem settle_cons (n line : Nat) (s : Stanza) (rest : List Stanza) (final : List ImportBlock) :
    Sheet.settle n line ⟨s :: rest, final⟩ =
      ⟨s.settle n line ::
          (Sheet.settle (n + byteLength s.chars) (line + lineBreaks s.chars) ⟨rest, final⟩).stanzas,
        (Sheet.settle (n + byteLength s.chars) (line + lineBreaks s.chars)
          ⟨rest, final⟩).final⟩ := by
  simp only [Sheet.settle, settleStanzas, stanzaChars_cons, byteLength_append, lineBreaks_append,
    Nat.add_assoc]

/-- Settling a sheet settles every run. -/
theorem Each.settle {p : Sheet} (h : p.Each P)
    (hsettle : ∀ next next' n line bs, next'.map OtherBlock.body = next.map OtherBlock.body →
      P next bs → Q next' (settleImports n line bs)) (n line : Nat) :
    (p.settle n line).Each Q := by
  obtain ⟨stanzas, final⟩ := p
  induction stanzas generalizing n line with
  | nil => exact ⟨fun s hs => (List.not_mem_nil hs).elim, hsettle none none _ _ _ rfl h.final⟩
  | cons s rest ih =>
    obtain ⟨hs, hrest⟩ := each_cons.1 h
    rw [settle_cons]
    exact each_cons.2 ⟨hsettle (some s.other) _ _ _ _ rfl hs, ih _ _ hrest⟩

end Sheet

/-! ## Lines on a settled page -/

/-- The lines of settled imports are those on which their texts lie. -/
theorem lined_settleImports (n line : Nat) (bs : List ImportBlock) :
    Lined line (settleImports n line bs) := by
  induction bs generalizing n line with
  | nil => trivial
  | cons b rest ih => exact ⟨rfl, rfl, ih _ _⟩

/-- Settling moves no text, it only corrects what is said about the places. -/
theorem importChars_settleImports (n line : Nat) (bs : List ImportBlock) :
    importChars (settleImports n line bs) = importChars bs := by
  induction bs generalizing n line with
  | nil => rfl
  | cons b rest ih =>
    rw [settleImports, importChars_cons, importChars_cons, ih]
    rfl

/-- On a settled sheet every run is lined, up to and including the statement after
it. -/
theorem linedUpTo_settle (n line : Nat) (p : Sheet) : (p.settle n line).Each LinedUpTo := by
  obtain ⟨stanzas, final⟩ := p
  induction stanzas generalizing n line with
  | nil =>
    exact ⟨fun s hs => (List.not_mem_nil hs).elim, _, lined_settleImports ..,
      fun o ho => nomatch ho⟩
  | cons s rest ih =>
    rw [Sheet.settle_cons]
    refine Sheet.each_cons.2 ⟨⟨line, lined_settleImports .., fun o ho => ?_⟩, ih _ _⟩
    obtain rfl := Option.some.inj ho
    rw [Stanza.settle, importChars_settleImports]
    rfl

/-- The lines of a settled sheet are lines of its text. -/
theorem lines_settle {n line m : Nat} {p : Sheet} {s : Statement}
    (hs : s ∈ (p.settle n line).place m) :
    s.startLine ≤ line + lineBreaks p.chars ∧ s.endLine ≤ line + lineBreaks p.chars := by
  induction p using Sheet.blockInduction generalizing n line m with
  | empty => cases hs
  | consImport b p ih =>
    rw [Sheet.settle_consImport, Sheet.place_consImport] at hs
    rw [Sheet.chars_consImport, lineBreaks_append, ImportBlock.chars, lineBreaks_append]
    rcases List.mem_cons.1 hs with rfl | hs
    · simp only [Statement.startLine, Statement.endLine, ImportBlock.settle, ImportDecl.shift,
        ImportDecl.mapSpans]
      omega
    · have := ih hs
      rw [ImportBlock.chars, lineBreaks_append] at this
      omega
  | consOther o p ih =>
    rw [Sheet.settle_consOther, Sheet.place_consOther] at hs
    rw [Sheet.chars_consOther, lineBreaks_append, OtherBlock.chars, lineBreaks_append]
    rcases List.mem_cons.1 hs with rfl | hs
    · simp only [OtherBlock.settle, OtherBlock.place, Statement.startLine, Statement.endLine]
      omega
    · have := ih hs
      rw [OtherBlock.chars, lineBreaks_append] at this
      omega

/-- Settling a sheet twice is settling it once: the second time the places are right
already. -/
theorem Sheet.settle_settle (n line : Nat) (p : Sheet) :
    (p.settle n line).settle n line = p.settle n line := by
  induction p using Sheet.blockInduction generalizing n line with
  | empty => rfl
  | consImport b p ih =>
    rw [settle_consImport, settle_consImport]
    exact congrArg _ (ih _ _)
  | consOther o p ih =>
    rw [settle_consOther, settle_consOther]
    exact congrArg _ (ih _ _)

theorem Page.settled_settled (p : Page) : p.settled.settled = p.settled := by
  rw [Page.settled, Page.settled, Sheet.settle_settle]

/-! ## Pages that are read -/

/-- A run whose blocks describe their bodies, with lists in one piece, and the statement
after it. -/
def SoundRun (next : Option OtherBlock) (bs : List ImportBlock) : Prop :=
  (∀ b ∈ bs, b.Proper ∧ NamedTogether b.decl) ∧
    ∀ body, next.map OtherBlock.body = some body → body ≠ []

/-- A sheet of sound runs is proper, since soundness says more of each block. -/
theorem Sheet.Each.proper {p : Sheet} (h : p.Each SoundRun) : p.Proper :=
  ⟨fun s hs => ⟨fun b hb => ((h.stanzas s hs).1 b hb).1, (h.stanzas s hs).2 _ rfl⟩,
    fun b hb => (h.final.1 b hb).1⟩

/-- A page as it is read from a text. -/
structure Page.Read (p : Page) : Prop where
  /-- the blocks describe their bodies -/
  sound : p.sheet.Each SoundRun
  /-- the lines are counted, and so are the places -/
  settled : p.settled = p

theorem Page.Read.proper {p : Page} (h : p.Read) : p.Proper := h.sound.proper

/-- A text has one line more than it has line breaks, before the blocks and in them. -/
theorem lineCount_text (p : Page) :
    lineCount p.text = 1 + lineBreaks p.lead + lineBreaks p.sheet.chars := by
  rw [lineCount, Page.toList_text, lineBreaks_append, Nat.add_assoc]

/-- The lines of a page that is read can be counted if those of its text can, because
each block lies on the lines that it claims. -/
theorem Page.Read.inRange {p : Page} (h : p.Read) (hlines : lineCount p.text < 2 ^ 32 - 1) :
    p.sheet.InRange := by
  refine inRange_of_place (n := byteLength p.lead) fun s hs => ?_
  rw [← h.settled] at hs
  have := lines_settle hs
  have := lineCount_text p
  rw [lineBound]
  omega

/-- A page that is read consists of runs that are read. -/
theorem Page.Read.runs {p : Page} (h : p.Read) (hlines : lineCount p.text < 2 ^ 32 - 1) :
    p.sheet.Each ReadRun := by
  have hrange := h.inRange hlines
  have hlined : p.sheet.Each LinedUpTo := by
    have := linedUpTo_settle (byteLength p.lead) (1 + lineBreaks p.lead) p.sheet
    rw [← congrArg Page.sheet h.settled]
    exact this
  refine ⟨fun s hs => ?_, ?_⟩
  · obtain ⟨hsound, -⟩ := h.sound.stanzas s hs
    exact ⟨fun b hb => (hsound b hb).1, fun b hb => (hsound b hb).2, hrange.stanzas s hs,
      hlined.stanzas s hs⟩
  · obtain ⟨hsound, -⟩ := h.sound.final
    exact ⟨fun b hb => (hsound b hb).1, fun b hb => (hsound b hb).2, hrange.final, hlined.final⟩

/-- Cutting the text of a page along its statements gives the page back. -/
theorem Page.Read.cut_eq {p : Page} (h : p.Read) : Page.cut p.text p.statements = p := by
  have hcut := Page.cut_settled h.proper
  rwa [h.settled] at hcut

/-! ## Pages stay sound -/

/-- A block that describes its body, with its list in one piece. -/
def Block.Sound : Block → Prop
  | .imported b => b.Proper ∧ NamedTogether b.decl
  | .other o => o.body ≠ []

/-- That all runs are sound is a matter of the blocks alone, however they are grouped
into runs. -/
theorem Sheet.each_soundRun {p : Sheet} : p.Each SoundRun ↔ ∀ x ∈ p.blocks, x.Sound := by
  obtain ⟨stanzas, final⟩ := p
  induction stanzas with
  | nil =>
    rw [Sheet.blocks_nil, List.forall_mem_map]
    exact ⟨fun h => h.final.1, fun h => ⟨nofun, h, nofun⟩⟩
  | cons s rest ih =>
    rw [each_cons, Sheet.blocks_cons, List.forall_mem_append, List.forall_mem_map,
      List.forall_mem_cons, ← ih]
    constructor
    · rintro ⟨⟨himports, hother⟩, hrest⟩
      exact ⟨himports, hother _ rfl, hrest⟩
    · rintro ⟨himports, hother, hrest⟩
      exact ⟨⟨himports, fun body hbody => Option.some.inj hbody ▸ hother⟩, hrest⟩

/-- A settled import is one of the imports, put at some place and line. -/
theorem mem_settleImports {n line : Nat} {bs : List ImportBlock} {x : ImportBlock}
    (h : x ∈ settleImports n line bs) : ∃ b ∈ bs, ∃ m l, x = b.settle m l := by
  induction bs generalizing n line with
  | nil => cases h
  | cons b rest ih =>
    rcases List.mem_cons.1 h with rfl | h
    · exact ⟨b, List.mem_cons_self, n, line, rfl⟩
    · obtain ⟨c, hc, hx⟩ := ih h
      exact ⟨c, List.mem_cons_of_mem b hc, hx⟩

/-- **Settling makes a page readable**: sound runs are all that is needed, since the
places are right afterwards. -/
theorem Page.read_settled {p : Page} (h : p.sheet.Each SoundRun) : p.settled.Read := by
  refine ⟨h.settle (fun next next' n line bs hnext hsound => ⟨fun x hx => ?_, ?_⟩) _ _,
    p.settled_settled⟩
  · obtain ⟨b, hb, m, l, rfl⟩ := mem_settleImports hx
    obtain ⟨hproper, htogether⟩ := hsound.1 b hb
    exact ⟨⟨hproper.span, hproper.body, hproper.specifiers⟩, htogether⟩
  · rw [hnext]
    exact hsound.2

/-- **A pass leaves a sound page.** -/
theorem sound_pass {p : Page} (h : p.sheet.Each SoundRun) (rule : Rule) :
    (p.pass rule).sheet.Each SoundRun := by
  unfold Page.pass
  split
  · next hlate =>
    rw [Page.lifted, Sheet.each_soundRun, Sheet.blocks_ofBlocks]
    refine forall_mem_liftBlocks (fun x more hx => ?_) (fun b gap hb => ?_)
      (Sheet.each_soundRun.1 h) hlate.2
    · cases x with
      | imported b => exact ⟨hx.1.of_bare rfl, hx.2⟩
      | other o => exact hx
    · exact ⟨hb.1.of_bare rfl, hb.2⟩
  · refine Sheet.Each.tidy h fun next bs hsound => ⟨fun x hx => ?_, hsound.2⟩
    exact sound_tidyRun (fun b hb => (hsound.1 b hb).1) (fun b hb => (hsound.1 b hb).2) hx

/-! ## The page of a module -/

/-- Where an import stands has no bearing on whether its list is in one piece. -/
theorem namedTogether_shift {n : Nat} {d : ImportDecl} (h : NamedTogether (d.shift n)) :
    NamedTogether d := by
  simp only [NamedTogether, ImportDecl.shift, ImportDecl.mapSpans, List.dropWhile_map,
    Function.comp_def] at h
  exact fun s hs => h { s with span := s.span.shift n } (List.mem_map_of_mem hs)

/-- If the lists of all imports of a module are in one piece, so are those of the blocks
into which it was cut. -/
theorem together_of_place {n : Nat} {xs : List Block}
    (h : ∀ d ∈ (placeBlocks n xs).filterMap Statement.decl?, NamedTogether d) {b : ImportBlock}
    (hb : .imported b ∈ xs) : NamedTogether b.decl := by
  induction xs generalizing n with
  | nil => cases hb
  | cons x xs ih =>
    cases x with
    | imported c =>
      obtain ⟨hc, hlater⟩ := List.forall_mem_cons.1 h
      rcases List.mem_cons.1 hb with heq | hb
      · obtain rfl := Block.imported.inj heq
        exact namedTogether_shift hc
      · exact ih hlater hb
    | other o =>
      rcases List.mem_cons.1 hb with heq | hb
      · cases heq
      · exact ih h hb

/-- The page of a module is sound if its lists are in one piece. -/
theorem Page.sound_cut {text : String} {ss : List Statement} (hordered : DocumentOrdered text ss)
    (htogether : ∀ d ∈ ss.filterMap Statement.decl?, NamedTogether d) :
    (Page.cut text ss).sheet.Each SoundRun := by
  obtain ⟨-, hstatements, hproper⟩ := Page.cut_spec hordered
  have hplaced :
      placeBlocks (byteLength (Page.cut text ss).lead) (Page.cut text ss).sheet.blocks = ss := by
    rw [← Sheet.place_eq]
    exact hstatements
  refine Sheet.each_soundRun.2 fun x hx => ?_
  have hx' := Sheet.proper_iff.1 hproper x hx
  cases x with
  | imported b => exact ⟨hx', together_of_place (hplaced.symm ▸ htogether) hx⟩
  | other o => exact hx'

/-! ## Late imports -/

/-- The number of marks after the first place without one. -/
def lateMarks (marks : List Bool) : Nat := ((marks.dropWhile id).filter id).length

/-- Late blocks are counted by looking only at which blocks are imports. -/
theorem lateBlocks_eq (xs : List Block) : lateBlocks xs = lateMarks (xs.map Block.isImport) := by
  rw [lateBlocks, lateMarks, List.dropWhile_map, List.filter_map, List.length_map]
  rfl

/-- Late statements are counted by looking only at which statements are imports. -/
theorem lateCount_eq (ss : List Statement) :
    lateCount ss = lateMarks (ss.map Statement.isImport) := by
  rw [lateCount, lateMarks, List.dropWhile_map, List.filter_map, List.length_map]
  rfl

/-- Placing blocks keeps the kinds of statements in their order. -/
theorem isImport_placeBlocks (n : Nat) (xs : List Block) :
    (placeBlocks n xs).map Statement.isImport = xs.map Block.isImport := by
  induction xs generalizing n with
  | nil => rfl
  | cons x xs ih => rw [placeBlocks, List.map_cons, ih, Block.isImport_place, List.map_cons]

/-- As many late imports as there are among the blocks. -/
theorem lateCount_statements (p : Page) : lateCount p.statements = lateBlocks p.sheet.blocks := by
  rw [Page.statements, Sheet.place_eq, lateCount_eq, isImport_placeBlocks, lateBlocks_eq]

theorem isImport_imports (bs : List ImportBlock) :
    (bs.map Block.imported).map Block.isImport = List.replicate bs.length true := by
  rw [List.map_map, ← List.map_const']
  rfl

theorem length_tidyRun (rule : Rule) (next : Option OtherBlock) (bs : List ImportBlock) :
    (tidyRun rule next bs).length = bs.length := by
  have hlength : ∀ {as : List ImportBlock}, (as.map fun _ => ()).length = as.length :=
    List.length_map ..
  unfold tidyRun
  split
  · rw [← hlength, (rearranged_perm (fun _ _ => rfl) rule bs).length_eq, hlength]
  · rw [← hlength, padded_map (fun _ _ => rfl), hlength, List.length_map]

/-- Tidying a sheet keeps the kinds of blocks in their order, because imports are
exchanged only within their run. -/
theorem isImport_tidy (rule : Rule) (p : Sheet) :
    (p.tidy rule).blocks.map Block.isImport = p.blocks.map Block.isImport := by
  obtain ⟨stanzas, final⟩ := p
  induction stanzas with
  | nil =>
    rw [Sheet.blocks_tidy_nil, Sheet.blocks_nil, isImport_imports, isImport_imports, length_tidyRun]
  | cons s rest ih =>
    rw [Sheet.blocks_tidy_cons, Sheet.blocks_cons, List.map_append, List.map_append, List.map_cons,
      List.map_cons, ih, isImport_imports, isImport_imports, length_tidyRun]

/-- What does not look at places and lines does not notice that a sheet is settled. -/
theorem map_settle {β : Type} {f : Block → β}
    (himport : ∀ b n line, f (.imported (b.settle n line)) = f (.imported b))
    (hother : ∀ o n line, f (.other (o.settle n line)) = f (.other o)) (n line : Nat) (p : Sheet) :
    (p.settle n line).blocks.map f = p.blocks.map f := by
  induction p using Sheet.blockInduction generalizing n line with
  | empty => rfl
  | consImport b p ih =>
    rw [Sheet.settle_consImport, Sheet.blocks_consImport, Sheet.blocks_consImport, List.map_cons,
      List.map_cons, ih, himport]
  | consOther o p ih =>
    rw [Sheet.settle_consOther, Sheet.blocks_consOther, Sheet.blocks_consOther, List.map_cons,
      List.map_cons, ih, hother]

/-- The number of late imports that the rule minds. -/
def Page.lateness (rule : Rule) (p : Page) : Nat :=
  if rule.importsAtStart then lateBlocks p.sheet.blocks else 0

/-- A page is late exactly if it has a late import and the rule minds. -/
theorem Page.late_iff {rule : Rule} {p : Page} : p.Late rule ↔ p.lateness rule ≠ 0 := by
  rw [Page.Late, Page.lateness]
  cases rule.importsAtStart <;> simp

/-- Settling a page makes no import late or early. -/
theorem Page.lateness_settled (rule : Rule) (p : Page) :
    p.settled.lateness rule = p.lateness rule := by
  rw [Page.lateness, Page.lateness, lateBlocks_eq, lateBlocks_eq, Page.settled,
    map_settle (fun _ _ _ => rfl) fun _ _ _ => rfl]

/-- Tidying the runs of a page makes no import late or early, so the passes that tidy
cannot undo those that lift. -/
theorem Page.lateness_tidy (rule : Rule) (p : Page) :
    (p.tidy rule).lateness rule = p.lateness rule := by
  rw [Page.lateness, Page.lateness, lateBlocks_eq, lateBlocks_eq, Page.tidy, isImport_tidy]

/-- **A pass lifts one late import**, if there is one. -/
theorem Page.lateness_pass (rule : Rule) (p : Page) :
    (p.pass rule).settled.lateness rule = p.lateness rule - 1 := by
  rw [Page.lateness_settled, Page.pass]
  split
  · next hlate =>
    have hlifted := lateBlocks_liftBlocks hlate.2
    rw [Page.lateness, Page.lateness, if_pos hlate.1, if_pos hlate.1, Page.lifted,
      Sheet.blocks_ofBlocks]
    omega
  · next hlate =>
    rw [Page.lateness_tidy]
    have : p.lateness rule = 0 :=
      Nat.eq_zero_of_not_pos fun hpos => hlate (Page.late_iff.2 (Nat.ne_of_gt hpos))
    omega

/-! ## Counting the passes -/

/-- The order of imports does not depend on where they stand. -/
theorem inOrder_settleImports {rule : Rule} {n line : Nat} {bs : List ImportBlock} :
    InOrder rule (settleImports n line bs) ↔ InOrder rule bs := by
  refine inOrder_congr ?_
  induction bs generalizing n line with
  | nil => rfl
  | cons b rest ih =>
    rw [settleImports, List.map_cons, List.map_cons, ih]
    rfl

/-- The text after the last import of a run stays what it is when the run is settled. -/
theorem lastGap_settleImports (n line : Nat) (bs : List ImportBlock) :
    lastGap (settleImports n line bs) = lastGap bs := by
  induction bs generalizing n line with
  | nil => rfl
  | cons b rest ih =>
    cases rest with
    | nil => rfl
    | cons c rest => exact ih _ _

/-- Settling a clean run leaves it clean. -/
theorem CleanRun.settle {rule : Rule} {next next' : Option OtherBlock} {bs : List ImportBlock}
    (h : CleanRun rule next bs) (hnext : next'.map OtherBlock.body = next.map OtherBlock.body)
    (n line : Nat) :
    CleanRun rule next' (settleImports n line bs) := by
  refine ⟨inOrder_settleImports.2 h.order, fun x hx => ?_, fun hrule hsome hne => ?_⟩
  · obtain ⟨b, hb, m, l, rfl⟩ := mem_settleImports hx
    exact h.lists b hb
  · have hsome' : next.isSome = true := by
      rw [← Option.isSome_map, ← hnext, Option.isSome_map, hsome]
    rw [lastGap_settleImports]
    exact h.spacing hrule hsome' fun hnil => hne (by rw [hnil]; rfl)

/-- A number of passes that is enough: none for a clean page, one if its runs are in
order, two if no import is late, and one more for each late import. -/
def Page.Within (rule : Rule) (p : Page) : Nat → Prop
  | 0 => p.lateness rule = 0 ∧ p.sheet.Each (CleanRun rule)
  | 1 => p.lateness rule = 0 ∧ p.sheet.Each fun _ bs => InOrder rule bs
  | k + 2 => p.lateness rule ≤ k

/-- **A pass uses up one of the passes that are enough.** Where imports are late, a pass
lifts one of them. Where none is, it makes the runs tidy: those that were not in order
are in order afterwards, and those that were in order are clean. -/
theorem Page.Read.within_pass {rule : Rule} {p : Page} {k : Nat} (hread : p.Read)
    (hlines : lineCount p.text < 2 ^ 32 - 1) (h : p.Within rule (k + 1)) :
    (p.pass rule).settled.Within rule k := by
  have hruns := hread.runs hlines
  have hlateness := p.lateness_pass rule
  have htidy : p.lateness rule = 0 → p.pass rule = p.tidy rule := fun hzero =>
    if_neg fun hlate => Page.late_iff.1 hlate hzero
  match k with
  | 0 =>
    obtain ⟨hzero, horder⟩ := h
    refine ⟨by rw [hlateness, hzero], ?_⟩
    rw [htidy hzero]
    have hclean : (p.sheet.tidy rule).Each (CleanRun rule) :=
      (hruns.and horder).tidy fun next bs hrun => clean_tidyRun hrun.1 hrun.2
    exact hclean.settle (fun next next' n line bs hnext hrun => hrun.settle hnext n line) _ _
  | 1 =>
    have hzero : p.lateness rule = 0 := Nat.le_zero.1 h
    refine ⟨by rw [hlateness, hzero], ?_⟩
    rw [htidy hzero]
    have horder : (p.sheet.tidy rule).Each fun _ bs => InOrder rule bs :=
      hruns.tidy fun next bs hrun => inOrder_tidyRun hrun rule
    exact horder.settle (fun _ _ _ _ _ _ hrun => inOrder_settleImports.2 hrun) _ _
  | k + 2 =>
    have hlate : p.lateness rule ≤ k + 1 := h
    have : (p.pass rule).settled.lateness rule ≤ k := by omega
    exact this

/-- A sheet has nothing to report if none of its runs has, wherever they start. -/
theorem diagnostics_eq_nil {rule : Rule} {p : Sheet}
    (h : p.Each fun next bs => ∀ n, diagnosticsAt rule next n bs = []) (n : Nat) :
    p.diagnostics rule n = [] := by
  obtain ⟨stanzas, final⟩ := p
  induction stanzas generalizing n with
  | nil => exact h.final n
  | cons s rest ih =>
    obtain ⟨hs, hrest⟩ := Sheet.each_cons.1 h
    exact List.append_eq_nil_iff.2 ⟨hs n, ih _ hrest⟩

/-- **A check of a clean page finds nothing.** -/
theorem Page.Read.check_clean {rule : Rule} {p : Page} (hread : p.Read)
    (hlines : lineCount p.text < 2 ^ 32 - 1) (h : p.Within rule 0) :
    check p.text rule p.statements = .ok [] := by
  obtain ⟨hzero, hclean⟩ := h
  have hlate : ¬ p.Late rule := fun hlate => Page.late_iff.1 hlate hzero
  rw [check_tidy hread.proper (hread.inRange hlines) hlate]
  refine congrArg _ (diagnostics_eq_nil (((hread.runs hlines).and hclean).imp ?_) _)
  exact fun next bs hrun n => hrun.2.diagnosticsAt_eq_nil hrun.1 n

end ImportOrder

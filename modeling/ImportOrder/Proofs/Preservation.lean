import ImportOrder.Proofs.Respacing

/-!
# No statement is lost

The fixes of one check turn the text of a document-ordered module into another one that
is made up of pieces of the same statements, and nothing else:

* the text of a statement is what it was, except that an import whose braced list is put
  into order has just that fix applied (`Written`);
* the text between statements is what it was, except where imports were put into a new
  order, where line breaks were added after a run, and around an import that was lifted
  (`Respaced`, `Lifted`).

The other statements stay in their order.
-/

namespace ImportOrder

/-! ## What may become of a statement -/

/-- A check offers this fix for the braced list of the statement. -/
def ListFixKept (ds : List Diagnostic) (s : Statement) (f : Fix) : Prop :=
  s.isImport = true ∧ ∃ d ∈ ds, d.problem = .specifierOrder ∧ d.anchor = s.span ∧ d.fix = some f

/-- The fix as it looks from an offset before it. -/
def Fix.lower (n : Nat) (f : Fix) : Fix := { f with span := f.span.lower n }

/-- The text `new` is what stands for a statement after the check, if `old` was before:
the same, or with the fix for its braced list applied. -/
structure Written (ds : List Diagnostic) (s : Statement) (old new : List Char) : Prop where
  /-- nothing changes without a fix -/
  same : (∀ f, ¬ ListFixKept ds s f) → new = old
  /-- the fix is applied, and no other one -/
  sorted : ∀ f, ListFixKept ds s f →
    Fix.applyAll (String.ofList old) [f.lower s.span.start] = .ok (String.ofList new)


/-! ## Where problems are reported -/

/-- At most one problem is found at one block, and wherever the block stands it is the
same one. -/
theorem ImportBlock.listFinding_cases (rule : Rule) (b : ImportBlock) :
    (∀ n, b.listFinding rule n = []) ∨
      ∃ fix : Fix, ∀ n, b.listFinding rule n =
        [⟨.specifierOrder, b.decl.shift n, fix.shift n⟩] := by
  unfold ImportBlock.listFinding
  split
  · cases b.listFix rule.ignoreCase with
    | none => exact .inl fun _ => rfl
    | some fix => exact .inr ⟨fix, fun _ => rfl⟩
  · exact .inl fun _ => rfl

/-- What is found in a list is reported at its import. -/
theorem decl_listFinding {rule : Rule} {n : Nat} {b : ImportBlock} {f : Finding}
    (h : f ∈ b.listFinding rule n) :
    f.decl = b.decl.shift n := by
  rcases b.listFinding_cases rule with hnone | ⟨fix, hfix⟩
  · rw [hnone] at h
    cases h
  · rw [hfix] at h
    obtain rfl := List.mem_singleton.1 h
    rfl

theorem decl_listFindings {rule : Rule} {n : Nat} {bs : List ImportBlock} {f : Finding}
    (h : f ∈ listFindings rule n bs) : f.decl ∈ placeImports n bs := by
  induction bs generalizing n with
  | nil => cases h
  | cons b rest ih =>
    rw [placeImports]
    rcases List.mem_append.1 h with h | h
    · rw [decl_listFinding h]
      exact List.mem_cons_self
    · exact List.mem_cons_of_mem _ (ih h)

theorem decl_trailingAt {rule : Rule} {next : Option OtherBlock} {n : Nat} {bs : List ImportBlock}
    {f : Finding} (h : f ∈ trailingAt rule next n bs) : f.decl ∈ placeImports n bs := by
  unfold trailingAt at h
  split at h
  · next hlast _ =>
    obtain rfl := List.mem_singleton.1 h
    exact List.mem_of_getLast? hlast
  · cases h

theorem problem_trailingAt {rule : Rule} {next : Option OtherBlock} {n : Nat}
    {bs : List ImportBlock} {f : Finding} (h : f ∈ trailingAt rule next n bs) :
    f.problem ≠ .specifierOrder := by
  unfold trailingAt at h
  split at h
  · obtain rfl := List.mem_singleton.1 h
    exact fun hproblem => nomatch hproblem
  · cases h

/-- What is reported of a run is reported at one of its imports. -/
theorem anchor_diagnosticsAt {rule : Rule} {next : Option OtherBlock} {n : Nat}
    {bs : List ImportBlock} {d : Diagnostic} (h : d ∈ diagnosticsAt rule next n bs) :
    ∃ decl ∈ placeImports n bs, d.anchor = decl.span := by
  cases hcause : violation? rule bs with
  | none =>
    rw [diagnosticsAt_of_none hcause] at h
    obtain ⟨f, hf, rfl⟩ := List.mem_map.1 h
    rcases List.mem_append.1 hf with hf | hf
    · exact ⟨f.decl, decl_listFindings hf, rfl⟩
    · exact ⟨f.decl, decl_trailingAt hf, rfl⟩
  | some cause =>
    obtain _ | ⟨b, rest⟩ := bs
    · cases hcause
    rw [diagnosticsAt_of_some hcause] at h
    rcases List.mem_cons.1 h with rfl | h
    · exact ⟨_, List.mem_cons_self, rfl⟩
    · obtain ⟨f, hf, rfl⟩ := List.mem_map.1 h
      exact ⟨f.decl, decl_listFindings hf, rfl⟩

/-- Where the statements of a sheet start. -/
theorem start_of_mem_place {p : Sheet} (h : p.Proper) {n : Nat} {s : Statement}
    (hs : s ∈ p.place n) :
    n ≤ s.span.start ∧ s.span.start < n + byteLength p.chars := by
  induction p using Sheet.blockInduction generalizing n with
  | empty => cases hs
  | consImport b p ih =>
    obtain ⟨hb, hp⟩ := Sheet.proper_consImport.1 h
    have hpos := byteLength_pos hb.body
    rw [Sheet.chars_consImport, ImportBlock.chars, byteLength_append, byteLength_append]
    rw [Sheet.place_consImport, ImportBlock.chars, byteLength_append] at hs
    rcases List.mem_cons.1 hs with rfl | hs
    · simp only [Statement.span, hb.span_shift]
      omega
    · have := ih hp hs
      omega
  | consOther o p ih =>
    obtain ⟨ho, hp⟩ := Sheet.proper_consOther.1 h
    have hpos := byteLength_pos ho
    rw [Sheet.chars_consOther, OtherBlock.chars, byteLength_append, byteLength_append]
    rw [Sheet.place_consOther, OtherBlock.chars, byteLength_append] at hs
    rcases List.mem_cons.1 hs with rfl | hs
    · simp only [OtherBlock.span_place]
      omega
    · have := ih hp hs
      omega

/-- The imports of a run start within its text. -/
theorem start_placeImports {bs : List ImportBlock} (h : ∀ b ∈ bs, b.Proper) {n : Nat}
    {d : ImportDecl} (hd : d ∈ placeImports n bs) :
    n ≤ d.span.start ∧ d.span.start < n + byteLength (importChars bs) :=
  start_of_mem_place (p := ⟨[], bs⟩) ⟨nofun, h⟩ (List.mem_map_of_mem hd)

/-- Where the blocks of a sheet started. -/
theorem start_origin {p : Sheet} (h : p.Proper) {n : Nat} (horigin : p.Remembers n) {x : Block}
    (hx : x ∈ p.blocks) :
    n ≤ x.origin.span.start ∧ x.origin.span.start < n + byteLength p.chars := by
  have hmem : x.origin ∈ p.blocks.map Block.origin := List.mem_map_of_mem hx
  rw [horigin] at hmem
  exact start_of_mem_place h hmem

/-- If the blocks of a run remember where they stand, the statements they come from
start within its text. -/
theorem start_importOrigin {bs : List ImportBlock} (h : ∀ b ∈ bs, b.Proper) {n : Nat}
    (horigin : Remembers n bs) {b : ImportBlock} (hb : b ∈ bs) :
    n ≤ b.origin.span.start ∧ b.origin.span.start < n + byteLength (importChars bs) :=
  start_origin (p := ⟨[], bs⟩) ⟨nofun, h⟩ (Sheet.remembers_nil.2 horigin)
    (List.mem_append_right [] (List.mem_map_of_mem hb))

/-! ## The texts of statements -/

/-- More diagnostics make no difference, if they are about other statements. -/
theorem Written.extend {ds es : List Diagnostic} {s : Statement} {old new : List Char}
    (h : Written ds s old new) (hsub : ds ⊆ es)
    (hfar : ∀ d ∈ es, d ∈ ds ∨ d.problem ≠ .specifierOrder ∨ d.anchor.start ≠ s.span.start) :
    Written es s old new := by
  have hiff : ∀ f, ListFixKept es s f ↔ ListFixKept ds s f := by
    intro f
    constructor
    · rintro ⟨himport, d, hd, hproblem, hanchor, hfix⟩
      rcases hfar d hd with hd | hother | hother
      · exact ⟨himport, d, hd, hproblem, hanchor, hfix⟩
      · exact absurd hproblem hother
      · exact absurd (congrArg Span.start hanchor) hother
    · rintro ⟨himport, d, hd, hrest⟩
      exact ⟨himport, d, hsub hd, hrest⟩
  exact ⟨fun hnone => h.same fun f hf => hnone f ((hiff f).2 hf),
    fun f hf => h.sorted f ((hiff f).1 hf)⟩

/-- Without a fix for a braced list, all statements stay as they are. -/
theorem written_of_no_listFix {ds : List Diagnostic}
    (h : ∀ d ∈ ds, d.problem = .specifierOrder → d.fix = none) (s : Statement) (text : List Char) :
    Written ds s text text where
  same := fun _ => rfl
  sorted := by
    rintro f ⟨-, d, hd, hproblem, -, hfix⟩
    rw [h d hd hproblem] at hfix
    cases hfix

theorem Fix.lower_shift (n : Nat) (f : Fix) : (f.shift n).lower n = f := by
  rw [Fix.lower, Fix.shift, Span.lower_shift]

theorem Fix.shift_zero (f : Fix) : f.shift 0 = f := by
  simp only [Fix.shift, Span.shift, Nat.zero_add]

/-- The list of one import is sorted by the fix for it. -/
theorem ImportBlock.written_mended {b : ImportBlock} (h : b.Proper) {n : Nat}
    (horigin : b.origin = .importDecl (b.decl.shift n)) (rule : Rule) :
    Written ((b.listFinding rule n).map (·.report true)) b.origin b.body (b.mended rule).body := by
  have hstart : b.origin.span.start = n := by
    rw [horigin]
    exact congrArg Span.start (h.span_shift n)
  have hrewrites := b.rewrites_mended h rule
  rcases b.listFinding_cases rule with hnone | ⟨fix, hfix⟩
  · simp only [hnone, List.map_nil] at hrewrites ⊢
    have hsame : (b.mended rule).body = b.body := by
      have happly := hrewrites.applyAll List.Pairwise.nil
      have hkeep := (Rewrites.keep b.body).applyAll List.Pairwise.nil
      exact String.ofList_inj.1 (Except.ok.inj (happly.symm.trans hkeep))
    rw [hsame]
    exact written_of_no_listFix (fun d hd => (List.not_mem_nil hd).elim) b.origin b.body
  · simp only [hfix, List.map_cons, List.map_nil] at hrewrites ⊢
    have happly := hrewrites.applyAll (List.pairwise_singleton ..)
    refine ⟨fun hnot => ?_, ?_⟩
    · refine absurd ⟨?_, _, List.mem_singleton_self _, rfl, ?_, rfl⟩ (hnot (fix.shift n))
      · rw [horigin]
        rfl
      · rw [horigin]
        rfl
    · rintro f ⟨-, d, hd, -, -, hf⟩
      obtain rfl := List.mem_singleton.1 hd
      obtain rfl := Option.some.inj hf
      rw [hstart, Fix.lower_shift]
      rw [Fix.shift_zero] at happly
      exact happly

/-- The lists of a run are sorted by the fixes for them. A fix is found by where
its import starts, and the lists of other imports are reported elsewhere. -/
theorem written_lists {bs : List ImportBlock} (h : ∀ b ∈ bs, b.Proper) {n : Nat}
    (horigin : Remembers n bs) (rule : Rule) : ∀ b ∈ bs,
      Written ((listFindings rule n bs).map (·.report true)) b.origin b.body
        (b.mended rule).body := by
  induction bs generalizing n with
  | nil => exact fun b hb => (List.not_mem_nil hb).elim
  | cons b rest ih =>
    obtain ⟨hb, hrest⟩ := List.forall_mem_cons.1 h
    obtain ⟨hhere, hlater⟩ := List.cons.inj horigin
    rw [listFindings, List.map_append]
    have hpos : 0 < byteLength b.chars := by
      have := byteLength_pos hb.body
      rw [ImportBlock.chars, byteLength_append]
      omega
    refine List.forall_mem_cons.2 ⟨?_, fun c hc => ?_⟩
    · refine (b.written_mended hb hhere rule).extend (List.subset_append_left ..) fun d hd => ?_
      refine (List.mem_append.1 hd).imp_right fun hd => .inr ?_
      obtain ⟨f, hf, rfl⟩ := List.mem_map.1 hd
      have := start_placeImports hrest (decl_listFindings hf)
      rw [hhere]
      simp only [Finding.report, Statement.span, hb.span_shift]
      omega
    · refine (ih hrest hlater c hc).extend (List.subset_append_right ..) fun d hd => ?_
      refine (List.mem_append.1 hd).symm.imp_right fun hd => .inr ?_
      obtain ⟨f, hf, rfl⟩ := List.mem_map.1 hd
      have := start_importOrigin hrest hlater hc
      simp only [Finding.report, decl_listFinding hf, hb.span_shift]
      omega

/-- The block stands for one of the given ones, with the text that the check leaves
it. -/
def Block.WrittenFrom (ds : List Diagnostic) (xs : List Block) (x : Block) : Prop :=
  ∃ y ∈ xs, x.origin = y.origin ∧ Written ds y.origin y.body x.body

/-- **What becomes of the imports of a run.** -/
theorem writtenFrom_tidyRun {bs : List ImportBlock} (h : ∀ b ∈ bs, b.Proper) {n : Nat}
    (horigin : Remembers n bs) (rule : Rule) (next : Option OtherBlock) {x : ImportBlock}
    (hx : x ∈ tidyRun rule next bs) :
    Block.WrittenFrom (diagnosticsAt rule next n bs) (bs.map .imported) (.imported x) := by
  cases hcause : violation? rule bs with
  | none =>
    obtain ⟨y, hy, hbare⟩ := exists_bare_of_none hcause hx
    obtain ⟨hstatement, -, hbody⟩ := ImportBlock.eq_of_bare hbare
    refine ⟨.imported y, List.mem_map_of_mem hy, hstatement.symm.trans (y.mended_origin rule), ?_⟩
    simp only [Block.origin, Block.body]
    rw [← hbody, diagnosticsAt_of_none hcause, List.map_append]
    refine (written_lists h horigin rule y hy).extend (List.subset_append_left ..) fun d hd => ?_
    refine (List.mem_append.1 hd).imp_right fun hd => .inl ?_
    obtain ⟨f, hf, rfl⟩ := List.mem_map.1 hd
    exact problem_trailingAt hf
  | some cause =>
    obtain ⟨y, hy, hbare⟩ := exists_bare_of_some hcause hx
    obtain ⟨hstatement, -, hbody⟩ := ImportBlock.eq_of_bare hbare
    obtain _ | ⟨b, rest⟩ := bs
    · cases hcause
    refine ⟨.imported y, List.mem_map_of_mem hy, hstatement.symm, ?_⟩
    simp only [Block.origin, Block.body]
    rw [← hbody, diagnosticsAt_of_some hcause]
    have horder : Problem.importOrder cause ≠ .specifierOrder := Problem.noConfusion
    refine written_of_no_listFix
      (List.forall_mem_cons.2 ⟨fun h => absurd h horder, fun d hd _ => ?_⟩) y.origin y.body
    obtain ⟨f, -, rfl⟩ := List.mem_map.1 hd
    rfl

/-- What is reported of a sheet is reported at one of its statements. -/
theorem start_diagnostics {p : Sheet} (h : p.Proper) {rule : Rule} {n : Nat} {d : Diagnostic}
    (hd : d ∈ p.diagnostics rule n) : n ≤ d.anchor.start := by
  obtain ⟨stanzas, final⟩ := p
  induction stanzas generalizing n with
  | nil =>
    obtain ⟨decl, hdecl, hanchor⟩ := anchor_diagnosticsAt hd
    rw [hanchor]
    exact (start_placeImports h.final hdecl).1
  | cons s rest ih =>
    obtain ⟨hs, hrest⟩ := List.forall_mem_cons.1 h.stanzas
    rcases List.mem_append.1 hd with hd | hd
    · obtain ⟨decl, hdecl, hanchor⟩ := anchor_diagnosticsAt hd
      rw [hanchor]
      exact (start_placeImports hs.imports hdecl).1
    · exact Nat.le_trans (Nat.le_add_right ..) (ih ⟨hrest, h.final⟩ hd)

/-- A statement that is no import stays as it is. -/
theorem written_of_other (ds : List Diagnostic) {s : Statement} (h : s.isImport = false)
    (text : List Char) :
    Written ds s text text where
  same := fun _ => rfl
  sorted := by
    rintro f ⟨himport, -⟩
    rw [h] at himport
    cases himport

/-- More blocks and diagnostics make no difference, if the diagnostics are about other
blocks. -/
theorem Block.WrittenFrom.extend {ds es : List Diagnostic} {xs ys : List Block} {x : Block}
    (h : x.WrittenFrom ds xs) (hxs : xs ⊆ ys) (hds : ds ⊆ es)
    (hfar : ∀ y ∈ xs, ∀ d ∈ es, d ∈ ds ∨ d.anchor.start ≠ y.origin.span.start) :
    x.WrittenFrom es ys := by
  obtain ⟨y, hy, horigin, hwritten⟩ := h
  exact ⟨y, hxs hy, horigin, hwritten.extend hds fun d hd => (hfar y hy d hd).imp_right .inr⟩

/-- **What becomes of the statements of a sheet.** What is reported of one stanza is
reported before the next one starts, so each statement is written by the fixes of its
own stanza. -/
theorem writtenFrom_tidy {p : Sheet} (h : p.Proper) {n : Nat} (horigin : p.Remembers n)
    (rule : Rule) :
    ∀ x ∈ (p.tidy rule).blocks, x.WrittenFrom (p.diagnostics rule n) p.blocks := by
  obtain ⟨stanzas, final⟩ := p
  induction stanzas generalizing n with
  | nil =>
    rw [Sheet.blocks_tidy_nil, Sheet.blocks_nil]
    exact List.forall_mem_map.2 fun b hb =>
      writtenFrom_tidyRun h.final (Sheet.remembers_nil.1 horigin) rule none hb
  | cons s rest ih =>
    obtain ⟨hs, hrest⟩ := List.forall_mem_cons.1 h.stanzas
    obtain ⟨hrun, hother, hlater⟩ := Sheet.remembers_cons.1 horigin
    have hlength :
        byteLength s.chars = byteLength (importChars s.imports) + byteLength s.other.chars := by
      rw [Stanza.chars, byteLength_append]
    rw [Sheet.blocks_cons, Sheet.blocks_tidy_cons]
    refine List.forall_mem_append.2 ⟨?_, List.forall_mem_cons.2 ⟨?_, ?_⟩⟩
    · refine List.forall_mem_map.2 fun b hb => ?_
      refine (writtenFrom_tidyRun hs.imports hrun rule _ hb).extend (List.subset_append_left ..)
        (List.subset_append_left ..) ?_
      refine List.forall_mem_map.2 fun y hy d hd => (List.mem_append.1 hd).imp_right fun hd => ?_
      have := start_importOrigin hs.imports hrun hy
      have := start_diagnostics (p := ⟨rest, final⟩) ⟨hrest, h.final⟩ hd
      simp only [Block.origin]
      omega
    · refine ⟨_, List.mem_append_right _ List.mem_cons_self, rfl, written_of_other _ ?_ _⟩
      rw [Block.origin, hother]
      rfl
    · intro x hx
      refine (ih ⟨hrest, h.final⟩ hlater x hx).extend
        (List.subset_append_of_subset_right _ (List.subset_cons_self ..))
          (List.subset_append_right ..) ?_
      intro y hy d hd
      refine (List.mem_append.1 hd).symm.imp_right fun hd => ?_
      have := start_origin (p := ⟨rest, final⟩) ⟨hrest, h.final⟩ hlater hy
      obtain ⟨decl, hdecl, hanchor⟩ := anchor_diagnosticsAt hd
      have := start_placeImports hs.imports hdecl
      rw [hanchor]
      omega

/-- A pass leaves the text before the first statement alone. -/
theorem lead_pass (rule : Rule) (p : Page) : (p.pass rule).lead = p.lead := by
  unfold Page.pass
  split <;> rfl

/-- What becomes of the blocks of a page in one pass. -/
theorem pass_preserves {p : Page} (hproper : p.Proper) (hrange : p.sheet.InRange)
    (horigin : p.sheet.Remembers (byteLength p.lead)) (rule : Rule) :
    ∃ ds, check p.text rule p.statements = .ok ds ∧
      Fix.applyAll p.text (fixesOf ds) = .ok (p.pass rule).text ∧
      (∀ x ∈ (p.pass rule).sheet.blocks, x.WrittenFrom ds p.sheet.blocks) ∧
      (Respaced rule ds (p.sheet.blocks.map Block.piece)
        ((p.pass rule).sheet.blocks.map Block.piece) ∨
        Lifted ds (p.sheet.blocks.map Block.piece)
          ((p.pass rule).sheet.blocks.map Block.piece)) := by
  obtain ⟨ds, hcheck, happly⟩ := check_pass hproper hrange rule
  refine ⟨ds, hcheck, happly, ?_⟩
  unfold Page.pass
  split
  · next hlate =>
    obtain ⟨tops, passed, b, tail, hsplit⟩ := exists_lateSplit hlate.2
    obtain ⟨ds', fixes, hcheck', -, -, -, hproblem, d, hd, hfix, hanchor⟩ :=
      check_lifted hproper hlate.1 hsplit
    obtain rfl : ds = ds' := Except.ok.inj (hcheck.symm.trans hcheck')
    rw [Page.lifted, Sheet.blocks_ofBlocks]
    constructor
    · refine forall_mem_liftBlocks (fun x more hx => ?_) (fun c gap hc => hc)
        (fun x hx => ?_) hlate.2
      · cases x <;> exact hx
      · -- only late imports are reported, so no list is touched
        refine ⟨x, hx, rfl, written_of_no_listFix (fun e he hlist => ?_) _ _⟩
        rw [hproblem e he] at hlist
        cases hlist
    · rw [Sheet.Remembers, Sheet.place_eq] at horigin
      exact .inr (lifted_pieces horigin hsplit ⟨d, hd, hproblem d hd, hfix, hanchor⟩)
  · next hlate =>
    obtain rfl : ds = _ := Except.ok.inj (hcheck.symm.trans (check_tidy hproper hrange hlate))
    exact ⟨writtenFrom_tidy hproper horigin rule, .inl (respaced_tidy horigin (List.Subset.refl _))⟩

/-! ## The module after the check -/

/-- The text of a module and the text after the check consist of pieces of the same
statements. -/
structure Preserved (rule : Rule) (ds : List Diagnostic) (text : String) (ss : List Statement)
    (out : String) (pieces : List Piece) : Prop where
  /-- the text is cut into pieces -/
  before : text.toList = leadOf text ss ++ (piecesOf text ss).flatMap Piece.chars
  /-- so is the text after the check, and what stands before the first piece is the
  same -/
  after : out.toList = leadOf text ss ++ pieces.flatMap Piece.chars
  /-- there is one piece for each statement -/
  statements : (pieces.map Piece.statement).Perm ss
  /-- the statements that are not imports stay in their order -/
  others : othersOf (pieces.map Piece.statement) = othersOf ss
  /-- a statement keeps its text, unless the check offers to sort its braced list -/
  written : ∀ q ∈ pieces, Written ds q.statement
    (sliceOf text.toList q.statement.span.start q.statement.span.stop) q.body
  /-- the text between statements stays as it is, but for the places where it must
  change -/
  gaps : Respaced rule ds (piecesOf text ss) pieces ∨ Lifted ds (piecesOf text ss) pieces

/-- A pass over the page of a module leaves its statements. -/
theorem preserved_pass {text : String} {ss : List Statement} (h : DocumentOrdered text ss)
    (hlines : ∀ s ∈ ss, s.startLine < 2 ^ 32 - 1 ∧ s.endLine < 2 ^ 32 - 1) (rule : Rule) :
    ∃ ds, check text rule ss = .ok ds ∧
      Fix.applyAll text (fixesOf ds) = .ok ((Page.cut text ss).pass rule).text ∧
      Preserved rule ds text ss ((Page.cut text ss).pass rule).text
        (((Page.cut text ss).pass rule).sheet.blocks.map Block.piece) := by
  obtain ⟨htext, hstatements, hproper⟩ := Page.cut_spec h
  have horigin : (Page.cut text ss).sheet.Remembers (byteLength (Page.cut text ss).lead) :=
    (origins_cut text ss).trans hstatements.symm
  obtain ⟨ds, hcheck, happly, hwritten, hgaps⟩ :=
    pass_preserves hproper (Page.inRange_cut h hlines) horigin rule
  rw [htext, hstatements] at hcheck
  rw [htext] at happly
  rw [pieces_cut] at hgaps
  have hkept := hgaps.elim Respaced.statements Lifted.statements
  rw [statements_piecesOf] at hkept
  refine ⟨ds, hcheck, happly, ?_, ?_, hkept.1, hkept.2, ?_, hgaps⟩
  · have hchars := congrArg String.toList htext
    rw [Page.toList_text, Sheet.chars_eq, ← pieces_chars, pieces_cut] at hchars
    exact hchars.symm
  · rw [pieces_chars, ← Sheet.chars_eq, Page.toList_text, lead_pass]
    rfl
  · intro q hq
    obtain ⟨x, hx, rfl⟩ := List.mem_map.1 hq
    obtain ⟨y, hy, hstatement, hbody⟩ := hwritten x hx
    have hmem : y.piece ∈ piecesOf text ss := pieces_cut text ss ▸ List.mem_map_of_mem hy
    have hslice := body_piecesOf hmem
    simp only [Block.piece] at hslice ⊢
    rw [hstatement, ← hslice]
    exact hbody

/-- **No statement is lost.** A check of a document-ordered module ends well, and so
does applying its fixes. The text they leave is made up of pieces of the same
statements. -/
theorem check_preserves_statements {text : String} {ss : List Statement}
    (h : DocumentOrdered text ss)
    (hlines : ∀ s ∈ ss, s.startLine < 2 ^ 32 - 1 ∧ s.endLine < 2 ^ 32 - 1) (rule : Rule) :
    ∃ ds out pieces, check text rule ss = .ok ds ∧ Fix.applyAll text (fixesOf ds) = .ok out ∧
      Preserved rule ds text ss out pieces := by
  obtain ⟨ds, hcheck, happly, hpreserved⟩ := preserved_pass h hlines rule
  exact ⟨ds, _, _, hcheck, happly, hpreserved⟩

/-- An import changes places with the statement before it. -/
theorem check_preserves_statements_lifted :
    let text := "q\na\n"
    let ss : List Statement := [.other "q" ⟨0, 1⟩ 1 1, .importDecl ⟨⟨2, 3⟩, 2, 2, none, "a", []⟩]
    (check text {} ss).map (fun ds => Fix.applyAll text (fixesOf ds)) = .ok (.ok "a\nq\n\n") ∧
      ∃ ds out pieces, check text {} ss = .ok ds ∧ Fix.applyAll text (fixesOf ds) = .ok out ∧
        Preserved {} ds text ss out pieces := by
  intro text ss
  have hordered : DocumentOrdered text ss := by decide
  exact ⟨by decide +kernel, check_preserves_statements hordered (by decide) {}⟩

end ImportOrder

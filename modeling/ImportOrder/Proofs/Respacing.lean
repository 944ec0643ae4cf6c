import ImportOrder.Proofs.Pass

/-!
# The text between statements

A module is cut into pieces, one for each statement: its text and the text up to the
next statement. The fixes of one check bring the pieces into another order and change
what stands between them, in three places:

* between the imports of a run that was out of order (`RunRespaced.rewritten`);
* after a run that was followed by no blank line (`RunRespaced.padded`);
* around an import that is lifted (`Lifted`).

`respaced_tidy` and `lifted_pieces` say that these are all.
-/

namespace ImportOrder

/-! ## Pieces -/

/-- A statement, a text for it, and the text up to the next statement. -/
structure Piece where
  /-- the statement -/
  statement : Statement
  /-- the text that stands for it -/
  body : List Char
  /-- the text after it -/
  gap : List Char
deriving DecidableEq

/-- The text of a piece. -/
def Piece.chars (q : Piece) : List Char := q.body ++ q.gap

/-- The text before the first statement. -/
def leadOf (text : String) (ss : List Statement) : List Char :=
  sliceOf text.toList 0 (nextStart text.toList ss)

/-- The pieces of a module. -/
def piecesOf (text : String) : List Statement → List Piece
  | [] => []
  | s :: rest =>
    ⟨s, sliceOf text.toList s.span.start s.span.stop,
      sliceOf text.toList s.span.stop (nextStart text.toList rest)⟩ ::
      piecesOf text rest

/-! ## What may become of the text between statements -/

/-- A problem is reported at a statement, with a fix. -/
def Mended (ds : List Diagnostic) (problem : Problem) (s : Statement) : Prop :=
  ∃ d ∈ ds, d.problem = problem ∧ d.anchor = s.span ∧ d.fix.isSome = true

/-- What becomes of a run. -/
inductive RunRespaced (rule : Rule) (ds : List Diagnostic) : List Piece → List Piece → Prop where
  /-- the run is put into order: its imports are the same, only line breaks stand
  between them, and what stood after the run still does -/
  | rewritten {first : Piece} {rest new : List Piece} {cause : Violation}
      (reported : Mended ds (.importOrder cause) first.statement)
      (same : (new.map Piece.statement).Perm ((first :: rest).map Piece.statement))
      (between : ∀ q ∈ new.dropLast,
        q.gap = ['\n'] ∨ rule.enforceBlankLine = true ∧ q.gap = ['\n', '\n'])
      (after : new.getLast?.map Piece.gap = (first :: rest).getLast?.map Piece.gap) :
      RunRespaced rule ds (first :: rest) new
  /-- the run stays as it is -/
  | kept {old new : List Piece} (same : new.map Piece.statement = old.map Piece.statement)
      (gaps : new.map Piece.gap = old.map Piece.gap) : RunRespaced rule ds old new
  /-- the blanks after the run give way to line breaks -/
  | padded {init new : List Piece} {last : Piece} {breaks : List Char}
      (reported : Mended ds .missingTrailingLine last.statement)
      (same : new.map Piece.statement = (init ++ [last]).map Piece.statement)
      (newlines : breaks = ['\n'] ∨ breaks = ['\n', '\n'])
      (gaps : new.map Piece.gap = init.map Piece.gap ++ [breaks ++ last.gap.dropWhile isPadding]) :
      RunRespaced rule ds (init ++ [last]) new

/-- What becomes of the pieces of a module. -/
inductive Respaced (rule : Rule) (ds : List Diagnostic) : List Piece → List Piece → Prop where
  /-- a run at the end -/
  | run {old new : List Piece} (imports : ∀ q ∈ old, q.statement.isImport = true)
      (hrun : RunRespaced rule ds old new) : Respaced rule ds old new
  /-- a run, which may be empty, and the other statement after it, which keeps its text
  and its gap -/
  | stanza {run run' old new : List Piece} {other : Piece}
      (imports : ∀ q ∈ run, q.statement.isImport = true)
      (hother : other.statement.isImport = false) (hrun : RunRespaced rule ds run run')
      (hrest : Respaced rule ds old new) :
      Respaced rule ds (run ++ other :: old) (run' ++ other :: new)

/-- The first late import is lifted above the other statements before it. It gets a line
break after it, and what stood after it follows what stood before it. -/
def Lifted (ds : List Diagnostic) (old new : List Piece) : Prop :=
  ∃ tops passed last moved tail, old = tops ++ (passed ++ [last] ++ moved :: tail) ∧
    new = tops ++ { moved with gap := ['\n'] } ::
      (passed ++ [{ last with gap := last.gap ++ moved.gap }] ++ tail) ∧
    (∀ q ∈ tops, q.statement.isImport = true) ∧
    (∀ q ∈ passed ++ [last], q.statement.isImport = false) ∧
    moved.statement.isImport = true ∧ Mended ds .misplacedImport moved.statement

/-! ## Pieces of blocks -/

/-- The piece of a block. -/
def Block.piece (x : Block) : Piece := ⟨x.origin, x.body, x.gap⟩

/-- The pieces of a run of blocks. -/
def runPieces (bs : List ImportBlock) : List Piece := bs.map fun b => Block.piece (.imported b)

theorem pieces_chars (xs : List Block) :
    (xs.map Block.piece).flatMap Piece.chars = blockChars xs := by
  rw [List.flatMap_map]
  rfl

/-- Cutting a text into blocks cuts it into its pieces. -/
theorem pieces_cut (text : String) (ss : List Statement) :
    (Page.cut text ss).sheet.blocks.map Block.piece = piecesOf text ss := by
  simp only [Page.cut]
  induction ss with
  | nil => rfl
  | cons s rest ih =>
    cases s with
    | importDecl d =>
      rw [cutBlocks, Sheet.blocks_consImport, List.map_cons, ih]
      rfl
    | other form span startLine endLine =>
      rw [cutBlocks, Sheet.blocks_consOther, List.map_cons, ih]
      rfl

theorem statements_piecesOf (text : String) (ss : List Statement) :
    (piecesOf text ss).map Piece.statement = ss := by
  induction ss with
  | nil => rfl
  | cons s rest ih => rw [piecesOf, List.map_cons, ih]

theorem origins_cut (text : String) (ss : List Statement) :
    (Page.cut text ss).sheet.blocks.map Block.origin = ss := by
  have h := statements_piecesOf text ss
  rw [← pieces_cut, List.map_map] at h
  exact h

theorem body_piecesOf {text : String} {ss : List Statement} {q : Piece} (h : q ∈ piecesOf text ss) :
    q.body = sliceOf text.toList q.statement.span.start q.statement.span.stop := by
  induction ss with
  | nil => cases h
  | cons s rest ih =>
    rcases List.mem_cons.1 h with rfl | h
    · rfl
    · exact ih h

/-! ## The text between the imports of a run -/

/-- A block of a run that is closed differently is an old one or has the new text after
it. -/
theorem mem_closeWith {gap : List Char} {bs : List ImportBlock} {x : ImportBlock}
    (h : x ∈ closeWith gap bs) :
    x.gap = gap ∨ x ∈ bs := by
  induction bs with
  | nil => exact .inr h
  | cons b rest ih =>
    cases rest with
    | nil =>
      obtain rfl := List.mem_singleton.1 h
      exact .inl rfl
    | cons c rest =>
      rcases List.mem_cons.1 h with rfl | h
      · exact .inr List.mem_cons_self
      · exact (ih h).imp id (List.mem_cons_of_mem b)

theorem dropLast_closeWith (gap : List Char) (bs : List ImportBlock) :
    (closeWith gap bs).dropLast = bs.dropLast := by
  induction bs with
  | nil => rfl
  | cons b rest ih =>
    cases rest with
    | nil => rfl
    | cons c rest =>
      obtain ⟨x, xs, hx⟩ :=
        List.exists_cons_of_ne_nil (closeWith_ne_nil (List.cons_ne_nil c rest) gap)
      rw [hx] at ih
      rw [closeWith, hx, List.dropLast_cons_cons, ih, List.dropLast_cons_cons]

/-- Only line breaks stand between the imports of a rearranged run. -/
theorem gap_rearranged {rule : Rule} {bs : List ImportBlock} {x : ImportBlock}
    (h : x ∈ (rearranged rule bs).dropLast) : x.gap = ['\n'] ∨ x.gap = bucketGap rule := by
  rw [rearranged, dropLast_closeWith] at h
  obtain ⟨bucket, -, hx⟩ := List.mem_flatMap.1 (List.dropLast_subset _ h)
  rcases mem_closeWith hx with hgap | hmem
  · exact .inr hgap
  · obtain ⟨b, -, rfl⟩ := List.mem_map.1 hmem
    exact .inl rfl

theorem gaps_closeWith {bs : List ImportBlock} (h : bs ≠ []) (gap : List Char) :
    (closeWith gap bs).map ImportBlock.gap = bs.dropLast.map ImportBlock.gap ++ [gap] := by
  induction bs with
  | nil => exact absurd rfl h
  | cons b rest ih =>
    cases rest with
    | nil => rfl
    | cons c rest =>
      rw [closeWith, List.map_cons, ih (List.cons_ne_nil c rest), List.dropLast_cons_cons,
        List.map_cons, List.cons_append]

theorem statements_runPieces (bs : List ImportBlock) :
    (runPieces bs).map Piece.statement = bs.map ImportBlock.origin := by
  rw [runPieces, List.map_map]
  rfl

theorem gaps_runPieces (bs : List ImportBlock) :
    (runPieces bs).map Piece.gap = bs.map ImportBlock.gap := by
  rw [runPieces, List.map_map]
  rfl

theorem origins_mended (rule : Rule) (bs : List ImportBlock) :
    (bs.map (ImportBlock.mended rule)).map ImportBlock.origin = bs.map ImportBlock.origin := by
  rw [List.map_map]
  exact List.map_congr_left fun b _ => b.mended_origin rule

theorem gaps_mended (rule : Rule) (bs : List ImportBlock) :
    (bs.map (ImportBlock.mended rule)).map ImportBlock.gap = bs.map ImportBlock.gap := by
  rw [List.map_map]
  exact List.map_congr_left fun b _ => b.mended_gap rule

/-- The blocks remember where they stand. -/
def Remembers (n : Nat) (bs : List ImportBlock) : Prop :=
  bs.map ImportBlock.origin = (placeImports n bs).map .importDecl

/-- A run that is out of order is rewritten. -/
theorem runRespaced_rearranged {rule : Rule} {cause : Violation} {n : Nat} {b : ImportBlock}
    {rest : List ImportBlock} {ds : List Diagnostic} (horigin : Remembers n (b :: rest))
    (hds : (orderFinding rule cause n b rest).report true ∈ ds) :
    RunRespaced rule ds (runPieces (b :: rest)) (runPieces (rearranged rule (b :: rest))) := by
  have hfirst : b.origin = .importDecl (b.decl.shift n) := (List.cons.inj horigin).1
  have hreported : Mended ds (.importOrder cause) (Block.piece (.imported b)).statement :=
    ⟨_, hds, rfl, (congrArg Statement.span hfirst).symm, rfl⟩
  refine RunRespaced.rewritten hreported ?_ ?_ ?_
  · have hperm := rearranged_perm (f := ImportBlock.origin) (fun _ _ => rfl) rule (b :: rest)
    rw [← statements_runPieces, ← statements_runPieces] at hperm
    exact hperm
  · intro q hq
    rw [runPieces, ← List.map_dropLast] at hq
    obtain ⟨x, hx, rfl⟩ := List.mem_map.1 hq
    rcases gap_rearranged hx with hgap | hgap
    · exact .inl hgap
    · unfold bucketGap at hgap
      split at hgap
      · next hblank => exact .inr ⟨hblank, hgap⟩
      · exact .inl hgap
  · have hnew := getLast?_gap (rearranged_ne_nil (List.cons_ne_nil b rest) rule)
    have hold := getLast?_gap (List.cons_ne_nil b rest)
    rw [lastGap_rearranged (List.cons_ne_nil b rest), ← hold, ← List.getLast?_map,
      ← List.getLast?_map, ← gaps_runPieces, ← gaps_runPieces, List.getLast?_map,
      List.getLast?_map] at hnew
    exact hnew

theorem lastGap_concat (init : List ImportBlock) (last : ImportBlock) :
    lastGap (init ++ [last]) = last.gap := by
  have h := getLast?_gap (List.append_ne_nil_of_right_ne_nil init (List.cons_ne_nil last []))
  rw [List.getLast?_concat, Option.map_some, Option.some.injEq] at h
  exact h.symm

/-- One line break is missing, or two. -/
theorem newlines_of_missingBreaks {rule : Rule} {next : Option OtherBlock} {bs : List ImportBlock}
    {breaks : List Char} (h : missingBreaks rule next bs = some breaks) :
    breaks = ['\n'] ∨ breaks = ['\n', '\n'] := by
  unfold missingBreaks breaksBetween at h
  split at h
  · split at h
    · split at h
      · cases h
      · split at h
        · exact .inr (Option.some.inj h).symm
        · exact .inl (Option.some.inj h).symm
    · cases h
  · cases h

/-- If a line is missing after a run, this is found at its last import. -/
theorem exists_mem_trailingAt {rule : Rule} {next : Option OtherBlock} {n : Nat}
    {bs : List ImportBlock} {d : ImportDecl} {breaks : List Char}
    (hlast : (placeImports n bs).getLast? = some d)
    (hbreaks : missingBreaks rule next bs = some breaks) :
    ∃ fix, ⟨.missingTrailingLine, d, fix⟩ ∈ trailingAt rule next n bs := by
  unfold trailingAt
  rw [hlast, hbreaks]
  exact ⟨_, List.mem_cons_self⟩

/-- A run in order keeps its texts, except for the blanks that give way to missing line
breaks. Only the gap of the last import changes. -/
theorem runRespaced_padded {rule : Rule} {next : Option OtherBlock} {n : Nat}
    {bs : List ImportBlock} {ds : List Diagnostic} (horigin : Remembers n bs)
    (hds : ∀ f ∈ trailingAt rule next n bs, f.report true ∈ ds) :
    RunRespaced rule ds (runPieces bs)
      (runPieces (padded rule next (bs.map (ImportBlock.mended rule)))) := by
  unfold padded
  rw [missingBreaks_mended, lastGap_mended]
  cases hbreaks : missingBreaks rule next bs with
  | none =>
    refine .kept ?_ ?_
    · rw [statements_runPieces, statements_runPieces, origins_mended]
    · rw [gaps_runPieces, gaps_runPieces, gaps_mended]
  | some breaks =>
    have hne : bs ≠ [] := by
      rintro rfl
      cases hbreaks
    obtain ⟨init, last, rfl⟩ : ∃ init last, bs = init ++ [last] :=
      ⟨_, _, (List.dropLast_append_getLast hne).symm⟩
    have hlast := List.getLast?_eq_some_getLast (placeImports_ne_nil hne n)
    generalize (placeImports n (init ++ [last])).getLast (placeImports_ne_nil hne n) = d at hlast
    have hstatement : last.origin = .importDecl d := by
      have := congrArg List.getLast? horigin
      rw [List.getLast?_map, List.getLast?_map, hlast, List.getLast?_concat] at this
      exact Option.some.inj this
    have hreported : Mended ds .missingTrailingLine (Block.piece (.imported last)).statement := by
      obtain ⟨fix, hfix⟩ := exists_mem_trailingAt hlast hbreaks
      exact ⟨_, hds _ hfix, rfl, (congrArg Statement.span hstatement).symm, rfl⟩
    have hpieces :
        runPieces (init ++ [last]) = runPieces init ++ [Block.piece (.imported last)] := by
      rw [runPieces, List.map_append]
      rfl
    have hmended : (init ++ [last]).map (ImportBlock.mended rule) ≠ [] :=
      mt List.map_eq_nil_iff.1 hne
    rw [hpieces]
    refine RunRespaced.padded hreported ?_ (newlines_of_missingBreaks hbreaks) ?_
    · rw [← hpieces, statements_runPieces, statements_runPieces, closeWith_map (fun _ _ => rfl),
        origins_mended]
    · rw [gaps_runPieces, gaps_closeWith hmended, List.map_dropLast, gaps_mended, gaps_runPieces,
        lastGap_concat, ← List.map_dropLast, List.dropLast_concat]
      rfl

/-- **What becomes of the texts between the imports of a run.** -/
theorem runRespaced_tidyRun {rule : Rule} {next : Option OtherBlock} {n : Nat}
    {bs : List ImportBlock} {ds : List Diagnostic} (horigin : Remembers n bs)
    (hds : diagnosticsAt rule next n bs ⊆ ds) :
    RunRespaced rule ds (runPieces bs) (runPieces (tidyRun rule next bs)) := by
  cases hcause : violation? rule bs with
  | none =>
    rw [diagnosticsAt_of_none hcause] at hds
    rw [tidyRun_of_none hcause]
    exact runRespaced_padded horigin fun f hf =>
      hds (List.mem_map_of_mem (List.mem_append_right _ hf))
  | some cause =>
    obtain _ | ⟨b, rest⟩ := bs
    · cases hcause
    rw [diagnosticsAt_of_some hcause] at hds
    rw [tidyRun_of_some hcause]
    exact runRespaced_rearranged horigin (hds List.mem_cons_self)

theorem isImport_runPieces {n : Nat} {bs : List ImportBlock} (h : Remembers n bs) :
    ∀ q ∈ runPieces bs, q.statement.isImport = true := by
  intro q hq
  have hmem : q.statement ∈ (runPieces bs).map Piece.statement := List.mem_map_of_mem hq
  rw [statements_runPieces, h] at hmem
  obtain ⟨d, -, hd⟩ := List.mem_map.1 hmem
  rw [← hd]
  rfl

/-- A stanza is cut into the pieces of its run and the one of the statement after it. -/
theorem pieces_stanza (bs : List ImportBlock) (o : OtherBlock) (xs : List Block) :
    (bs.map Block.imported ++ .other o :: xs).map Block.piece =
      runPieces bs ++ Block.piece (.other o) :: xs.map Block.piece := by
  rw [List.map_append, List.map_map]
  rfl

/-- Every block of a sheet remembers where it stands. -/
def Sheet.Remembers (n : Nat) (p : Sheet) : Prop := p.blocks.map Block.origin = p.place n

theorem Sheet.remembers_nil {n : Nat} {final : List ImportBlock} :
    Sheet.Remembers n ⟨[], final⟩ ↔ ImportOrder.Remembers n final := by
  rw [Sheet.Remembers, Sheet.place_nil, Sheet.blocks_nil, List.map_map]
  rfl

/-- A sheet remembers where it stands if its first run, the statement after it and the
rest do. -/
theorem Sheet.remembers_cons {n : Nat} {s : Stanza} {rest : List Stanza}
    {final : List ImportBlock} :
    Sheet.Remembers n ⟨s :: rest, final⟩ ↔ ImportOrder.Remembers n s.imports ∧
      s.other.origin = s.other.place (n + byteLength (importChars s.imports)) ∧
      Sheet.Remembers (n + byteLength s.chars) ⟨rest, final⟩ := by
  have horigins : (s.imports.map Block.imported).map Block.origin =
      s.imports.map ImportBlock.origin := by
    rw [List.map_map]
    rfl
  rw [Sheet.Remembers, Sheet.place_cons, Sheet.blocks_cons, List.map_append,
    List.map_cons, horigins]
  constructor
  · intro h
    obtain ⟨hrun, hrest⟩ := List.append_inj h (by simp only [List.length_map, placeImports_length])
    obtain ⟨hother, hrest⟩ := List.cons.inj hrest
    exact ⟨hrun, hother, hrest⟩
  · rintro ⟨hrun, hother, hrest⟩
    rw [hrun, ← hrest, ← hother]
    rfl

/-- **What becomes of the texts between the statements of a sheet.** -/
theorem respaced_tidy {rule : Rule} {n : Nat} {p : Sheet} {ds : List Diagnostic}
    (horigin : p.Remembers n) (hds : p.diagnostics rule n ⊆ ds) :
    Respaced rule ds (p.blocks.map Block.piece) ((p.tidy rule).blocks.map Block.piece) := by
  obtain ⟨stanzas, final⟩ := p
  induction stanzas generalizing n with
  | nil =>
    have hrun := Sheet.remembers_nil.1 horigin
    rw [Sheet.blocks_nil, Sheet.blocks_tidy_nil, List.map_map, List.map_map]
    exact .run (isImport_runPieces hrun) (runRespaced_tidyRun hrun hds)
  | cons s rest ih =>
    obtain ⟨hrun, hother, hrest⟩ := Sheet.remembers_cons.1 horigin
    have hnotImport : s.other.origin.isImport = false := by
      rw [hother]
      rfl
    obtain ⟨hhere, hlater⟩ := List.append_subset.1 hds
    rw [Sheet.blocks_cons, Sheet.blocks_tidy_cons, pieces_stanza, pieces_stanza]
    exact .stanza (isImport_runPieces hrun) hnotImport (runRespaced_tidyRun hrun hhere)
      (ih hrest hlater)

/-! ## A lifted import -/

/-- A block that remembers where it stands. -/
theorem exists_place {n : Nat} {xs : List Block} (h : xs.map Block.origin = placeBlocks n xs) :
    ∀ x ∈ xs, ∃ m, x.origin = x.place m := by
  induction xs generalizing n with
  | nil => exact fun x hx => (List.not_mem_nil hx).elim
  | cons x xs ih =>
    obtain ⟨hx, hxs⟩ := List.cons.inj h
    exact List.forall_mem_cons.2 ⟨⟨n, hx⟩, ih hxs⟩

/-- A block comes from a statement of its kind. -/
theorem isImport_origin {n : Nat} {xs : List Block} (h : xs.map Block.origin = placeBlocks n xs) :
    ∀ x ∈ xs, x.origin.isImport = x.isImport := by
  intro x hx
  obtain ⟨m, hm⟩ := exists_place h x hx
  rw [hm, Block.isImport_place]

theorem extendLast_concat (more : List Char) (init : List Block) (last : Block) :
    extendLast more (init ++ [last]) = init ++ [last.extend more] := by
  induction init with
  | nil => rfl
  | cons x rest ih =>
    obtain ⟨y, ys, hys⟩ := List.exists_cons_of_ne_nil
      (List.append_ne_nil_of_right_ne_nil rest (List.cons_ne_nil last []))
    rw [List.cons_append, List.cons_append, ← ih, hys, extendLast]

theorem Block.piece_extend (more : List Char) (x : Block) :
    (x.extend more).piece = { x.piece with gap := x.piece.gap ++ more } := by
  cases x <;> rfl

/-- **What becomes of the pieces when an import is lifted.** The import goes under the
leading ones with a line break after it, and the text it leaves behind joins that of the
statement before it. It is the import that is reported as late. -/
theorem lifted_pieces {n : Nat} {xs tops passed tail : List Block} {b : ImportBlock}
    {ds : List Diagnostic} (horigin : xs.map Block.origin = placeBlocks n xs)
    (hsplit : LateSplit xs tops passed b tail)
    (hds : ∃ d ∈ ds, d.problem = .misplacedImport ∧ d.fix.isSome = true ∧ d.anchor = (b.decl.shift
      (n + byteLength (blockChars tops) + byteLength (blockChars passed))).span) :
    Lifted ds (xs.map Block.piece) ((liftBlocks xs).map Block.piece) := by
  obtain ⟨init, last, hpassed⟩ : ∃ init last, passed = init ++ [last] :=
    ⟨_, _, (List.dropLast_append_getLast hsplit.nonempty).symm⟩
  have himport : ∀ x ∈ xs, x.piece.statement.isImport = x.isImport := isImport_origin horigin
  have hmoved : b.origin = .importDecl (b.decl.shift
      (n + byteLength (blockChars tops) + byteLength (blockChars passed))) := by
    rw [hsplit.eq, placeBlocks_append, placeBlocks_append, List.map_append,
      List.map_append] at horigin
    have hlater := (List.append_inj horigin (by rw [List.length_map, length_placeBlocks])).2
    have hhere := (List.append_inj hlater (by rw [List.length_map, length_placeBlocks])).2
    exact (List.cons.inj hhere).1
  refine ⟨tops.map Block.piece, init.map Block.piece, last.piece, Block.piece (.imported b),
    tail.map Block.piece, ?_, ?_, ?_, ?_, ?_, ?_⟩
  · rw [hsplit.eq, hpassed]
    simp only [List.map_append, List.map_cons, List.map_nil]
  · rw [liftBlocks_eq hsplit, hpassed, extendLast_concat]
    simp only [List.map_append, List.map_cons, List.map_nil, Block.piece_extend]
    rfl
  · refine List.forall_mem_map.2 fun x hx => ?_
    rw [himport x (hsplit.eq ▸ List.mem_append_left _ hx), hsplit.imports x hx]
  · have hothers : ∀ q ∈ passed.map Block.piece, q.statement.isImport = false := by
      refine List.forall_mem_map.2 fun x hx => ?_
      rw [himport x (hsplit.eq ▸ List.mem_append_right _ (List.mem_append_left _ hx)),
        Block.isImport_eq, hsplit.others x hx]
      rfl
    rw [hpassed, List.map_append] at hothers
    exact hothers
  · exact congrArg Statement.isImport hmoved
  · obtain ⟨d, hd, hproblem, hfix, hanchor⟩ := hds
    exact ⟨d, hd, hproblem, hanchor.trans (congrArg Statement.span hmoved).symm, hfix⟩

/-! ## The statements -/

/-- The statements that are not imports. -/
def othersOf (ss : List Statement) : List Statement := ss.filter fun s => !s.isImport

theorem othersOf_append (ss ts : List Statement) :
    othersOf (ss ++ ts) = othersOf ss ++ othersOf ts :=
  List.filter_append ..

theorem othersOf_eq_nil {ss : List Statement} (h : ∀ s ∈ ss, s.isImport = true) :
    othersOf ss = [] :=
  List.filter_eq_nil_iff.2 fun s hs => by simp [h s hs]

/-- Respacing a run exchanges its statements. -/
theorem RunRespaced.perm {rule : Rule} {ds : List Diagnostic} {old new : List Piece}
    (h : RunRespaced rule ds old new) :
    (new.map Piece.statement).Perm (old.map Piece.statement) := by
  cases h with
  | rewritten _ same _ _ => exact same
  | kept same _ => exact .of_eq same
  | padded _ same _ _ => exact .of_eq same

/-- A run of imports remains one. -/
theorem RunRespaced.othersOf {rule : Rule} {ds : List Diagnostic} {old new : List Piece}
    (h : RunRespaced rule ds old new) (himports : ∀ q ∈ old, q.statement.isImport = true) :
    ImportOrder.othersOf (new.map Piece.statement) = [] ∧
      ImportOrder.othersOf (old.map Piece.statement) = [] := by
  have hold : ∀ s ∈ old.map Piece.statement, s.isImport = true := List.forall_mem_map.2 himports
  exact ⟨othersOf_eq_nil fun s hs => hold s (h.perm.mem_iff.1 hs), othersOf_eq_nil hold⟩

/-- No statement is lost or doubled, and the other statements stay in their order. -/
theorem Respaced.statements {rule : Rule} {ds : List Diagnostic} {old new : List Piece}
    (h : Respaced rule ds old new) : (new.map Piece.statement).Perm (old.map Piece.statement) ∧
      othersOf (new.map Piece.statement) = othersOf (old.map Piece.statement) := by
  induction h with
  | run imports hrun =>
    obtain ⟨hnew, hold⟩ := hrun.othersOf imports
    exact ⟨hrun.perm, hnew.trans hold.symm⟩
  | stanza imports hother hrun _ ih =>
    obtain ⟨hnew, hold⟩ := hrun.othersOf imports
    simp only [List.map_append, List.map_cons]
    refine ⟨hrun.perm.append (ih.1.cons _), ?_⟩
    rw [othersOf_append, othersOf_append, hnew, hold, othersOf, othersOf, List.filter_cons,
      List.filter_cons]
    rw [othersOf, othersOf] at ih
    rw [ih.2]

/-- Lifting an import keeps all statements, and those that are no imports in their
order. -/
theorem Lifted.statements {ds : List Diagnostic} {old new : List Piece} (h : Lifted ds old new) :
    (new.map Piece.statement).Perm (old.map Piece.statement) ∧
      othersOf (new.map Piece.statement) = othersOf (old.map Piece.statement) := by
  obtain ⟨tops, passed, last, moved, tail, rfl, rfl, htops, hpassed, hmoved, -⟩ := h
  simp only [List.map_append, List.map_cons, List.map_nil]
  constructor
  · exact List.Perm.append_left _ List.perm_middle.symm
  · have hmovedOnly : othersOf [moved.statement] = [] :=
      othersOf_eq_nil (List.forall_mem_singleton.2 hmoved)
    rw [← List.singleton_append, ← List.singleton_append (l := tail.map Piece.statement)]
    simp only [othersOf_append, hmovedOnly, List.nil_append]

end ImportOrder

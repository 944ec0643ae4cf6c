import ImportOrder.Proofs.Landing
import ImportOrder.Proofs.StableOrder

/-!
# Laying out a run twice

The fix for a run writes its imports in the desired order, one below the other.
`Run.anew` lists them as they are then: each of them at the place and on the lines that
its text has come to take up. `runFix_idempotent` says that this is final. Nothing is
wrong with the order of these imports any more, and their fix would write the text that
is there already.

* `layOut_plain` — the imports are those of the rearranged blocks of the run, as they
  are read in the new text;
* `bucketsOf_flatten` — what has been sorted into buckets goes into the same buckets
  again, so that `runText_rearranged_twice`;
* `firstViolation_plain`, `runFix_plain` — neither the order of a run nor its fix
  depends on specifiers, of which nothing is assumed here.
-/

namespace ImportOrder

/-! ## The run laid out anew -/

/-- Imports with what is written after them: `last` after the last one and `between`
after the others. -/
def gapped (between last : List Char) : List ImportDecl → List (ImportDecl × List Char)
  | [] => []
  | [d] => [(d, last)]
  | d :: e :: rest => (d, between) :: gapped between last (e :: rest)

/-- The imports of a run in the desired order, with what is written after them. -/
def stacked (rule : Rule) (ds : List ImportDecl) : List (ImportDecl × List Char) :=
  (desiredOrder rule ds).flatMap (gapped ['\n'] (bucketGap rule))

/-- Imports whose texts follow one another from an offset and a line on, each with what
is written after it. -/
def layOut (text : List Char) (n line : Nat) : List (ImportDecl × List Char) → List ImportDecl
  | [] => []
  | (d, gap) :: rest =>
    let body := sliceOf text d.span.start d.span.stop
    { d with
      span := ⟨n, n + byteLength body⟩, startLine := line, endLine := line + lineBreaks body } ::
      layOut text (n + byteLength (body ++ gap)) (line + lineBreaks (body ++ gap)) rest

/-- The imports of a run that has been laid out anew, from where it started. -/
def Run.anew (text : String) (rule : Rule) (r : Run) : List ImportDecl :=
  layOut text.toList r.head.span.start (lineAt text.toList r.head.span.start)
    (stacked rule r.imports)

/-- An import stands in one text as another one stood in another text: it is the same
but for its place and its lines, the text there is the same, and the lines are
counted. -/
structure StandsAs (text out : String) (d e : ImportDecl) : Prop where
  /-- only the place and the lines differ -/
  same : e = { d with span := e.span, startLine := e.startLine, endLine := e.endLine }
  /-- the text is the same -/
  text_eq : textUnder out e = textUnder text d
  /-- it starts on the line on which its text starts -/
  startLine_eq : e.startLine = lineAt out.toList e.span.start
  /-- and ends on the line on which its text ends -/
  endLine_eq : e.endLine = lineAt out.toList e.span.stop

theorem gapped_fst (between last : List Char) (ds : List ImportDecl) :
    (gapped between last ds).map Prod.fst = ds := by
  induction ds with
  | nil => rfl
  | cons d rest ih =>
    cases rest with
    | nil => rfl
    | cons e rest => rw [gapped, List.map_cons, ih]

/-- The stacked imports are those of the desired order. -/
theorem stacked_fst (rule : Rule) (ds : List ImportDecl) :
    (stacked rule ds).map Prod.fst = (desiredOrder rule ds).flatten := by
  rw [stacked, List.map_flatMap]
  simp only [gapped_fst]
  rw [List.flatMap_id']

/-! ## Specifiers do not matter -/

/-- The import without its specifiers. -/
def ImportDecl.plain (d : ImportDecl) : ImportDecl := { d with specifiers := [] }

/-- The run without specifiers. -/
def Run.plain (r : Run) : Run := ⟨r.firstIndex, r.head.plain, r.tail.map ImportDecl.plain⟩

theorem firstViolation_plain (rule : Rule) (ds : List ImportDecl) :
    firstViolation rule (ds.map ImportDecl.plain) = firstViolation rule ds := by
  induction ds with
  | nil => rfl
  | cons a rest ih =>
    cases rest with
    | nil => rfl
    | cons b rest =>
      rw [List.map_cons] at ih
      rw [List.map_cons, List.map_cons, firstViolation, firstViolation, ih]
      rfl

theorem renderBuckets_plain (text : String) (blank : Bool) (buckets : List (List ImportDecl)) :
    renderBuckets text blank (buckets.map (List.map ImportDecl.plain)) =
      renderBuckets text blank buckets := by
  have hbucket :
      ∀ bucket, renderBucket text (bucket.map ImportDecl.plain) = renderBucket text bucket := by
    intro bucket
    rw [renderBucket, renderBucket, List.mapM_map]
    rfl
  rw [renderBuckets, renderBuckets, filter_map_map, List.mapM_map]
  simp only [Function.comp_def, hbucket]

/-- The fix for a run does not depend on specifiers: only categories, paths, lines and
spans are looked at. -/
theorem runFix_plain (text : String) (rule : Rule) (r : Run) :
    runFix text rule r.plain = runFix text rule r := by
  have hspan : r.plain.span = r.span := by
    have hlast : r.plain.last = r.last.plain :=
      List.getLast_map (f := ImportDecl.plain) (l := r.imports) (List.cons_ne_nil _ _)
    rw [Run.span, Run.span, hlast]
    rfl
  have hdesired : desiredOrder rule r.plain.imports =
      (desiredOrder rule r.imports).map (List.map ImportDecl.plain) :=
    bucketsOf_map rule id id ImportDecl.plain (fun _ => rfl) (fun _ => rfl) r.imports
  rw [runFix, runFix, hspan, hdesired, renderBuckets_plain]

/-! ## The blocks of a run -/

/-- The block of an import in a text, without specifiers, and with what is written after
it. -/
def blockIn (text : List Char) (p : ImportDecl × List Char) : ImportBlock where
  origin := .importDecl p.1.plain
  decl := p.1.plain.lower p.1.span.start
  body := sliceOf text p.1.span.start p.1.span.stop
  gap := p.2

/-- The text falls into a lead and blocks, which are those of the run. -/
structure Run.CutInto (text : String) (r : Run) (lead : List Char)
    (bs : List ImportBlock) : Prop where
  /-- the lead and the blocks make up the text -/
  text_eq : text = String.ofList (lead ++ importChars bs)
  /-- the imports of the blocks are those of the run -/
  imports_eq : placeImports (byteLength lead) bs = r.imports.map ImportDecl.plain
  /-- the blocks describe their bodies -/
  proper : ∀ b ∈ bs, b.Proper

/-- A text that is cut along imports alone falls into the blocks of these imports. -/
theorem cutBlocks_imports (text : List Char) (ds : List ImportDecl) :
    ∃ bs, cutBlocks text ((ds.map ImportDecl.plain).map .importDecl) = ⟨[], bs⟩ ∧
      bs.map ImportBlock.bare = ds.map fun d => blockIn text (d, []) := by
  induction ds with
  | nil => exact ⟨[], rfl, rfl⟩
  | cons d rest ih =>
    obtain ⟨bs, hcut, hbs⟩ := ih
    rw [List.map_cons, List.map_cons, cutBlocks, hcut]
    refine ⟨_, rfl, ?_⟩
    rw [List.map_cons, List.map_cons, hbs]
    rfl

/-- **The blocks of a run.** A text in which the imports of a run stand one after
another falls into their blocks. -/
theorem Run.exists_cutInto {text : String} {r : Run}
    (h : InLine text.toList (wholeSpan text.toList) (r.imports.map ImportDecl.span)) :
    ∃ lead bs, r.CutInto text lead bs ∧
      bs.map ImportBlock.bare = r.imports.map fun d => blockIn text.toList (d, []) := by
  obtain ⟨bs, hcut, hbare⟩ := cutBlocks_imports text.toList r.imports
  have hordered : DocumentOrdered text ((r.imports.map ImportDecl.plain).map .importDecl) := by
    constructor
    · rw [List.map_map, List.map_map]
      exact h
    · intro d hd
      simp only [List.filterMap_map, List.mem_filterMap, Function.comp_apply] at hd
      obtain ⟨e, -, he⟩ := hd
      obtain rfl := Option.some.inj he
      exact ⟨nofun, nofun, nofun, List.Pairwise.nil⟩
  obtain ⟨htext, hstatements, hproper⟩ := Page.cut_spec hordered
  simp only [Page.text, Page.chars, Page.statements, Page.Proper, Page.cut,
    hcut] at htext hstatements hproper
  rw [Sheet.place_nil] at hstatements
  refine ⟨_, bs, ⟨htext.symm, ?_, hproper.final⟩, hbare⟩
  exact (List.map_inj_right fun _ _ => Statement.importDecl.inj).1 hstatements

section

variable {text : String} {r : Run} {lead : List Char} {bs : List ImportBlock}

theorem Run.CutInto.ne_nil (h : r.CutInto text lead bs) : bs ≠ [] := by
  rintro rfl
  cases h.imports_eq

/-- The fix of a run that has been cut into blocks. -/
theorem Run.CutInto.runFix_eq (h : r.CutInto text lead bs) (rule : Rule) : runFix text rule r =
      .ok ⟨⟨byteLength lead, byteLength lead + byteLength (runText bs)⟩,
        String.ofList (runText (rearranged rule bs))⟩ := by
  obtain ⟨rfl, himports, hproper⟩ := h
  cases bs with
  | nil => cases himports
  | cons b bs =>
    obtain ⟨hhead, htail⟩ := List.cons.inj himports
    have hplaced := runFix_placed hproper rule lead [] r.firstIndex
    rw [List.append_nil, hhead, htail] at hplaced
    rw [← runFix_plain]
    exact hplaced

/-- Where the first import of a run starts. -/
theorem Run.CutInto.start_eq (h : r.CutInto text lead bs) :
    r.head.span.start = byteLength lead := by
  obtain ⟨-, himports, hproper⟩ := h
  cases bs with
  | nil => cases himports
  | cons b bs =>
    obtain ⟨hhead, -⟩ := List.cons.inj himports
    have hspan : r.head.plain.span = (b.decl.shift (byteLength lead)).span :=
      congrArg ImportDecl.span hhead.symm
    rw [(hproper b List.mem_cons_self).span_shift] at hspan
    exact congrArg Span.start hspan

/-- The line on which the first import of a run starts. -/
theorem Run.CutInto.lineAt_start (h : r.CutInto text lead bs) :
    lineAt text.toList (byteLength lead) = 1 + lineBreaks lead := by
  rw [h.text_eq, String.toList_ofList, lineAt_append]

end

/-! ## The new imports are those of the rearranged blocks -/

/-- Empty buckets can be left out. -/
theorem flatMap_filled {α β : Type} {f : List α → List β} (hf : f [] = [])
    (buckets : List (List α)) :
    (buckets.filter (!·.isEmpty)).flatMap f = buckets.flatMap f := by
  induction buckets with
  | nil => rfl
  | cons bucket rest ih =>
    cases bucket with
    | nil =>
      rw [List.filter_cons_of_neg (by simp), List.flatMap_cons, hf, ih]
      rfl
    | cons x xs => rw [List.filter_cons_of_pos (by simp), List.flatMap_cons, List.flatMap_cons, ih]

/-- Spacing blocks comes to the same as giving the imports their gaps first and cutting
then. -/
theorem spacedBy_blockIn (text between last : List Char) (bucket : List ImportDecl) :
    spacedBy between last (bucket.map fun d => blockIn text (d, [])) =
      (gapped between last bucket).map (blockIn text) := by
  induction bucket with
  | nil => rfl
  | cons d rest ih =>
    cases rest with
    | nil => rfl
    | cons e rest => exact congrArg (blockIn text (d, between) :: ·) ih

/-- The blocks of a run are stacked as its imports are. Without their gaps, the blocks
of a bucket are the blocks of the imports in it, and the gaps are then given in the same
way. -/
theorem stacked_blocks (rule : Rule) (text : List Char) {ds : List ImportDecl}
    {bs : List ImportBlock} (h : bs.map ImportBlock.bare = ds.map fun d => blockIn text (d, [])) :
    (filledBuckets rule bs).flatMap (spacedBy ['\n'] (bucketGap rule)) =
      (stacked rule ds).map (blockIn text) := by
  have hbare : ∀ bucket : List ImportBlock, spacedBy ['\n'] (bucketGap rule) bucket =
      spacedBy ['\n'] (bucketGap rule) (bucket.map ImportBlock.bare) := by
    intro bucket
    rw [spacedBy, spacedBy, List.map_map]
    rfl
  have hbuckets : (bucketsOf rule ImportBlock.decl bs).map (List.map ImportBlock.bare) =
      (desiredOrder rule ds).map (List.map fun d => blockIn text (d, [])) := by
    rw [← bucketsOf_map rule ImportBlock.decl ImportBlock.decl ImportBlock.bare (fun _ => rfl)
      (fun _ => rfl), h, bucketsOf_map rule id ImportBlock.decl _ (fun _ => rfl) (fun _ => rfl)]
    rfl
  calc (filledBuckets rule bs).flatMap (spacedBy ['\n'] (bucketGap rule))
      = (bucketsOf rule ImportBlock.decl bs).flatMap (spacedBy ['\n'] (bucketGap rule)) :=
        flatMap_filled rfl _
    _ = ((bucketsOf rule ImportBlock.decl bs).map (List.map ImportBlock.bare)).flatMap
          (spacedBy ['\n'] (bucketGap rule)) := by
        rw [List.flatMap_map]
        simp only [← hbare]
    _ = (stacked rule ds).map (blockIn text) := by
        rw [hbuckets, List.flatMap_map, stacked, List.map_flatMap]
        simp only [spacedBy_blockIn]

/-- What follows the last import does not move it. -/
theorem placeImports_closeWith (n line : Nat) (gap : List Char) (bs : List ImportBlock) :
    placeImports n (settleImports n line (closeWith gap bs)) =
      placeImports n (settleImports n line bs) := by
  induction bs generalizing n line with
  | nil => rfl
  | cons b rest ih =>
    cases rest with
    | nil => rfl
    | cons c rest =>
      rw [closeWith, settleImports, settleImports, placeImports, placeImports]
      exact congrArg _ (ih _ _)

/-- **Imports that are laid out** are those of their blocks, as these are read one after
another. -/
theorem layOut_plain {text : List Char} {ps : List (ImportDecl × List Char)}
    (h : ∀ p ∈ ps, p.1.span.stop =
      p.1.span.start + byteLength (sliceOf text p.1.span.start p.1.span.stop))
    (n line : Nat) :
    (layOut text n line ps).map ImportDecl.plain =
      placeImports n (settleImports n line (ps.map (blockIn text))) := by
  induction ps generalizing n line with
  | nil => rfl
  | cons p rest ih =>
    obtain ⟨hp, hrest⟩ := List.forall_mem_cons.1 h
    rw [layOut, List.map_cons, ih hrest, List.map_cons, settleImports, placeImports]
    refine congrArg₂ List.cons ?_ rfl
    have hlen : p.1.span.stop - p.1.span.start =
        byteLength (sliceOf text p.1.span.start p.1.span.stop) := by omega
    simp only [ImportDecl.plain, ImportBlock.settle, blockIn, ImportDecl.shift, ImportDecl.lower,
      ImportDecl.mapSpans, Span.shift, Span.lower, List.map_nil, Nat.sub_self, Nat.add_zero, hlen]

/-- Laid out imports stand in the new text as they stood in the old one. -/
theorem layOut_stands {text out : String} {pre post : List Char}
    {ps : List (ImportDecl × List Char)}
    (h : out.toList = pre ++ runText (ps.map (blockIn text.toList)) ++ post) :
    List.Forall₂ (fun p e => StandsAs text out p.1 e) ps
      (layOut text.toList (byteLength pre) (1 + lineBreaks pre) ps) := by
  induction ps generalizing pre with
  | nil => exact .nil
  | cons p rest ih =>
    obtain ⟨d, gap⟩ := p
    generalize hbody : sliceOf text.toList d.span.start d.span.stop = body
    have hhead : ∀ after, out.toList = pre ++ (body ++ after) → StandsAs text out d
        { d with
          span := ⟨byteLength pre, byteLength pre + byteLength body⟩
          startLine := 1 + lineBreaks pre
          endLine := 1 + lineBreaks pre + lineBreaks body } := by
      intro after hout
      obtain ⟨hstart, hstop⟩ := lineAt_part pre body after
      rw [← hout] at hstart hstop
      refine ⟨rfl, ?_, hstart, hstop⟩
      rw [textUnder, textUnder, hbody, hout, ← List.append_assoc, sliceOf_append]
    cases rest with
    | nil =>
      rw [layOut, hbody]
      refine .cons (hhead post ?_) .nil
      rw [h, ← List.append_assoc, ← hbody]
      rfl
    | cons q rest =>
      have hout : out.toList =
          pre ++ (body ++ gap) ++ runText ((q :: rest).map (blockIn text.toList)) ++ post := by
        rw [h, ← hbody, List.append_assoc pre (_ ++ gap)]
        rfl
      have hrest := ih hout
      rw [byteLength_append, lineBreaks_append, ← Nat.add_assoc] at hrest
      rw [layOut, hbody]
      refine .cons (hhead (gap ++ runText ((q :: rest).map (blockIn text.toList)) ++ post) ?_) hrest
      simp only [hout, List.append_assoc]

/-! ## Rearranging twice -/

/-- **What has been sorted into buckets** goes into the same buckets again: the things
of a category are those of its bucket, and these are sorted already. -/
theorem bucketsOf_flatten {α : Type} (rule : Rule) (look : α → ImportDecl) (xs : List α) :
    bucketsOf rule look (bucketsOf rule look xs).flatten = bucketsOf rule look xs := by
  rw [bucketsOf]
  refine List.map_congr_left fun c hc => ?_
  have hperm := flatten_bucketsOf_perm rule look xs
  generalize hbucket : (xs.filter fun x => (look x).category = c).mergeSort
    (fun a b => precedes rule.ignoreCase (look a).path (look b).path) = bucket
  have hmem : bucket ∈ bucketsOf rule look xs := hbucket ▸ List.mem_map_of_mem hc
  have hpicked :
      (bucketsOf rule look xs).flatten.filter (fun x => (look x).category = c) = bucket := by
    refine filter_eq_of_sublist ((hperm.filter _).trans ?_) (List.sublist_flatten_of_mem hmem)
    rw [← hbucket]
    exact (List.mergeSort_perm ..).symm
  rw [hpicked]
  exact List.mergeSort_of_pairwise ((pairwise_of_mem_bucketsOf rule look hmem).imp And.right)

/-- What sorting a block looks at, and its text. -/
def ImportBlock.core (b : ImportBlock) : ImportDecl × List Char :=
  ({ b.decl with startLine := 0, endLine := 0 }, b.body)

/-- The text of a rearranged run depends on what sorting looks at, and on the texts of
the blocks. -/
theorem runText_rearranged_eq (rule : Rule) (bs : List ImportBlock) :
    runText (rearranged rule bs) =
      (bucketGap rule).intercalate
        (((bucketsOf rule Prod.fst (bs.map ImportBlock.core)).filter (!·.isEmpty)).map fun bucket =>
          ['\n'].intercalate (bucket.map Prod.snd)) := by
  rw [runText_rearranged, filledBuckets,
    bucketsOf_map rule ImportBlock.decl Prod.fst ImportBlock.core (fun _ => rfl) (fun _ => rfl),
    filter_map_map, List.map_map]
  congr 1
  refine List.map_congr_left fun bucket _ => ?_
  rw [Function.comp_apply, List.map_map]
  rfl

/-- Rearranging sorts the cores of blocks into buckets. -/
theorem core_rearranged (rule : Rule) (bs : List ImportBlock) :
    (rearranged rule bs).map ImportBlock.core =
    (bucketsOf rule Prod.fst (bs.map ImportBlock.core)).flatten := by
  have hspaced : ∀ bucket, (spacedBy ['\n'] (bucketGap rule) bucket).map ImportBlock.core =
      bucket.map ImportBlock.core := by
    intro bucket
    rw [spacedBy, closeWith_map (fun _ _ => rfl), List.map_map]
    rfl
  rw [rearranged, closeWith_map (fun _ _ => rfl), List.map_flatMap]
  simp only [hspaced]
  rw [filledBuckets, flatMap_filled rfl,
    bucketsOf_map rule ImportBlock.decl Prod.fst ImportBlock.core (fun _ => rfl) (fun _ => rfl),
    List.flatMap_def]

theorem core_settleImports (n line : Nat) (bs : List ImportBlock) :
    (settleImports n line bs).map ImportBlock.core = bs.map ImportBlock.core := by
  induction bs generalizing n line with
  | nil => rfl
  | cons b rest ih =>
    rw [settleImports, List.map_cons, List.map_cons, ih]
    rfl

/-- **Rearranging twice** writes what rearranging once does. -/
theorem runText_rearranged_twice (rule : Rule) (n line : Nat) (bs : List ImportBlock) :
    runText (rearranged rule (settleImports n line (rearranged rule bs))) =
      runText (rearranged rule bs) := by
  rw [runText_rearranged_eq, core_settleImports, core_rearranged, bucketsOf_flatten,
    ← runText_rearranged_eq]

/-! ## The fix of a run, twice -/

theorem runText_settleImports (n line : Nat) (bs : List ImportBlock) :
    runText (settleImports n line bs) = runText bs := by
  induction bs generalizing n line with
  | nil => rfl
  | cons b rest ih =>
    cases rest with
    | nil => rfl
    | cons c rest => exact congrArg (b.chars ++ ·) (ih _ _)

/-- The lines of settled blocks can be counted on from, if those of their text can. -/
theorem inRange_settleImports (n : Nat) {line : Nat} {bs : List ImportBlock}
    (h : line + lineBreaks (importChars bs) + 1 < lineBound) :
    ∀ b ∈ settleImports n line bs, b.decl.InRange := by
  induction bs generalizing n line with
  | nil => exact fun b hb => (List.not_mem_nil hb).elim
  | cons b rest ih =>
    simp only [importChars_cons, ImportBlock.chars, lineBreaks_append] at h
    refine List.forall_mem_cons.2 ⟨?_,
      ih _ (by simp only [ImportBlock.chars, lineBreaks_append]; omega)⟩
    exact ⟨show line + 1 < lineBound by omega,
      show line + lineBreaks b.body + 1 < lineBound by omega⟩

/-- Blocks that are rearranged and settled still describe their texts. -/
theorem proper_settled_rearranged {rule : Rule} {bs : List ImportBlock} (h : ∀ b ∈ bs, b.Proper)
    (n line : Nat) :
    ∀ x ∈ settleImports n line (rearranged rule bs), x.Proper := by
  intro x hx
  obtain ⟨y, hy, m, l, rfl⟩ := mem_settleImports hx
  obtain ⟨b, hb, hbare⟩ := List.mem_map.1
    ((rearranged_perm (f := ImportBlock.bare) (fun _ _ => rfl) rule bs).mem_iff.1
      (List.mem_map_of_mem hy))
  have hproper := (h b hb).of_bare hbare
  exact ⟨hproper.span, hproper.body, hproper.specifiers⟩

/-- A rearranged run ends with the text after the old one. -/
theorem importChars_rearranged {bs : List ImportBlock} (h : bs ≠ []) (rule : Rule) :
    importChars (rearranged rule bs) = runText (rearranged rule bs) ++ lastGap bs := by
  rw [importChars_eq, lastGap_rearranged h]

/-- Where the text of an import ends. -/
theorem stop_eq_of_inLine {text : List Char} {outer s : Span} {spans : List Span}
    (h : InLine text outer spans) (hs : s ∈ spans) :
    s.stop = s.start + byteLength (sliceOf text s.start s.stop) := by
  obtain ⟨hstart, hstop⟩ := h.cuts s hs
  obtain ⟨body, hbody⟩ := exists_between? hstart hstop (Nat.le_of_lt (h.proper s hs))
  obtain ⟨-, -, -, -, hlen⟩ := between?_eq_some_iff.1 hbody
  rw [sliceOf, hbody]
  exact hlen.symm

section

variable {text : String} {r : Run} {lead : List Char} {bs : List ImportBlock}

/-- The run laid out anew is that of the rearranged blocks, as they are read. -/
theorem Run.CutInto.anew_plain (h : r.CutInto text lead bs)
    (hline : InLine text.toList (wholeSpan text.toList) (r.imports.map ImportDecl.span))
    (hbare : bs.map ImportBlock.bare = r.imports.map fun d => blockIn text.toList (d, []))
    (rule : Rule) :
    (r.anew text rule).map ImportDecl.plain = placeImports (byteLength lead)
      (settleImports (byteLength lead) (1 + lineBreaks lead) (rearranged rule bs)) := by
  rw [Run.anew, h.start_eq, h.lineAt_start, layOut_plain, ← stacked_blocks rule text.toList hbare,
    rearranged, placeImports_closeWith]
  intro p hp
  have hmem : p.1 ∈ r.imports := by
    have hstacked : p.1 ∈ (stacked rule r.imports).map Prod.fst := List.mem_map_of_mem hp
    rw [stacked_fst] at hstacked
    exact (flatten_bucketsOf_perm rule id r.imports).mem_iff.1 hstacked
  exact stop_eq_of_inLine hline (List.mem_map_of_mem hmem)

/-- Applying the fix of a run puts the rearranged blocks into the place of the run. -/
theorem Run.CutInto.applyAll_eq (h : r.CutInto text lead bs) (new : List Char) :
    Fix.applyAll text
      [⟨⟨byteLength lead, byteLength lead + byteLength (runText bs)⟩, String.ofList new⟩] =
      .ok (String.ofList (lead ++ (new ++ lastGap bs))) := by
  have happly := applyAll_swap lead (runText bs) new (lastGap bs)
  rwa [List.append_assoc, ← importChars_eq, ← h.text_eq, List.append_assoc] at happly

/-- The blocks that the run laid out anew is cut into. -/
theorem Run.CutInto.again (h : r.CutInto text lead bs)
    (hline : InLine text.toList (wholeSpan text.toList) (r.imports.map ImportDecl.span))
    (hbare : bs.map ImportBlock.bare = r.imports.map fun d => blockIn text.toList (d, []))
    (rule : Rule) :
    ∃ again : Run, again.imports = r.anew text rule ∧
      again.CutInto (String.ofList (lead ++ importChars (rearranged rule bs))) lead
        (settleImports (byteLength lead) (1 + lineBreaks lead) (rearranged rule bs)) := by
  have hplain := h.anew_plain hline hbare rule
  cases hanew : r.anew text rule with
  | nil =>
    rw [hanew] at hplain
    cases hrearranged : rearranged rule bs with
    | nil => exact absurd hrearranged (rearranged_ne_nil h.ne_nil rule)
    | cons b rest =>
      rw [hrearranged] at hplain
      cases hplain
  | cons d rest =>
    rw [hanew] at hplain
    refine ⟨⟨r.firstIndex, d, rest⟩, rfl, ?_, hplain.symm, proper_settled_rearranged h.proper _ _⟩
    rw [importChars_settleImports]

end

/-- Nothing is wrong with the order of the run laid out anew. -/
theorem firstViolation_settled {rule : Rule} {lead : List Char} {bs : List ImportBlock}
    {ds : List ImportDecl} (hds : ds.map ImportDecl.plain = placeImports (byteLength lead)
      (settleImports (byteLength lead) (1 + lineBreaks lead) (rearranged rule bs)))
    (hcount : lineCount (String.ofList (lead ++ importChars (rearranged rule bs))) < 2 ^ 32 - 1) :
    firstViolation rule ds = .ok none := by
  rw [lineCount, String.toList_ofList, lineBreaks_append] at hcount
  have hlines :
      1 + lineBreaks lead + lineBreaks (importChars (rearranged rule bs)) + 1 < lineBound := by
    rw [lineBound]
    omega
  have hrange := inRange_settleImports (byteLength lead) hlines
  rw [← firstViolation_plain, hds, firstViolation_eq hrange,
    (violation?_eq_none (lined_settleImports ..) hrange).2
      (inOrder_settleImports.2 (inOrder_rearranged rule bs))]

/-- **Fixing a run is final.** For a run of imports that stand in a text one after
another, the fix exists and can be applied. In the new text the imports stand in the
desired order, each with the text it had, at the places of `Run.anew`. Their order
breaks no rule, as long as their lines can be counted, and the fix that they would get
writes the text that is already there. -/
theorem runFix_idempotent (text : String) (rule : Rule) (r : Run)
    (hline : InLine text.toList (wholeSpan text.toList) (r.imports.map ImportDecl.span)) :
    ∃ fix out again place,
      runFix text rule r = .ok fix ∧ Fix.applyAll text [fix] = .ok out ∧
      List.Forall₂ (StandsAs text out) (desiredOrder rule r.imports).flatten (r.anew text rule) ∧
      again.imports = r.anew text rule ∧
      (lineCount out < 2 ^ 32 - 1 → firstViolation rule again.imports = .ok none) ∧
      runFix out rule again = .ok ⟨place, fix.replacement⟩ ∧
      place.start = fix.span.start ∧ place.slice out = .ok fix.replacement := by
  obtain ⟨lead, bs, hcut, hbare⟩ := Run.exists_cutInto hline
  obtain ⟨again, hagain, hcutAgain⟩ := hcut.again hline hbare rule
  have hne := hcut.ne_nil
  have hout := hcut.applyAll_eq (runText (rearranged rule bs))
  rw [← importChars_rearranged hne] at hout
  -- the new text is the lead, the stacked blocks, and what followed the run
  have hparts : (String.ofList (lead ++ importChars (rearranged rule bs))).toList =
      lead ++ runText ((stacked rule r.imports).map (blockIn text.toList)) ++ lastGap bs := by
    rw [String.toList_ofList, importChars_rearranged hne, rearranged, runText_closeWith,
      stacked_blocks rule text.toList hbare, List.append_assoc]
  refine ⟨_, _, again,
    ⟨byteLength lead, byteLength lead + byteLength (runText (rearranged rule bs))⟩,
    hcut.runFix_eq rule, hout, ?_, hagain, fun hcount => ?_, ?_, rfl, ?_⟩
  · rw [Run.anew, hcut.start_eq, hcut.lineAt_start, ← stacked_fst, List.forall₂_map_left_iff]
    exact layOut_stands hparts
  · rw [hagain]
    exact firstViolation_settled (hcut.anew_plain hline hbare rule) hcount
  · rw [hcutAgain.runFix_eq, runText_settleImports, runText_rearranged_twice]
  · rw [Span.slice_eq_ok_iff, String.toList_ofList, importChars_rearranged hne]
    exact between?_eq_some_iff.2 ⟨lead, lastGap bs, (List.append_assoc ..).symm, rfl, rfl⟩

/-- An import over two lines comes after one of values and one of types, with a
character of two bytes before all of them, and a blank line between the categories. -/
theorem runFix_idempotent_two_lines :
    let text := "é b(\n) a\nT;"
    let out := "é T\n\na\nb(\n);"
    let rule : Rule := { enforceBlankLine := true, ignoreCase := false }
    let b : ImportDecl := ⟨⟨3, 7⟩, 1, 2, some .value, "b", []⟩
    let a : ImportDecl := ⟨⟨8, 9⟩, 2, 2, some .value, "a", []⟩
    let t : ImportDecl := ⟨⟨10, 11⟩, 3, 3, some .type, "t", []⟩
    InLine text.toList (wholeSpan text.toList) ((Run.mk 0 b [a, t]).imports.map ImportDecl.span) ∧
      runFix text rule ⟨0, b, [a, t]⟩ = .ok ⟨⟨3, 11⟩, "T\n\na\nb(\n)"⟩ ∧
      ∃ again place, again.imports = [
          { t with span := ⟨3, 4⟩, startLine := 1, endLine := 1 },
          { a with span := ⟨6, 7⟩, startLine := 3, endLine := 3 },
          { b with span := ⟨8, 12⟩, startLine := 4, endLine := 5 }] ∧
        firstViolation rule again.imports = .ok none ∧
        runFix out rule again = .ok ⟨place, "T\n\na\nb(\n)"⟩ ∧
          place.slice out = .ok "T\n\na\nb(\n)" := by
  intro text out rule b a t
  have hline :
      InLine text.toList (wholeSpan text.toList)
        ((Run.mk 0 b [a, t]).imports.map ImportDecl.span) := by
    decide
  obtain ⟨fix, out', again, place, hfix, hout, -, hagain, hviolation, htwice, -, hslice⟩ :=
    runFix_idempotent text rule ⟨0, b, [a, t]⟩ hline
  have hdesired : desiredOrder rule [b, a, t] = [[t], [a, b], []] := by
    have hba : comparePaths false b a = .gt := by decide
    have hvalues : [b, a].mergeSort (fun x y => comparePaths false x y != .gt) = [a, b] := by
      simp [List.mergeSort, hba]
    have hbuckets : desiredOrder rule [b, a, t] =
        [[t].mergeSort (fun x y => comparePaths false x y != .gt),
          [b, a].mergeSort (fun x y => comparePaths false x y != .gt), [].mergeSort _] := rfl
    rw [hbuckets, hvalues, List.mergeSort_singleton, List.mergeSort_nil]
  have hfix' : runFix text rule ⟨0, b, [a, t]⟩ = .ok ⟨⟨3, 11⟩, "T\n\na\nb(\n)"⟩ := by
    have hspan : Run.span ⟨0, b, [a, t]⟩ = .ok ⟨3, 11⟩ := by decide
    have htext : renderBuckets text true [[t], [a, b], []] = .ok "T\n\na\nb(\n)" := by
      decide +kernel
    have himports : Run.imports ⟨0, b, [a, t]⟩ = [b, a, t] := rfl
    rw [runFix, bind_ok hspan, himports, hdesired]
    exact bind_ok htext
  have hanew :
      Run.anew text rule ⟨0, b, [a, t]⟩ = [{ t with span := ⟨3, 4⟩, startLine := 1, endLine := 1 },
        { a with span := ⟨6, 7⟩, startLine := 3, endLine := 3 },
      { b with span := ⟨8, 12⟩, startLine := 4, endLine := 5 }] := by
    have himports : Run.imports ⟨0, b, [a, t]⟩ = [b, a, t] := rfl
    rw [Run.anew, himports, stacked, hdesired]
    decide +kernel
  obtain rfl := Except.ok.inj (hfix.symm.trans hfix')
  have hout' : Fix.applyAll text [⟨⟨3, 11⟩, "T\n\na\nb(\n)"⟩] = .ok out := by decide +kernel
  obtain rfl := Except.ok.inj (hout.symm.trans hout')
  exact ⟨hline, hfix', again, place, hagain.trans hanew, hviolation (by decide), htwice, hslice⟩

end ImportOrder

import ImportOrder.Proofs.RunLayout
import ImportOrder.Proofs.Script

/-!
# What a check finds in one run

A run of blocks that stands somewhere in a text is checked: its order, its braced lists,
the blank line after it. `findingsAt` says what is found, in terms of the blocks alone,
and `runFindings_placed` that this is what the program finds. `tidyRun` is the run with
the fixes done that are kept.

If the run is out of order, the fix for the whole run is kept and the fixes inside it
are withheld. Otherwise all of them are kept, for they lie side by side.
-/

namespace ImportOrder

/-! ## The order of a run -/

/-- The lines of a declaration can be counted on from. -/
def ImportDecl.InRange (d : ImportDecl) : Prop :=
  d.startLine + 1 < lineBound ∧ d.endLine + 1 < lineBound

/-- What is wrong with the order of a run, if anything is. -/
def violation? (rule : Rule) (bs : List ImportBlock) : Option Violation :=
  match firstViolation rule (bs.map ImportBlock.decl) with
  | .ok violation => violation
  | .error _ => none

theorem pairViolation_ok (rule : Rule) {a : ImportDecl} (ha : a.InRange) (b : ImportDecl) :
    ∃ violation, pairViolation rule a b = .ok violation := by
  unfold pairViolation
  split
  · exact ⟨_, rfl⟩
  · exact ⟨_, rfl⟩
  · split
    · rw [nextLine, if_pos ha.1]
      exact ⟨_, rfl⟩
    · exact ⟨_, rfl⟩

/-- The order is judged where the lines are in range. -/
theorem firstViolation_ok (rule : Rule) {ds : List ImportDecl} (h : ∀ d ∈ ds, d.InRange) :
    ∃ violation, firstViolation rule ds = .ok violation := by
  induction ds with
  | nil => exact ⟨none, rfl⟩
  | cons a rest ih =>
    cases rest with
    | nil => exact ⟨none, rfl⟩
    | cons b rest =>
      obtain ⟨ha, hrest⟩ := List.forall_mem_cons.1 h
      obtain ⟨v, hv⟩ := pairViolation_ok rule ha b
      rw [firstViolation, bind_ok hv]
      cases v with
      | some v => exact ⟨some v, rfl⟩
      | none => exact ih hrest

/-- The order of a run does not depend on where the run stands. -/
theorem firstViolation_placed (rule : Rule) (n : Nat) (bs : List ImportBlock) :
    firstViolation rule (placeImports n bs) = firstViolation rule (bs.map ImportBlock.decl) := by
  induction bs generalizing n with
  | nil => rfl
  | cons a rest ih =>
    cases rest with
    | nil => rfl
    | cons b rest =>
      have hrest := ih (n + byteLength a.chars)
      rw [placeImports, List.map_cons] at hrest
      rw [placeImports, placeImports, List.map_cons, List.map_cons, firstViolation,
        firstViolation, hrest]
      rfl

/-- The program finds the violation of the theory, wherever the run is placed. -/
theorem firstViolation_eq {rule : Rule} {bs : List ImportBlock} (h : ∀ b ∈ bs, b.decl.InRange)
    (n : Nat) :
    firstViolation rule (placeImports n bs) = .ok (violation? rule bs) := by
  have hrange : ∀ d ∈ bs.map ImportBlock.decl, d.InRange := List.forall_mem_map.2 h
  obtain ⟨v, hv⟩ := firstViolation_ok rule hrange
  rw [firstViolation_placed, violation?, hv]

/-! ## The braced lists of a run -/

/-- What is found at one block: its braced list, if that is not sorted. -/
def ImportBlock.listFinding (rule : Rule) (n : Nat) (b : ImportBlock) : List Finding :=
  if b.decl.unsorted rule.ignoreCase then
    (b.listFix rule.ignoreCase).toList.map fun fix => ⟨.specifierOrder, b.decl.shift n, fix.shift n⟩
  else []

/-- What is found at the blocks of a run, one after another. -/
def listFindings (rule : Rule) (n : Nat) : List ImportBlock → List Finding
  | [] => []
  | b :: rest => b.listFinding rule n ++ listFindings rule (n + byteLength b.chars) rest

theorem listFindings_cons (rule : Rule) (n : Nat) (b : ImportBlock) (rest : List ImportBlock) :
    listFindings rule n (b :: rest) =
      b.listFinding rule n ++ listFindings rule (n + byteLength b.chars) rest := rfl

/-- The block with its braced list sorted, if it was not. -/
def ImportBlock.mended (rule : Rule) (b : ImportBlock) : ImportBlock :=
  if b.decl.unsorted rule.ignoreCase then b.resorted rule.ignoreCase else b

/-- Sorting a list changes the body and the specifiers only. -/
theorem ImportBlock.mended_eq (b : ImportBlock) (rule : Rule) : ∃ specifiers body,
    b.mended rule = { b with decl := { b.decl with specifiers := specifiers }, body := body } := by
  unfold ImportBlock.mended ImportBlock.resorted
  split
  · split
    · exact ⟨_, _, rfl⟩
    · exact ⟨_, _, rfl⟩
  · exact ⟨_, _, rfl⟩

theorem ImportBlock.mended_origin (b : ImportBlock) (rule : Rule) :
    (b.mended rule).origin = b.origin := by
  obtain ⟨specifiers, body, h⟩ := b.mended_eq rule
  rw [h]

theorem ImportBlock.mended_gap (b : ImportBlock) (rule : Rule) : (b.mended rule).gap = b.gap := by
  obtain ⟨specifiers, body, h⟩ := b.mended_eq rule
  rw [h]

theorem ImportBlock.mended_endLine (b : ImportBlock) (rule : Rule) :
    (b.mended rule).decl.endLine = b.decl.endLine := by
  obtain ⟨specifiers, body, h⟩ := b.mended_eq rule
  rw [h]

/-- A list is unsorted wherever it stands. -/
theorem ImportDecl.unsorted_shift (n : Nat) (d : ImportDecl) (ignoreCase : Bool) :
    (d.shift n).unsorted ignoreCase = d.unsorted ignoreCase := by
  rw [ImportDecl.unsorted, ImportDecl.unsorted, ImportDecl.named_shift]
  generalize d.named = specs
  induction specs with
  | nil => rfl
  | cons a rest ih =>
    cases rest with
    | nil => rfl
    | cons b rest =>
      rw [List.map_cons] at ih
      rw [List.map_cons, List.map_cons, specifiersUnsorted, ih]
      rfl

/-- The program finds in an import what the theory finds in its block, wherever it is
placed in a text. -/
theorem specifierFinding_placed {b : ImportBlock} (h : b.Proper) (rule : Rule)
    (pre post : List Char) :
    specifierFinding (String.ofList (pre ++ b.body ++ post)) rule (b.decl.shift (byteLength pre)) =
      .ok (b.listFinding rule (byteLength pre)) := by
  rw [specifierFinding, ImportBlock.listFinding, ImportDecl.unsorted_shift]
  split
  · rw [bind_ok (specifierFix_placed h rule.ignoreCase pre post)]
    cases b.listFix rule.ignoreCase <;> rfl
  · rfl

theorem specifierFindings_placed {bs : List ImportBlock} (h : ∀ b ∈ bs, b.Proper) (rule : Rule)
    (pre post : List Char) :
    specifierFindings (String.ofList (pre ++ importChars bs ++ post)) rule
      (placeImports (byteLength pre) bs) =
      .ok (listFindings rule (byteLength pre) bs) := by
  induction bs generalizing pre with
  | nil => rfl
  | cons b rest ih =>
    obtain ⟨hb, hrest⟩ := List.forall_mem_cons.1 h
    have hlater := ih hrest (pre ++ b.chars)
    have hhere := specifierFinding_placed hb rule pre (b.gap ++ importChars rest ++ post)
    simp only [importChars_cons, ImportBlock.chars, byteLength_append,
      List.append_assoc] at hlater hhere ⊢
    rw [placeImports, specifierFindings_cons, bind_ok hhere]
    simp only [ImportBlock.chars, byteLength_append]
    rw [bind_ok hlater]
    simp only [listFindings, ImportBlock.chars, byteLength_append]

/-- The fix for the list of a block sorts the list. -/
theorem ImportBlock.rewrites_mended {b : ImportBlock} (h : b.Proper) (rule : Rule) :
    Rewrites b.body (b.mended rule).body fun n => (b.listFinding rule n).map Finding.fix := by
  by_cases hunsorted : b.decl.unsorted rule.ignoreCase
  · cases hnamed : b.decl.named with
    | nil =>
      rw [ImportDecl.unsorted, hnamed] at hunsorted
      cases hunsorted
    | cons first rest =>
      obtain ⟨pre, post, hbody, hmended, hstart, hstop⟩ := b.resorted_body h rule.ignoreCase hnamed
      have hscript := ((Rewrites.keep pre).append (Rewrites.swap (listText b.body b.decl.named)
        (relistText b.body b.decl.named (sortSpecifiers rule.ignoreCase b.decl.named)))).append
          (Rewrites.keep post)
      rw [← hmended, ← hbody] at hscript
      rw [ImportBlock.mended, if_pos hunsorted]
      refine hscript.congr fun n => ?_
      rw [ImportBlock.listFinding, if_pos hunsorted, ImportBlock.listFix]
      simp only [hnamed, List.nil_append, List.append_nil, Option.toList_some, List.map_cons,
        List.map_nil, Fix.shift, Span.shift]
      rw [← hnamed, ← hstart, ← hstop, Nat.add_assoc]
  · rw [ImportBlock.mended, if_neg hunsorted]
    refine (Rewrites.keep b.body).congr fun n => ?_
    rw [ImportBlock.listFinding, if_neg hunsorted]
    rfl

/-- The text of a run is the first import, the gap after it and the text of the
others. -/
theorem runText_cons (b c : ImportBlock) (rest : List ImportBlock) :
    runText (b :: c :: rest) = b.body ++ (b.gap ++ runText (c :: rest)) := List.append_assoc ..

/-- The fixes for the lists of a run sort the lists. -/
theorem rewrites_lists {bs : List ImportBlock} (h : ∀ b ∈ bs, b.Proper) (rule : Rule) :
    Rewrites (runText bs) (runText (bs.map (ImportBlock.mended rule)))
      fun n => (listFindings rule n bs).map Finding.fix := by
  induction bs with
  | nil => exact Rewrites.keep []
  | cons b rest ih =>
    obtain ⟨hb, hrest⟩ := List.forall_mem_cons.1 h
    cases rest with
    | nil =>
      refine (b.rewrites_mended hb rule).congr fun n => ?_
      simp only [listFindings, List.append_nil]
    | cons c rest =>
      have hscript := (b.rewrites_mended hb rule).append ((Rewrites.keep b.gap).append (ih hrest))
      rw [List.map_cons, List.map_cons, runText_cons, runText_cons, ImportBlock.mended_gap]
      refine hscript.congr fun n => ?_
      rw [listFindings_cons rule n b, List.map_append, List.nil_append, ImportBlock.chars,
        byteLength_append, Nat.add_assoc]

/-! ## The blank line after a run -/

/-- The line breaks that are missing for a blank line, if one line is followed by
another. -/
def breaksBetween (stop start : Nat) : Option (List Char) :=
  if start > stop + 1 then none else some (if start ≤ stop then ['\n', '\n'] else ['\n'])

/-- The line breaks that are missing between a run and the statement after it. -/
def missingBreaks (rule : Rule) (next : Option OtherBlock) (bs : List ImportBlock) :
    Option (List Char) :=
  match bs.getLast?, next with
  | some last, some o =>
    if rule.enforceTrailingLine then breaksBetween last.decl.endLine o.startLine else none
  | _, _ => none

/-- What is found after a run that stands at an offset. -/
def trailingAt (rule : Rule) (next : Option OtherBlock) (n : Nat) (bs : List ImportBlock) :
    List Finding :=
  match (placeImports n bs).getLast?, missingBreaks rule next bs with
  | some last, some breaks =>
    [⟨.missingTrailingLine, last, ⟨⟨n + byteLength (runText bs),
      n + byteLength (runText bs) + byteLength ((lastGap bs).takeWhile isPadding)⟩,
      String.ofList breaks⟩⟩]
  | _, _ => []

/-- The run with the missing line breaks in place of the blanks after it. -/
def padded (rule : Rule) (next : Option OtherBlock) (bs : List ImportBlock) : List ImportBlock :=
  match missingBreaks rule next bs with
  | some breaks => closeWith (breaks ++ (lastGap bs).dropWhile isPadding) bs
  | none => bs

/-- A text ends with what follows the last import of a run in it. -/
theorem between_lastGap (pre post : List Char) (bs : List ImportBlock) :
    Span.between (byteLength pre + byteLength (runText bs))
      (byteLength pre + byteLength (importChars bs))
      (pre ++ importChars bs ++ post) = .ok (lastGap bs) := by
  refine Span.between_eq_ok_iff.2 (between?_eq_some_iff.2 ⟨pre ++ runText bs, post, ?_, ?_, ?_⟩)
  · simp only [importChars_eq, List.append_assoc]
  · rw [byteLength_append]
  · rw [importChars_eq bs, byteLength_append, Nat.add_assoc]

theorem nextLine_eq {line : Nat} (h : line + 1 < lineBound) : nextLine line = .ok (line + 1) :=
  if_pos h

/-- The program proposes the line breaks that are missing after a run, in place of the
padding there. -/
theorem trailingFix_placed {b last : ImportBlock} {bs : List ImportBlock} {ss : List Statement}
    {next : Option OtherBlock} {index : Nat} {pre : List Char} (hproper : ∀ x ∈ b :: bs, x.Proper)
    (hrange : ∀ x ∈ b :: bs, x.decl.InRange) (hlast : (b :: bs).getLast? = some last)
    (hnext : ss[index + bs.length + 1]? =
      next.map (OtherBlock.place (byteLength pre + byteLength (importChars (b :: bs)))))
    (post : List Char) :
    trailingFix (String.ofList (pre ++ importChars (b :: bs) ++ post)) ss
      ⟨index, b.decl.shift (byteLength pre),
        placeImports (byteLength pre + byteLength b.chars) bs⟩ =
      .ok (next.bind fun o => (breaksBetween last.decl.endLine o.startLine).map fun breaks =>
        ⟨⟨byteLength pre + byteLength (runText (b :: bs)),
            byteLength pre + byteLength (runText (b :: bs)) +
              byteLength ((lastGap (b :: bs)).takeWhile isPadding)⟩,
          String.ofList breaks⟩) := by
  obtain ⟨m, hplaced, -, hstop⟩ := getLast_placeImports (List.cons_ne_nil b bs) (byteLength pre)
  have hmem : last ∈ b :: bs := List.mem_of_getLast? hlast
  rw [List.getLast?_eq_some_getLast (List.cons_ne_nil b bs), Option.some.injEq] at hlast
  rw [hlast] at hplaced hstop
  have hrun :
      Run.last ⟨index, b.decl.shift (byteLength pre),
        placeImports (byteLength pre + byteLength b.chars) bs⟩ =
      last.decl.shift m := hplaced
  have hindex : Run.lastIndex ⟨index, b.decl.shift (byteLength pre),
      placeImports (byteLength pre + byteLength b.chars) bs⟩ + 1 = index + bs.length + 1 := by
    rw [Run.lastIndex_eq, placeImports_length]
  unfold trailingFix
  rw [hindex, hnext, hrun]
  cases next with
  | none => rfl
  | some o =>
    simp only [Option.map_some, Option.bind_some, (hproper last hmem).span_shift,
      String.toList_ofList, hstop, OtherBlock.startLine_place, OtherBlock.span_place,
      ImportDecl.endLine_shift]
    rw [bind_ok (nextLine_eq (hrange last hmem).2), breaksBetween]
    by_cases hfar : o.startLine > last.decl.endLine + 1
    · rw [if_pos hfar, if_pos hfar]
      rfl
    · rw [if_neg hfar, if_neg hfar, bind_ok (between_lastGap pre post (b :: bs)),
        bind_ok (Span.make_eq_ok (Nat.le_add_right ..)),
        byteLength_padding fun c hc => List.mem_takeWhile_imp hc]
      have hbreaks :
          String.ofList (if o.startLine ≤ last.decl.endLine then ['\n', '\n'] else ['\n']) =
          if o.startLine ≤ last.decl.endLine then "\n\n" else "\n" := by split <;> rfl
      rw [Option.map_some, hbreaks]
      rfl

theorem trailingFindings_placed {b : ImportBlock} {bs : List ImportBlock} {ss : List Statement}
    {next : Option OtherBlock} {index : Nat} {pre : List Char} (hproper : ∀ x ∈ b :: bs, x.Proper)
    (hrange : ∀ x ∈ b :: bs, x.decl.InRange)
    (hnext : ss[index + bs.length + 1]? =
      next.map (OtherBlock.place (byteLength pre + byteLength (importChars (b :: bs)))))
    (rule : Rule) (post : List Char) :
    trailingFindings (String.ofList (pre ++ importChars (b :: bs) ++ post)) rule ss
      ⟨index, b.decl.shift (byteLength pre), placeImports (byteLength pre + byteLength b.chars) bs⟩
        none =
        .ok (trailingAt rule next (byteLength pre) (b :: bs)) := by
  have hlast := List.getLast?_eq_some_getLast (List.cons_ne_nil b bs)
  have hfix := trailingFix_placed hproper hrange hlast hnext post
  have hplaced :=
    List.getLast?_eq_some_getLast (placeImports_ne_nil (List.cons_ne_nil b bs) (byteLength pre))
  unfold trailingFindings trailingAt missingBreaks
  rw [hlast, hplaced]
  cases rule.enforceTrailingLine with
  | false => cases next <;> rfl
  | true =>
    simp only [Option.isNone_none, Bool.and_self, if_true]
    rw [bind_ok hfix]
    cases next with
    | none => rfl
    | some o =>
      simp only [Option.bind_some]
      cases breaksBetween _ o.startLine <;> rfl

/-- The proposed fix rewrites the text after the run into what padding it leaves. -/
theorem rewrites_padded {bs : List ImportBlock} (h : bs ≠ []) (rule : Rule)
    (next : Option OtherBlock) :
    Rewrites (lastGap bs) (lastGap (padded rule next bs)) fun n =>
      (missingBreaks rule next bs).toList.map fun breaks =>
        ⟨⟨n, n + byteLength ((lastGap bs).takeWhile isPadding)⟩, String.ofList breaks⟩ := by
  rw [padded]
  cases missingBreaks rule next bs with
  | none => exact Rewrites.keep _
  | some breaks =>
    have hscript := (Rewrites.swap ((lastGap bs).takeWhile isPadding) breaks).append
      (Rewrites.keep ((lastGap bs).dropWhile isPadding))
    rw [List.takeWhile_append_dropWhile] at hscript
    simp only [lastGap_closeWith h]
    exact hscript

/-! ## All that is found in a run -/

/-- The finding that a run is out of order. -/
def orderFinding (rule : Rule) (cause : Violation) (n : Nat) (b : ImportBlock)
    (rest : List ImportBlock) : Finding where
  problem := .importOrder cause
  decl := b.decl.shift n
  fix :=
    ⟨⟨n, n + byteLength (runText (b :: rest))⟩,
      String.ofList (runText (rearranged rule (b :: rest)))⟩

/-- What is found in a run that stands at an offset. -/
def findingsAt (rule : Rule) (next : Option OtherBlock) (n : Nat) (bs : List ImportBlock) :
    List Finding :=
  match violation? rule bs, bs with
  | some cause, b :: rest => orderFinding rule cause n b rest :: listFindings rule n (b :: rest)
  | _, bs => listFindings rule n bs ++ trailingAt rule next n bs

/-- What is reported of a run that stands at an offset. -/
def diagnosticsAt (rule : Rule) (next : Option OtherBlock) (n : Nat) (bs : List ImportBlock) :
    List Diagnostic :=
  match violation? rule bs, bs with
  | some cause, b :: rest =>
    (orderFinding rule cause n b rest).report true ::
      (listFindings rule n (b :: rest)).map (·.report false)
  | _, bs => (listFindings rule n bs ++ trailingAt rule next n bs).map (·.report true)

/-- In a run out of order, its order is found and its lists, but not the line after
it. -/
theorem findingsAt_of_some {rule : Rule} {cause : Violation} {b : ImportBlock}
    {rest : List ImportBlock} (h : violation? rule (b :: rest) = some cause)
    (next : Option OtherBlock) (n : Nat) :
    findingsAt rule next n (b :: rest) =
      orderFinding rule cause n b rest :: listFindings rule n (b :: rest) := by
  unfold findingsAt
  rw [h]

theorem findingsAt_of_none {rule : Rule} {bs : List ImportBlock} (h : violation? rule bs = none)
    (next : Option OtherBlock) (n : Nat) :
    findingsAt rule next n bs = listFindings rule n bs ++ trailingAt rule next n bs := by
  unfold findingsAt
  rw [h]

/-- In a run out of order the fix for the order is kept, and those for the lists inside
it are withheld. -/
theorem diagnosticsAt_of_some {rule : Rule} {cause : Violation} {b : ImportBlock}
    {rest : List ImportBlock} (h : violation? rule (b :: rest) = some cause)
    (next : Option OtherBlock) (n : Nat) :
    diagnosticsAt rule next n (b :: rest) = (orderFinding rule cause n b rest).report true ::
      (listFindings rule n (b :: rest)).map (·.report false) := by
  unfold diagnosticsAt
  rw [h]

/-- In a run in order all fixes are kept. -/
theorem diagnosticsAt_of_none {rule : Rule} {bs : List ImportBlock} (h : violation? rule bs = none)
    (next : Option OtherBlock) (n : Nat) : diagnosticsAt rule next n bs =
      (listFindings rule n bs ++ trailingAt rule next n bs).map (·.report true) := by
  unfold diagnosticsAt
  rw [h]

/-- **What the program finds in a run** is what is wrong with its blocks. -/
theorem runFindings_placed {b : ImportBlock} {bs : List ImportBlock} {ss : List Statement}
    {next : Option OtherBlock} {index : Nat} {pre : List Char} (hproper : ∀ x ∈ b :: bs, x.Proper)
    (hrange : ∀ x ∈ b :: bs, x.decl.InRange)
    (hnext : ss[index + bs.length + 1]? =
      next.map (OtherBlock.place (byteLength pre + byteLength (importChars (b :: bs)))))
    (rule : Rule) (post : List Char) :
    runFindings (String.ofList (pre ++ importChars (b :: bs) ++ post)) rule ss
      ⟨index, b.decl.shift (byteLength pre),
        placeImports (byteLength pre + byteLength b.chars) bs⟩ =
        .ok (findingsAt rule next (byteLength pre) (b :: bs)) := by
  have hviolation : firstViolation rule (Run.imports ⟨index, b.decl.shift (byteLength pre),
      placeImports (byteLength pre + byteLength b.chars) bs⟩) = .ok (violation? rule (b :: bs)) :=
    firstViolation_eq hrange (byteLength pre)
  have hlists : specifierFindings (String.ofList (pre ++ importChars (b :: bs) ++ post)) rule
      (Run.imports ⟨index, b.decl.shift (byteLength pre),
        placeImports (byteLength pre + byteLength b.chars) bs⟩) =
        .ok (listFindings rule (byteLength pre) (b :: bs)) :=
          specifierFindings_placed hproper rule pre post
  rw [runFindings_eq, bind_ok hviolation]
  cases hcause : violation? rule (b :: bs) with
  | none =>
    rw [findingsAt_of_none hcause, orderFindings, bind_ok rfl, bind_ok hlists,
      bind_ok (trailingFindings_placed hproper hrange hnext rule post)]
    rfl
  | some cause =>
    rw [findingsAt_of_some hcause, orderFindings,
      bind_ok (runFix_placed hproper rule pre post index), bind_ok rfl, bind_ok hlists]
    simp only [trailingFindings, Option.isNone_some, Bool.false_and, Bool.false_eq_true, if_false]
    rw [bind_ok rfl, List.append_nil]
    rfl

/-! ## What is reported, and what becomes of the run -/

/-- The run after the fixes that are kept. -/
def tidyRun (rule : Rule) (next : Option OtherBlock) (bs : List ImportBlock) : List ImportBlock :=
  match violation? rule bs with
  | some _ => rearranged rule bs
  | none => padded rule next (bs.map (ImportBlock.mended rule))

/-- A run out of order is rearranged, and nothing else. -/
theorem tidyRun_of_some {rule : Rule} {cause : Violation} {bs : List ImportBlock}
    (h : violation? rule bs = some cause) (next : Option OtherBlock) :
    tidyRun rule next bs = rearranged rule bs := by
  rw [tidyRun, h]

/-- A run in order has its lists sorted, and is padded. -/
theorem tidyRun_of_none {rule : Rule} {bs : List ImportBlock} (h : violation? rule bs = none)
    (next : Option OtherBlock) :
    tidyRun rule next bs = padded rule next (bs.map (ImportBlock.mended rule)) := by
  rw [tidyRun, h]

theorem fixesOf_append (ds es : List Diagnostic) : fixesOf (ds ++ es) = fixesOf ds ++ fixesOf es :=
  List.filterMap_append

theorem fixesOf_kept (found : List Finding) :
    fixesOf (found.map (·.report true)) = found.map Finding.fix := by
  induction found with
  | nil => rfl
  | cons f rest ih => rw [List.map_cons, fixesOf_report_true, ih, List.map_cons]

theorem fixesOf_withheld (found : List Finding) : fixesOf (found.map (·.report false)) = [] := by
  induction found with
  | nil => rfl
  | cons f rest ih => rw [List.map_cons, fixesOf_report_false, ih]

theorem lastGap_mended (rule : Rule) (bs : List ImportBlock) :
    lastGap (bs.map (ImportBlock.mended rule)) = lastGap bs := by
  induction bs with
  | nil => rfl
  | cons b rest ih =>
    cases rest with
    | nil => exact b.mended_gap rule
    | cons c rest => exact ih

theorem missingBreaks_mended (rule : Rule) (next : Option OtherBlock) (bs : List ImportBlock) :
    missingBreaks rule next (bs.map (ImportBlock.mended rule)) = missingBreaks rule next bs := by
  unfold missingBreaks
  rw [List.getLast?_map]
  cases bs.getLast? with
  | none => rfl
  | some last => cases next <;> simp only [Option.map_some, ImportBlock.mended_endLine]

/-- Padding changes nothing but the text after the last block. -/
theorem padded_map {β : Type} {f : ImportBlock → β} (hf : ∀ b gap, f { b with gap := gap } = f b)
    (rule : Rule) (next : Option OtherBlock) (bs : List ImportBlock) :
    (padded rule next bs).map f = bs.map f := by
  unfold padded
  split
  · exact closeWith_map hf _ bs
  · rfl

theorem runText_padded (rule : Rule) (next : Option OtherBlock) (bs : List ImportBlock) :
    runText (padded rule next bs) = runText bs := by
  unfold padded
  split
  · exact runText_closeWith _ bs
  · rfl

/-- **The fixes that are kept for a run make it tidy.** If it is out of order, one fix
replaces its text and leaves its last gap. Otherwise the fixes for the lists lie in its
text, and the fix for a missing line lies in its last gap. -/
theorem rewrites_tidyRun {bs : List ImportBlock} (h : ∀ b ∈ bs, b.Proper) (rule : Rule)
    (next : Option OtherBlock) : Rewrites (importChars bs) (importChars (tidyRun rule next bs))
      fun n => fixesOf (diagnosticsAt rule next n bs) := by
  obtain _ | ⟨b, rest⟩ := bs
  · exact Rewrites.keep []
  cases hcause : violation? rule (b :: rest) with
  | some cause =>
    have hscript :=
      (Rewrites.swap (runText (b :: rest)) (runText (rearranged rule (b :: rest)))).append
      (Rewrites.keep (lastGap (b :: rest)))
    rw [tidyRun_of_some hcause, importChars_eq, importChars_eq (rearranged rule _),
      lastGap_rearranged (List.cons_ne_nil b rest)]
    refine hscript.congr fun n => ?_
    rw [diagnosticsAt_of_some hcause, fixesOf_report_true, fixesOf_withheld]
    rfl
  | none =>
    have hmended : (b :: rest).map (ImportBlock.mended rule) ≠ [] := List.cons_ne_nil _ _
    have hscript := (rewrites_lists h rule).append (rewrites_padded hmended rule next)
    rw [lastGap_mended, missingBreaks_mended, ← importChars_eq] at hscript
    rw [tidyRun_of_none hcause, importChars_eq (padded rule next _), runText_padded]
    refine hscript.congr fun n => ?_
    rw [diagnosticsAt_of_none hcause, fixesOf_kept, List.map_append, trailingAt,
      List.getLast?_eq_some_getLast (placeImports_ne_nil (List.cons_ne_nil b rest) n)]
    cases missingBreaks rule next (b :: rest) <;> rfl

/-- The block without its gap. -/
def ImportBlock.bare (b : ImportBlock) : ImportBlock := { b with gap := [] }

theorem ImportBlock.eq_of_bare {x y : ImportBlock} (h : y.bare = x.bare) :
    y.origin = x.origin ∧ y.decl = x.decl ∧ y.body = x.body := by
  have horigin := congrArg ImportBlock.origin h
  have hdecl := congrArg ImportBlock.decl h
  have hbody := congrArg ImportBlock.body h
  exact ⟨horigin, hdecl, hbody⟩

/-- A run out of order keeps its blocks, up to their gaps. -/
theorem exists_bare_of_some {rule : Rule} {cause : Violation} {next : Option OtherBlock}
    {bs : List ImportBlock} {x : ImportBlock} (h : violation? rule bs = some cause)
    (hx : x ∈ tidyRun rule next bs) :
    ∃ b ∈ bs, b.bare = x.bare := by
  rw [tidyRun_of_some h] at hx
  exact List.mem_map.1
    ((rearranged_perm (fun _ _ => rfl) rule bs).mem_iff.1 (List.mem_map_of_mem hx))

/-- A run in order has its lists sorted. -/
theorem exists_bare_of_none {rule : Rule} {next : Option OtherBlock} {bs : List ImportBlock}
    {x : ImportBlock} (h : violation? rule bs = none) (hx : x ∈ tidyRun rule next bs) :
    ∃ b ∈ bs, (b.mended rule).bare = x.bare := by
  have hmem : x.bare ∈ (tidyRun rule next bs).map ImportBlock.bare := List.mem_map_of_mem hx
  rw [tidyRun_of_none h, padded_map (fun _ _ => rfl), List.map_map] at hmem
  exact List.mem_map.1 hmem

/-! ## Keeping and withholding -/

/-- Findings whose fixes are clear of each other and of what is taken are all reported
with them. -/
theorem withhold_keeps {taken : List Span} {found : List Finding}
    (hclear : (found.map Finding.fix).Pairwise Fix.Clear)
    (htaken : ∀ t ∈ taken, ∀ f ∈ found, t.overlaps f.fix.span = false) (more : List Finding) :
    withhold taken (found ++ more) = found.map (·.report true) ++
      withhold ((found.map (·.fix.span)).reverse ++ taken) more := by
  induction found generalizing taken with
  | nil => rfl
  | cons f rest ih =>
    obtain ⟨hhead, hrest⟩ := List.pairwise_cons.1 hclear
    have hfree : taken.any (·.overlaps f.fix.span) = false :=
      List.any_eq_false.2 fun t ht => by simp [htaken t ht f List.mem_cons_self]
    have hnext : ∀ t ∈ f.fix.span :: taken, ∀ g ∈ rest, t.overlaps g.fix.span = false := by
      intro t ht g hg
      rcases List.mem_cons.1 ht with rfl | ht
      · exact hhead _ (List.mem_map_of_mem hg)
      · exact htaken t ht g (List.mem_cons_of_mem _ hg)
    rw [List.cons_append, withhold, hfree, if_neg Bool.false_ne_true, ih hrest hnext]
    simp only [List.map_cons, List.reverse_cons, List.append_assoc, List.cons_append,
      List.nil_append]

/-- Findings whose fixes overlap what is taken are all reported without them. -/
theorem withhold_drops {taken : List Span} {found : List Finding}
    (h : ∀ f ∈ found, ∃ t ∈ taken, t.overlaps f.fix.span = true) (more : List Finding) :
    withhold taken (found ++ more) = found.map (·.report false) ++ withhold taken more := by
  induction found with
  | nil => rfl
  | cons f rest ih =>
    obtain ⟨hf, hrest⟩ := List.forall_mem_cons.1 h
    rw [List.cons_append, withhold, List.any_eq_true.2 hf, if_pos rfl, ih hrest, List.map_cons,
      List.cons_append]

/-- The span of a braced list is not empty. -/
theorem listSpan_proper {text : List Char} {outer : Span} {first : Specifier}
    {rest : List Specifier} (h : InLine text outer ((first :: rest).map Specifier.span)) :
    (listSpan first rest).start < (listSpan first rest).stop := by
  have hfirst := h.proper first.span List.mem_cons_self
  cases rest with
  | nil => exact hfirst
  | cons second rest =>
    have hmem : ((second :: rest).getLast (List.cons_ne_nil _ _)).span ∈
        (second :: rest).map Specifier.span :=
      List.mem_map_of_mem (List.getLast_mem _)
    have hapart := List.rel_of_pairwise_cons h.apart hmem
    have hlast := h.proper _ (List.mem_cons_of_mem _ hmem)
    simp only [listSpan, List.getLast_cons (List.cons_ne_nil second rest)]
    omega

theorem ImportBlock.listFinding_proper {b : ImportBlock} (h : b.Proper) {rule : Rule} {n : Nat}
    {f : Finding} (hf : f ∈ b.listFinding rule n) : f.fix.span.start < f.fix.span.stop := by
  unfold ImportBlock.listFinding ImportBlock.listFix at hf
  split at hf
  · cases hnamed : b.decl.named with
    | nil =>
      rw [hnamed] at hf
      cases hf
    | cons first rest =>
      have hproper := listSpan_proper (hnamed ▸ h.named)
      rw [hnamed] at hf
      obtain rfl := List.mem_singleton.1 hf
      exact Nat.add_lt_add_left hproper n
  · cases hf

/-- The fixes for the lists of a run replace something. -/
theorem listFindings_proper {bs : List ImportBlock} (h : ∀ b ∈ bs, b.Proper) {rule : Rule} {n : Nat}
    {f : Finding} (hf : f ∈ listFindings rule n bs) : f.fix.span.start < f.fix.span.stop := by
  induction bs generalizing n with
  | nil => cases hf
  | cons b rest ih =>
    obtain ⟨hb, hrest⟩ := List.forall_mem_cons.1 h
    rcases List.mem_append.1 hf with hf | hf
    · exact b.listFinding_proper hb hf
    · exact ih hrest hf

/-- The fixes for lists lie inside the run. -/
theorem listFindings_within {bs : List ImportBlock} (h : ∀ b ∈ bs, b.Proper) {rule : Rule} {n : Nat}
    {f : Finding} (hf : f ∈ listFindings rule n bs) :
    n ≤ f.fix.span.start ∧ f.fix.span.stop ≤ n + byteLength (runText bs) := by
  have := (rewrites_lists h rule).within (n := n) (List.mem_map_of_mem hf)
  exact ⟨this.1, this.2.2⟩

theorem byteLength_runText_pos {bs : List ImportBlock} (h : ∀ b ∈ bs, b.Proper) (hne : bs ≠ []) :
    0 < byteLength (runText bs) := by
  obtain _ | ⟨b, _ | ⟨c, rest⟩⟩ := bs
  · exact absurd rfl hne
  · exact byteLength_pos (h b List.mem_cons_self).body
  · have := byteLength_pos (h b List.mem_cons_self).body
    rw [runText_cons, byteLength_append]
    omega

/-- The fix for a missing line lies behind the run. -/
theorem trailingAt_within {rule : Rule} {next : Option OtherBlock} {n : Nat} {bs : List ImportBlock}
    {f : Finding} (hf : f ∈ trailingAt rule next n bs) :
    bs ≠ [] ∧ f.fix.span.start = n + byteLength (runText bs) ∧
      f.fix.span.start ≤ f.fix.span.stop := by
  unfold trailingAt at hf
  split at hf
  · next hlast _ =>
    obtain rfl := List.mem_singleton.1 hf
    refine ⟨?_, rfl, Nat.le_add_right ..⟩
    rintro rfl
    cases hlast
  · cases hf

theorem trailingAt_pairwise (rule : Rule) (next : Option OtherBlock) (n : Nat)
    (bs : List ImportBlock) :
    (trailingAt rule next n bs).Pairwise fun a b => a.fix.Clear b.fix := by
  unfold trailingAt
  split
  · exact List.pairwise_singleton ..
  · exact List.Pairwise.nil

/-- The fixes for the lists of a run and for the line after it lie side by side. -/
theorem findings_clear {bs : List ImportBlock} (h : ∀ b ∈ bs, b.Proper) (rule : Rule)
    (next : Option OtherBlock) (n : Nat) :
    ((listFindings rule n bs ++ trailingAt rule next n bs).map Finding.fix).Pairwise Fix.Clear := by
  rw [List.pairwise_map]
  refine List.pairwise_append.2 ⟨?_, trailingAt_pairwise rule next n bs, ?_⟩
  · have hrow := List.pairwise_map.1 ((rewrites_lists h rule).inRow n)
    refine hrow.imp_of_mem fun {a b} ha hb hab => ?_
    have := listFindings_proper h ha
    have := listFindings_proper h hb
    exact Span.clear_of_stop_le hab (by omega)
  · intro a ha b hb
    have := listFindings_proper h ha
    have := listFindings_within h ha
    have := trailingAt_within hb
    exact Span.clear_of_stop_le (by omega) (by omega)

/-- **What is kept of a run.** Nothing before the run stands in the way of its fixes. If
the run is out of order, the fix for that takes up the place of all others; otherwise
all are kept. -/
theorem withhold_run {bs : List ImportBlock} (h : ∀ b ∈ bs, b.Proper) (rule : Rule)
    (next : Option OtherBlock) {n : Nat} {taken : List Span}
    (htaken : ∀ t ∈ taken, t.start ≤ t.stop ∧ t.stop ≤ n) (more : List Finding) :
    withhold taken (findingsAt rule next n bs ++ more) = diagnosticsAt rule next n bs ++
      withhold (((fixesOf (diagnosticsAt rule next n bs)).map Fix.span).reverse ++ taken) more := by
  cases hcause : violation? rule bs with
  | none =>
    rw [findingsAt_of_none hcause, diagnosticsAt_of_none hcause, fixesOf_kept, List.map_map]
    refine withhold_keeps (findings_clear h rule next n) ?_ more
    intro t ht f hf
    obtain ⟨hordered, hstop⟩ := htaken t ht
    rcases List.mem_append.1 hf with hf | hf
    · have := listFindings_proper h hf
      have := listFindings_within h hf
      exact Span.clear_of_stop_le (by omega) (by omega)
    · obtain ⟨hne, hstart, hle⟩ := trailingAt_within hf
      have := byteLength_runText_pos h hne
      exact Span.clear_of_stop_le (by omega) (by omega)
  | some cause =>
    obtain _ | ⟨b, rest⟩ := bs
    · cases hcause
    have hpos := byteLength_runText_pos h (List.cons_ne_nil b rest)
    have hfree : taken.any (·.overlaps (orderFinding rule cause n b rest).fix.span) = false := by
      refine List.any_eq_false.2 fun t ht => ?_
      obtain ⟨hordered, hstop⟩ := htaken t ht
      have hclear : t.overlaps (orderFinding rule cause n b rest).fix.span = false :=
        Span.clear_of_stop_le hstop (by simp only [orderFinding]; omega)
      rw [hclear]
      exact Bool.false_ne_true
    rw [findingsAt_of_some hcause, diagnosticsAt_of_some hcause, fixesOf_report_true,
      fixesOf_withheld, List.cons_append, withhold, hfree, if_neg Bool.false_ne_true,
      withhold_drops]
    · rfl
    · -- every list lies inside the run
      intro f hf
      have := listFindings_within h hf
      exact ⟨_, List.mem_cons_self,
        Span.overlaps_of_within (listFindings_proper h hf) this.1 this.2⟩

end ImportOrder

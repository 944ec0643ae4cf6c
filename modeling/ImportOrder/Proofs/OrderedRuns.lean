import ImportOrder.Proofs.TidyRun
import Mathlib.Data.List.Chain

/-!
# Runs that a check leaves alone

Where the lines of the blocks are counted, what a check minds in a run can be said of
its texts alone:

* `InOrder` — each import may be followed by the next one;
* `ListsSorted` — the braced lists are sorted;
* `Spaced` — a blank line stands between the run and the statement after it.

A run that is all of this is clean, and nothing is reported of it. Making a run tidy
brings it closer: a run out of order is put in order, and a run in order becomes clean.
-/

namespace ImportOrder

/-! ## Counted lines -/

/-- The lines of the blocks go on from the given one. -/
def Lined (line : Nat) : List ImportBlock → Prop
  | [] => True
  | b :: rest => b.decl.startLine = line ∧ b.decl.endLine = line + lineBreaks b.body ∧
      Lined (line + lineBreaks b.chars) rest

/-- Where the last block of a run ends. -/
theorem Lined.endLine_last {line : Nat} {bs : List ImportBlock} {last : ImportBlock}
    (h : Lined line bs) (hlast : bs.getLast? = some last) :
    last.decl.endLine = line + lineBreaks (runText bs) := by
  induction bs generalizing line with
  | nil => cases hlast
  | cons b rest ih =>
    obtain ⟨-, hend, hrest⟩ := h
    cases rest with
    | nil =>
      obtain rfl := Option.some.inj hlast
      exact hend
    | cons c rest =>
      rw [List.getLast?_cons_cons] at hlast
      rw [ih hrest hlast, runText, lineBreaks_append, Nat.add_assoc]

/-! ## Order -/

/-- The place of an import among the categories. -/
def ImportBlock.rank (rule : Rule) (b : ImportBlock) : Nat := rule.sortOrder.index b.decl.category

/-- An import may be followed by another one: by one of a later category, after a blank
line if that is asked for, or by one of the same category whose path does not sort
before. The blank line is looked for between the starts of the two. -/
def Follows (rule : Rule) (a b : ImportBlock) : Prop :=
  a.rank rule < b.rank rule ∧ (rule.enforceBlankLine = true → 2 ≤ lineBreaks a.chars) ∨
    a.rank rule = b.rank rule ∧ precedes rule.ignoreCase a.decl.path b.decl.path = true

/-- Each import of a run may be followed by the next one. -/
def InOrder (rule : Rule) (bs : List ImportBlock) : Prop := bs.IsChain (Follows rule)

/-- What `Follows` looks at. -/
def ImportBlock.look (rule : Rule) (b : ImportBlock) : Nat × String × Nat :=
  (b.rank rule, b.decl.path, lineBreaks b.chars)

/-- Whether a run is in order can be told from what is looked at. -/
theorem inOrder_congr {rule : Rule} {as bs : List ImportBlock}
    (h : as.map (ImportBlock.look rule) = bs.map (ImportBlock.look rule)) :
    InOrder rule as ↔ InOrder rule bs := by
  have hlook :
      ∀ cs : List ImportBlock, InOrder rule cs ↔ (cs.map (ImportBlock.look rule)).IsChain fun x y =>
      x.1 < y.1 ∧ (rule.enforceBlankLine = true → 2 ≤ x.2.2) ∨
        x.1 = y.1 ∧ precedes rule.ignoreCase x.2.1 y.2.1 = true := by
    intro cs
    rw [List.isChain_map]
    rfl
  rw [hlook, hlook, h]

/-- What stands after the last import does not matter. Whether or not the next block is
the last one, it has the declaration that it had. -/
theorem inOrder_closeWith {rule : Rule} {bs : List ImportBlock} (h : InOrder rule bs)
    (gap : List Char) :
    InOrder rule (closeWith gap bs) := by
  induction bs with
  | nil => exact h
  | cons a rest ih =>
    cases rest with
    | nil => exact List.isChain_singleton _
    | cons b rest =>
      obtain ⟨hab, hrest⟩ := List.isChain_cons_cons.1 h
      have hlater := ih hrest
      cases rest with
      | nil => exact List.isChain_cons_cons.2 ⟨hab, hlater⟩
      | cons c rest => exact List.isChain_cons_cons.2 ⟨hab, hlater⟩

/-- The program finds nothing wrong between two imports if one may follow the other. -/
theorem pairViolation_eq_none (rule : Rule) {a b : ImportBlock}
    (hline : b.decl.startLine = a.decl.startLine + lineBreaks a.chars) (hrange : a.decl.InRange) :
    pairViolation rule a.decl b.decl = .ok none ↔ Follows rule a b := by
  unfold pairViolation Follows compareCategories
  rw [← ImportBlock.rank, ← ImportBlock.rank]
  rcases Nat.lt_trichotomy (a.rank rule) (b.rank rule) with hlt | heq | hgt
  · -- a later category, which may need a blank line
    rw [Nat.compare_eq_lt.2 hlt]
    simp only [hlt, true_and, Nat.ne_of_lt hlt, false_and, or_false, nextLine_eq hrange.1, hline]
    cases rule.enforceBlankLine with
    | false => simp
    | true =>
      simp only [if_true, forall_const]
      rw [bind_ok rfl]
      split
      · simp only [Except.ok.injEq, reduceCtorEq, false_iff]
        omega
      · simp only [true_iff]
        omega
  · -- the same category, so that the paths decide
    rw [Nat.compare_eq_eq.2 heq]
    simp only [heq, Nat.lt_irrefl, false_and, true_and, false_or, comparePaths, precedes]
    by_cases hpath : compareTexts rule.ignoreCase a.decl.path b.decl.path = .gt <;> simp [hpath]
  · -- an earlier category is wrong, whatever the paths are
    rw [Nat.compare_eq_gt.2 hgt]
    simp only [Nat.lt_asymm hgt, Nat.ne_of_gt hgt, false_and, or_self, Except.ok.injEq,
      reduceCtorEq]

/-- **The program finds a run in order if it is.** -/
theorem violation?_eq_none {rule : Rule} {line : Nat} {bs : List ImportBlock}
    (hlined : Lined line bs) (hrange : ∀ b ∈ bs, b.decl.InRange) :
    violation? rule bs = none ↔ InOrder rule bs := by
  induction bs generalizing line with
  | nil => exact ⟨fun _ => List.isChain_nil, fun _ => rfl⟩
  | cons a rest ih =>
    cases rest with
    | nil => exact ⟨fun _ => List.isChain_singleton a, fun _ => rfl⟩
    | cons b rest =>
      obtain ⟨hstart, -, hlater⟩ := hlined
      obtain ⟨ha, hrest⟩ := List.forall_mem_cons.1 hrange
      have hpair := pairViolation_eq_none rule (hlater.1.trans (hstart ▸ rfl)) ha
      have hlast := ih hlater hrest
      rw [InOrder, List.isChain_cons_cons, ← hpair, ← InOrder, ← hlast, violation?, violation?,
        List.map_cons, List.map_cons, firstViolation]
      obtain ⟨v, hv⟩ := pairViolation_ok rule ha b.decl
      rw [bind_ok hv, hv]
      cases v with
      | some v => simp
      | none => simp

/-! ## A rearranged run is in order -/

/-- The imports of an earlier bucket come before those of a later one. -/
theorem pairwise_filledBuckets (rule : Rule) (bs : List ImportBlock) :
    (filledBuckets rule bs).Pairwise fun as bs => ∀ a ∈ as, ∀ b ∈ bs, a.rank rule < b.rank rule :=
  (pairwise_bucketsOf rule ImportBlock.decl bs).filter _

/-- The imports of one bucket are of one category and sorted by path. -/
theorem pairwise_bucket {rule : Rule} {bs bucket : List ImportBlock}
    (h : bucket ∈ filledBuckets rule bs) :
    bucket.Pairwise fun a b => a.rank rule = b.rank rule ∧
      precedes rule.ignoreCase a.decl.path b.decl.path = true := by
  refine (pairwise_of_mem_bucketsOf rule ImportBlock.decl
    (List.mem_filter.1 h).1).imp fun {a b} hab => ⟨?_, hab.2⟩
  rw [ImportBlock.rank, ImportBlock.rank, hab.1]

theorem mem_spacedBy {between last : List Char} {bs : List ImportBlock} {x : ImportBlock}
    (h : x ∈ spacedBy between last bs) : ∃ b ∈ bs, x.decl = b.decl := by
  have hmem : x.decl ∈ (spacedBy between last bs).map ImportBlock.decl := List.mem_map_of_mem h
  rw [spacedBy, closeWith_map (fun _ _ => rfl), List.map_map] at hmem
  obtain ⟨b, hb, hdecl⟩ := List.mem_map.1 hmem
  exact ⟨b, hb, hdecl.symm⟩

theorem gap_getLast?_spacedBy {between last : List Char} {bs : List ImportBlock} {x : ImportBlock}
    (h : x ∈ (spacedBy between last bs).getLast?) : x.gap = last := by
  have hne : bs.map (fun b => { b with gap := between }) ≠ [] := by
    intro hnil
    rw [spacedBy, hnil] at h
    cases h
  have hgap := getLast?_gap (closeWith_ne_nil hne last)
  rw [lastGap_closeWith hne, ← spacedBy, Option.mem_def.1 h] at hgap
  exact Option.some.inj hgap

/-- **A rearranged run is in order.** -/
theorem inOrder_rearranged (rule : Rule) (bs : List ImportBlock) :
    InOrder rule (rearranged rule bs) := by
  refine inOrder_closeWith ?_ _
  have hfilled : [] ∉ (filledBuckets rule bs).map (spacedBy ['\n'] (bucketGap rule)) := by
    intro hnil
    obtain ⟨bucket, hbucket, hempty⟩ := List.mem_map.1 hnil
    exact spacedBy_ne_nil (filledBuckets_ne_nil hbucket) _ _ hempty
  rw [List.flatMap_def, InOrder, List.isChain_flatten hfilled]
  constructor
  · refine List.forall_mem_map.2 fun bucket hbucket => ?_
    refine inOrder_closeWith ((List.isChain_map _).2 ((pairwise_bucket hbucket).isChain.imp ?_)) _
    exact fun a b hab => .inr hab
  · -- the last import of a bucket is followed by the first one of a later bucket
    refine (List.isChain_map _).2 ((pairwise_filledBuckets rule bs).isChain.imp ?_)
    intro as bs hranks x hx y hy
    obtain ⟨a, ha, hxa⟩ := mem_spacedBy (List.mem_of_getLast? hx)
    obtain ⟨b, hb, hyb⟩ := mem_spacedBy (List.mem_of_mem_head? hy)
    refine .inl ⟨?_, fun hblank => ?_⟩
    · rw [ImportBlock.rank, ImportBlock.rank, hxa, hyb]
      exact hranks a ha b hb
    · rw [ImportBlock.chars, lineBreaks_append, gap_getLast?_spacedBy hx, bucketGap, if_pos hblank]
      exact Nat.le_add_left ..

/-! ## What sorting a list leaves alone -/

/-- Sorting the list of an import keeps its lines, because it exchanges characters
only. -/
theorem ImportBlock.lineBreaks_mended {b : ImportBlock} (h : b.Proper) (rule : Rule) :
    lineBreaks (b.mended rule).body = lineBreaks b.body := by
  unfold ImportBlock.mended
  split
  · exact lineBreaks_perm (b.resorted_body_perm h rule.ignoreCase)
  · rfl

theorem ImportBlock.lineBreaks_mended_chars {b : ImportBlock} (h : b.Proper) (rule : Rule) :
    lineBreaks (b.mended rule).chars = lineBreaks b.chars := by
  rw [ImportBlock.chars, ImportBlock.chars, lineBreaks_append, lineBreaks_append,
    b.lineBreaks_mended h, b.mended_gap]

theorem ImportBlock.look_mended {b : ImportBlock} (h : b.Proper) (rule : Rule) :
    (b.mended rule).look rule = b.look rule := by
  obtain ⟨specifiers, body, hmended⟩ := b.mended_eq rule
  rw [ImportBlock.look, ImportBlock.look, b.lineBreaks_mended_chars h, hmended]
  rfl

theorem inOrder_mended {rule : Rule} {bs : List ImportBlock} (hproper : ∀ b ∈ bs, b.Proper) :
    InOrder rule (bs.map (ImportBlock.mended rule)) ↔ InOrder rule bs := by
  refine inOrder_congr ?_
  rw [List.map_map]
  exact List.map_congr_left fun b hb => b.look_mended (hproper b hb) rule

/-- The lines stay counted when lists are sorted. -/
theorem Lined.mended {line : Nat} {bs : List ImportBlock} (h : Lined line bs)
    (hproper : ∀ b ∈ bs, b.Proper) (rule : Rule) :
    Lined line (bs.map (ImportBlock.mended rule)) := by
  induction bs generalizing line with
  | nil => trivial
  | cons b rest ih =>
    obtain ⟨hstart, hend, hlater⟩ := h
    obtain ⟨hb, hrest⟩ := List.forall_mem_cons.1 hproper
    refine ⟨?_, ?_, ?_⟩
    · obtain ⟨specifiers, body, hmended⟩ := b.mended_eq rule
      rw [hmended]
      exact hstart
    · rw [b.mended_endLine, b.lineBreaks_mended hb]
      exact hend
    · rw [b.lineBreaks_mended_chars hb]
      exact ih hlater hrest

theorem lineBreaks_importChars_mended {bs : List ImportBlock} (hproper : ∀ b ∈ bs, b.Proper)
    (rule : Rule) :
    lineBreaks (importChars (bs.map (ImportBlock.mended rule))) = lineBreaks (importChars bs) := by
  induction bs with
  | nil => rfl
  | cons b rest ih =>
    obtain ⟨hb, hrest⟩ := List.forall_mem_cons.1 hproper
    rw [List.map_cons, importChars_cons, importChars_cons, lineBreaks_append,
      lineBreaks_append, ih hrest, b.lineBreaks_mended_chars hb]

/-! ## The line after a run -/

/-- A blank line stands between a run and the statement after it, if there is one and
the rule asks for it. -/
def Spaced (rule : Rule) (next : Option OtherBlock) (bs : List ImportBlock) : Prop :=
  rule.enforceTrailingLine = true → next.isSome = true → bs ≠ [] → 2 ≤ lineBreaks (lastGap bs)

/-- The lines of a run and of the statement after it are counted. -/
def LinedUpTo (next : Option OtherBlock) (bs : List ImportBlock) : Prop :=
  ∃ line, Lined line bs ∧ ∀ o, next = some o → o.startLine = line + lineBreaks (importChars bs)

/-- Only the distance between two lines says what is missing between them. -/
theorem breaksBetween_add (m a b : Nat) : breaksBetween (m + a) (m + b) = breaksBetween a b := by
  have hfar : m + b > m + a + 1 ↔ b > a + 1 := by omega
  have hnear : m + b ≤ m + a ↔ b ≤ a := by omega
  simp only [breaksBetween, hfar, hnear]

theorem breaksBetween_eq_none {k : Nat} : breaksBetween 0 k = none ↔ 2 ≤ k := by
  unfold breaksBetween
  split
  · simp only [true_iff]
    omega
  · simp only [reduceCtorEq, false_iff]
    omega

/-- With the breaks that are missing there are enough. -/
theorem two_le_of_breaksBetween {k : Nat} {breaks : List Char}
    (h : breaksBetween 0 k = some breaks) :
    2 ≤ lineBreaks breaks + k := by
  unfold breaksBetween at h
  split at h
  · cases h
  · obtain rfl := Option.some.inj h
    split
    · exact Nat.le_add_right ..
    · have : lineBreaks ['\n'] = 1 := rfl
      omega

/-- On counted lines, what is missing after a run can be read off the text after it. The
line on which the run ends and the one on which the next statement starts are both
counted from the start of the run, and what is between them is its last gap. -/
theorem missingBreaks_eq {rule : Rule} {o : OtherBlock} {bs : List ImportBlock}
    (h : LinedUpTo (some o) bs) (hrule : rule.enforceTrailingLine = true) (hne : bs ≠ []) :
    missingBreaks rule (some o) bs = breaksBetween 0 (lineBreaks (lastGap bs)) := by
  obtain ⟨line, hlined, hnext⟩ := h
  have hlast := List.getLast?_eq_some_getLast hne
  unfold missingBreaks
  rw [hlast]
  simp only [hrule, if_true]
  rw [hlined.endLine_last hlast, hnext o rfl, importChars_eq, lineBreaks_append, ← Nat.add_assoc]
  exact breaksBetween_add _ 0 _

/-- Nothing is missing exactly if the run is spaced as the rule asks. -/
theorem missingBreaks_eq_none {rule : Rule} {next : Option OtherBlock} {bs : List ImportBlock}
    (h : LinedUpTo next bs) : missingBreaks rule next bs = none ↔ Spaced rule next bs := by
  by_cases hasked : rule.enforceTrailingLine = true ∧ next.isSome = true ∧ bs ≠ []
  · obtain ⟨hrule, hnext, hne⟩ := hasked
    obtain ⟨o, rfl⟩ := Option.isSome_iff_exists.1 hnext
    rw [missingBreaks_eq h hrule hne, breaksBetween_eq_none]
    exact ⟨fun hbreaks _ _ _ => hbreaks, fun hspaced => hspaced hrule rfl hne⟩
  · have hnone : missingBreaks rule next bs = none := by
      unfold missingBreaks
      split
      · next hlast =>
        split
        · next hrule =>
          exact absurd ⟨hrule, rfl, List.ne_nil_of_mem (List.mem_of_getLast? hlast)⟩ hasked
        · rfl
      · rfl
    exact ⟨fun _ hrule hnext hne => absurd ⟨hrule, hnext, hne⟩ hasked, fun _ => hnone⟩

theorem lineBreaks_padding {cs : List Char} (h : ∀ c ∈ cs, isPadding c = true) :
    lineBreaks cs = 0 :=
  List.count_eq_zero.2 fun hmem => by cases h _ hmem

theorem lineBreaks_dropWhile_padding (cs : List Char) :
    lineBreaks (cs.dropWhile isPadding) = lineBreaks cs := by
  have hjoin := congrArg lineBreaks (List.takeWhile_append_dropWhile (p := isPadding) (l := cs))
  rw [lineBreaks_append, lineBreaks_padding fun c hc => List.mem_takeWhile_imp hc,
    Nat.zero_add] at hjoin
  exact hjoin

/-- With the missing line breaks there is a blank line after the run. -/
theorem spaced_padded {rule : Rule} {next : Option OtherBlock} {bs : List ImportBlock}
    (h : LinedUpTo next bs) :
    Spaced rule next (padded rule next bs) := by
  unfold padded
  cases hbreaks : missingBreaks rule next bs with
  | none => exact (missingBreaks_eq_none h).1 hbreaks
  | some breaks =>
    intro hrule hnext hclosed
    have hne : bs ≠ [] := fun hnil => hclosed (by rw [hnil]; rfl)
    obtain ⟨o, rfl⟩ := Option.isSome_iff_exists.1 hnext
    rw [missingBreaks_eq h hrule hne] at hbreaks
    simp only [lastGap_closeWith hne, lineBreaks_append, lineBreaks_dropWhile_padding]
    exact two_le_of_breaksBetween hbreaks

/-! ## Clean runs -/

/-- The braced lists of a run are sorted. -/
def ListsSorted (rule : Rule) (bs : List ImportBlock) : Prop :=
  ∀ b ∈ bs, b.decl.unsorted rule.ignoreCase = false

/-- A run with which nothing is wrong. -/
structure CleanRun (rule : Rule) (next : Option OtherBlock) (bs : List ImportBlock) : Prop where
  /-- each import may be followed by the next one -/
  order : InOrder rule bs
  /-- the braced lists are sorted -/
  lists : ListsSorted rule bs
  /-- a blank line follows the run -/
  spacing : Spaced rule next bs

/-- A run as it is read from a text. -/
structure ReadRun (next : Option OtherBlock) (bs : List ImportBlock) : Prop where
  /-- the blocks describe their bodies -/
  proper : ∀ b ∈ bs, b.Proper
  /-- the entries of braced lists stand together -/
  together : ∀ b ∈ bs, NamedTogether b.decl
  /-- the lines can be counted on from -/
  range : ∀ b ∈ bs, b.decl.InRange
  /-- and they are counted -/
  lined : LinedUpTo next bs

/-- A run that is read violates no order exactly if it is in order. -/
theorem ReadRun.violation?_eq_none {rule : Rule} {next : Option OtherBlock} {bs : List ImportBlock}
    (h : ReadRun next bs) : violation? rule bs = none ↔ InOrder rule bs := by
  obtain ⟨line, hlined, -⟩ := h.lined
  exact ImportOrder.violation?_eq_none hlined h.range

/-- Nothing is found at sorted lists. -/
theorem listFindings_eq_nil {rule : Rule} {bs : List ImportBlock} (h : ListsSorted rule bs)
    (n : Nat) :
    listFindings rule n bs = [] := by
  induction bs generalizing n with
  | nil => rfl
  | cons b rest ih =>
    obtain ⟨hb, hrest⟩ := List.forall_mem_cons.1 h
    rw [listFindings, ih hrest, List.append_nil, ImportBlock.listFinding, hb]
    rfl

/-- **Nothing is reported of a clean run.** -/
theorem CleanRun.diagnosticsAt_eq_nil {rule : Rule} {next : Option OtherBlock}
    {bs : List ImportBlock} (hread : ReadRun next bs) (h : CleanRun rule next bs) (n : Nat) :
    diagnosticsAt rule next n bs = [] := by
  have htrailing : trailingAt rule next n bs = [] := by
    unfold trailingAt
    rw [(missingBreaks_eq_none hread.lined).2 h.spacing]
    cases (placeImports n bs).getLast? <;> rfl
  rw [diagnosticsAt_of_none (hread.violation?_eq_none.2 h.order), listFindings_eq_nil h.lists,
    htrailing]
  rfl

/-! ## Tidy runs -/

/-- Padding a run keeps its order: at least as many lines stand after each import as
before. -/
theorem inOrder_padded {rule : Rule} {bs : List ImportBlock} (h : InOrder rule bs)
    (next : Option OtherBlock) :
    InOrder rule (padded rule next bs) := by
  unfold padded
  split
  · exact inOrder_closeWith h _
  · exact h

/-- **A tidy run is in order.** -/
theorem inOrder_tidyRun {next : Option OtherBlock} {bs : List ImportBlock} (h : ReadRun next bs)
    (rule : Rule) :
    InOrder rule (tidyRun rule next bs) := by
  unfold tidyRun
  split
  · exact inOrder_rearranged rule bs
  · next hnone =>
    exact inOrder_padded ((inOrder_mended h.proper).2 (h.violation?_eq_none.1 hnone)) next

theorem LinedUpTo.mended {next : Option OtherBlock} {bs : List ImportBlock} (h : LinedUpTo next bs)
    (hproper : ∀ b ∈ bs, b.Proper) (rule : Rule) :
    LinedUpTo next (bs.map (ImportBlock.mended rule)) := by
  obtain ⟨line, hlined, hnext⟩ := h
  refine ⟨line, hlined.mended hproper rule, fun o ho => ?_⟩
  rw [hnext o ho, lineBreaks_importChars_mended hproper]

/-- **An import with its list sorted** describes its text, has its list in one piece,
and has it sorted. -/
theorem ImportBlock.mended_spec {b : ImportBlock} (h : b.Proper) (htogether : NamedTogether b.decl)
    (rule : Rule) :
    (b.mended rule).Proper ∧ NamedTogether (b.mended rule).decl ∧
      (b.mended rule).decl.unsorted rule.ignoreCase = false := by
  unfold ImportBlock.mended
  split
  · exact b.resorted_spec h htogether rule.ignoreCase
  · next hsorted => exact ⟨h, htogether, Bool.eq_false_iff.2 hsorted⟩

/-- The text after a block plays no part in whether it describes its body. -/
theorem ImportBlock.Proper.of_bare {x y : ImportBlock} (h : y.Proper) (hbare : y.bare = x.bare) :
    x.Proper := by
  obtain ⟨-, hdecl, hbody⟩ := ImportBlock.eq_of_bare hbare
  exact ⟨hdecl ▸ hbody ▸ h.span, hbody ▸ h.body, hdecl ▸ hbody ▸ h.specifiers⟩

/-- The blocks of a tidy run describe their bodies, and their lists still stand
together. -/
theorem sound_tidyRun {rule : Rule} {next : Option OtherBlock} {bs : List ImportBlock}
    (hproper : ∀ b ∈ bs, b.Proper) (htogether : ∀ b ∈ bs, NamedTogether b.decl) {x : ImportBlock}
    (hx : x ∈ tidyRun rule next bs) : x.Proper ∧ NamedTogether x.decl := by
  cases hcause : violation? rule bs with
  | some cause =>
    obtain ⟨b, hb, hbare⟩ := exists_bare_of_some hcause hx
    obtain ⟨-, hdecl, -⟩ := ImportBlock.eq_of_bare hbare
    exact ⟨(hproper b hb).of_bare hbare, hdecl ▸ htogether b hb⟩
  | none =>
    obtain ⟨b, hb, hbare⟩ := exists_bare_of_none hcause hx
    obtain ⟨-, hdecl, -⟩ := ImportBlock.eq_of_bare hbare
    obtain ⟨hmended, hnamed, -⟩ := b.mended_spec (hproper b hb) (htogether b hb) rule
    exact ⟨hmended.of_bare hbare, hdecl ▸ hnamed⟩

/-- **A run in order is clean once it is tidy.** -/
theorem clean_tidyRun {rule : Rule} {next : Option OtherBlock} {bs : List ImportBlock}
    (h : ReadRun next bs) (horder : InOrder rule bs) :
    CleanRun rule next (tidyRun rule next bs) := by
  have hnone := h.violation?_eq_none.2 horder
  refine ⟨inOrder_tidyRun h rule, fun x hx => ?_, ?_⟩
  · obtain ⟨b, hb, hbare⟩ := exists_bare_of_none hnone hx
    obtain ⟨-, hdecl, -⟩ := ImportBlock.eq_of_bare hbare
    rw [← hdecl]
    exact (b.mended_spec (h.proper b hb) (h.together b hb) rule).2.2
  · rw [tidyRun_of_none hnone]
    exact spaced_padded (h.lined.mended h.proper rule)

end ImportOrder

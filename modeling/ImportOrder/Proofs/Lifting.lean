import ImportOrder.Proofs.Blocks
import ImportOrder.Proofs.TidyRun

/-!
# Lifting a late import

If imports have to come first and some do not, a check reports exactly the late ones.
All their fixes start at the first other statement, so only the first of them is kept.
It lifts the first late import: `liftBlocks` says what that does to a row of blocks.

* `misplacedImports_eq` — the late imports of a module and their fixes;
* `check_late` — what is reported if there are some;
* `check_lifted` — the fix that is kept lifts the first late import.
-/

namespace ImportOrder

/-! ## The late imports of a module -/

theorem eq_importDecl {s : Statement} {d : ImportDecl} (h : s.decl? = some d) :
    s = .importDecl d := by
  cases s with
  | importDecl e => exact congrArg _ (Option.some.inj h)
  | other => cases h

/-- A statement is no import exactly if it has no declaration. -/
theorem Statement.isImport_eq_false {s : Statement} : s.isImport = false ↔ s.decl? = none := by
  rw [isImport, Option.isSome_eq_false_iff, Option.isNone_iff_eq_none]

/-- The imports after the first other statement. -/
def lateDecls (ss : List Statement) : List ImportDecl :=
  (fromFirstOther ss).filterMap Statement.decl?

/-- The fix that lifts an import to an offset. -/
def liftOf (text : List Char) (target : Nat) (d : ImportDecl) : Fix where
  span := ⟨target, d.span.stop⟩
  replacement :=
    String.ofList (sliceOf text d.span.start d.span.stop ++ '\n' ::
      sliceOf text target d.span.start)

/-- The program makes the fix that lifts an import, if the target is a boundary before
it. -/
theorem liftFix_eq {text : String} {target : Nat} {d : ImportDecl}
    (htarget : IsBoundary text.toList target) (hstart : IsBoundary text.toList d.span.start)
    (hstop : IsBoundary text.toList d.span.stop) (hle : target ≤ d.span.start)
    (hproper : d.span.start ≤ d.span.stop) :
    liftFix text target d = .ok (liftOf text.toList target d) := by
  have hpassed : Span.slice ⟨target, d.span.start⟩ text =
      .ok (String.ofList (sliceOf text.toList target d.span.start)) :=
    slice_eq_sliceOf htarget hstart hle
  have hbreak : "\n" = String.ofList ['\n'] := rfl
  rw [liftFix, bind_ok (slice_eq_sliceOf hstart hstop hproper), bind_ok hpassed,
    bind_ok (Span.make_eq_ok (Nat.le_trans hle hproper)), hbreak, ← String.ofList_append,
    ← String.ofList_append, List.append_assoc]
  rfl

/-- The first statement that is not an import, and what comes before it. -/
theorem fromFirstOther_eq_cons {ss rest : List Statement} {other : Statement}
    (h : fromFirstOther ss = other :: rest) :
    other.isImport = false ∧ ss = ss.takeWhile Statement.isImport ++ other :: rest := by
  rw [fromFirstOther] at h
  have hne : ss.dropWhile Statement.isImport ≠ [] := h ▸ List.cons_ne_nil other rest
  have hhead := List.head_dropWhile_not Statement.isImport hne
  simp only [h, List.head_cons] at hhead
  exact ⟨hhead, by rw [← h, List.takeWhile_append_dropWhile]⟩

/-- The late imports are those after the first statement that is no import. -/
theorem lateDecls_eq {ss rest : List Statement} {other : Statement}
    (h : fromFirstOther ss = other :: rest) :
    lateDecls ss = rest.filterMap Statement.decl? := by
  have hother := (fromFirstOther_eq_cons h).1
  rw [lateDecls, h, List.filterMap_cons_none (Statement.isImport_eq_false.1 hother)]

/-- Nothing is found to be late if nothing is, or if the rule does not mind. -/
theorem lateImports_eq_nil_iff {text : String} {rule : Rule} {ss : List Statement} :
    lateImports text rule ss = .ok [] ↔ (rule.importsAtStart = true → lateDecls ss = []) := by
  rw [lateImports]
  cases rule.importsAtStart with
  | false => simp
  | true =>
    simp only [if_true, forall_const]
    unfold misplacedImports
    cases hother : fromFirstOther ss with
    | nil => simp [lateDecls, hother]
    | cons other rest => rw [lateDecls_eq hother, mapM_eq_ok_nil]

/-- A late import starts after the first other statement. -/
theorem start_lt_of_late {text : String} {ss rest : List Statement} {other : Statement}
    (h : InLine text.toList (wholeSpan text.toList) (ss.map Statement.span))
    (hother : fromFirstOther ss = other :: rest) {d : ImportDecl} (hd : d ∈ lateDecls ss) :
    .importDecl d ∈ ss ∧ other.span.start < d.span.start := by
  rw [lateDecls_eq hother] at hd
  obtain ⟨s, hs, hdecl⟩ := List.mem_filterMap.1 hd
  obtain rfl := eq_importDecl hdecl
  have heq := (fromFirstOther_eq_cons hother).2
  have hmem : .importDecl d ∈ ss := by
    rw [heq]
    exact List.mem_append_right _ (List.mem_cons_of_mem _ hs)
  have hproper := h.proper other.span
    (List.mem_map_of_mem (heq ▸ List.mem_append_right _ List.mem_cons_self))
  have hapart := h.apart
  rw [heq, List.map_append] at hapart
  have hafter : other.span.stop ≤ d.span.start :=
    List.rel_of_pairwise_cons (List.pairwise_append.1 hapart).2.1 (List.mem_map_of_mem hs)
  exact ⟨hmem, by omega⟩

/-- **The late imports of a module** are found with the fixes that lift them above the
first other statement. -/
theorem misplacedImports_eq {text : String} {ss rest : List Statement} {other : Statement}
    (h : InLine text.toList (wholeSpan text.toList) (ss.map Statement.span))
    (hother : fromFirstOther ss = other :: rest) : misplacedImports text ss =
      .ok ((lateDecls ss).map fun d => ⟨d, liftOf text.toList other.span.start d⟩) := by
  have hmem : other ∈ ss := by
    rw [(fromFirstOther_eq_cons hother).2]
    exact List.mem_append_right _ List.mem_cons_self
  have hlift : ∀ d ∈ lateDecls ss, (do
      let fix ← liftFix text other.span.start d
      .ok (⟨d, fix⟩ : Misplaced)) = .ok ⟨d, liftOf text.toList other.span.start d⟩ := by
    intro d hd
    obtain ⟨hin, hlt⟩ := start_lt_of_late h hother hd
    have hspan : d.span ∈ ss.map Statement.span := List.mem_map.2 ⟨_, hin, rfl⟩
    exact bind_ok (liftFix_eq (h.cuts _ (List.mem_map_of_mem hmem)).1 (h.cuts _ hspan).1
      (h.cuts _ hspan).2
      (Nat.le_of_lt hlt) (Nat.le_of_lt (h.proper _ hspan)))
  rw [lateDecls_eq hother] at hlift ⊢
  unfold misplacedImports
  rw [hother]
  exact mapM_ok hlift

/-- The finding that an import comes too late. -/
def lateFinding (text : List Char) (target : Nat) (d : ImportDecl) : Finding :=
  ⟨.misplacedImport, d, liftOf text target d⟩

/-- **What is reported of late imports**: each of them, with the fix of the first one
only. All the fixes start at the same place, so the others are in the way of the first
one and are withheld. -/
theorem check_late {text : String} {rule : Rule} {ss rest : List Statement} {other : Statement}
    {d : ImportDecl} {ds : List ImportDecl} (hrule : rule.importsAtStart = true)
    (h : DocumentOrdered text ss) (hother : fromFirstOther ss = other :: rest)
    (hlate : lateDecls ss = d :: ds) :
    check text rule ss = .ok ((lateFinding text.toList other.span.start d).report true ::
      ds.map fun e => (lateFinding text.toList other.span.start e).report false) := by
  have hmisplaced : lateImports text rule ss =
      .ok ((d :: ds).map fun e => ⟨e, liftOf text.toList other.span.start e⟩) := by
    rw [lateImports, if_pos hrule, misplacedImports_eq h.statements hother, hlate]
  have hfindings : findings text rule ss =
      .ok ((d :: ds).map (lateFinding text.toList other.span.start)) := by
    rw [findings, bind_ok hmisplaced]
    simp only [List.map_cons, List.isEmpty_cons, Bool.false_eq_true, if_false, List.map_map]
    rfl
  have hspan : ∀ e ∈ d :: ds, other.span.start < e.span.stop := by
    intro e he
    obtain ⟨hin, hlt⟩ := start_lt_of_late h.statements hother (hlate ▸ he)
    have := h.statements.proper e.span (List.mem_map.2 ⟨_, hin, rfl⟩)
    omega
  rw [check, bind_ok hfindings, List.map_cons, withhold]
  simp only [List.any_nil, Bool.false_eq_true, if_false]
  have hdrops : ∀ f ∈ ds.map (lateFinding text.toList other.span.start),
      ∃ t ∈ [(lateFinding text.toList other.span.start d).fix.span],
      t.overlaps f.fix.span = true := by
    intro f hf
    obtain ⟨e, he, rfl⟩ := List.mem_map.1 hf
    refine ⟨_, List.mem_cons_self, Span.overlaps_iff.2 ?_⟩
    have hd := hspan d List.mem_cons_self
    have he := hspan e (List.mem_cons_of_mem d he)
    simp only [lateFinding, liftOf, Nat.ne_of_lt hd, Nat.ne_of_lt he, false_and, if_false]
    exact ⟨he, hd⟩
  have hrest := withhold_drops hdrops []
  rw [List.append_nil, List.map_map, withhold, List.append_nil] at hrest
  rw [hrest]
  rfl

/-! ## Lifting on a row of blocks -/

/-- More text after the last block. -/
def extendLast (more : List Char) : List Block → List Block
  | [] => []
  | [x] => [x.extend more]
  | x :: y :: rest => x :: extendLast more (y :: rest)

/-- The first late import moved up in front of the first other statement, on a line of
its own. What stood after it now stands after the statement that came before it. -/
def liftBlocks (xs : List Block) : List Block :=
  let late := xs.dropWhile Block.isImport
  match late.dropWhile Block.isOther with
  | .imported b :: tail =>
    xs.takeWhile Block.isImport ++ .imported { b with gap := ['\n'] } ::
      (extendLast b.gap (late.takeWhile Block.isOther) ++ tail)
  | _ => xs

/-- A row of blocks with a late import: imports, then other statements, then the first
late import. -/
structure LateSplit (xs tops passed : List Block) (b : ImportBlock) (tail : List Block) : Prop where
  /-- the parts make up the row -/
  eq : xs = tops ++ (passed ++ .imported b :: tail)
  /-- the row begins with imports -/
  imports : ∀ x ∈ tops, x.isImport = true
  /-- other statements follow -/
  others : ∀ x ∈ passed, x.isOther = true
  /-- there is at least one of them -/
  nonempty : passed ≠ []

/-- The number of late imports in a row of blocks. -/
def lateBlocks (xs : List Block) : Nat :=
  ((xs.dropWhile Block.isImport).filter Block.isImport).length

theorem isImport_of_isOther {x : Block} (h : x.isOther = true) : ¬ x.isImport = true := by
  rw [Block.isImport_eq, h]
  exact Bool.false_ne_true

/-- What comes after the imports with which a row begins. -/
theorem dropWhile_isImport {tops passed : List Block} (htops : ∀ x ∈ tops, x.isImport = true)
    (hpassed : ∀ x ∈ passed, x.isOther = true) (hne : passed ≠ []) (tail : List Block) :
    (tops ++ (passed ++ tail)).dropWhile Block.isImport = passed ++ tail := by
  obtain ⟨o, others, rfl⟩ := List.exists_cons_of_ne_nil hne
  rw [List.dropWhile_append_of_pos htops, List.cons_append,
    List.dropWhile_cons_of_neg (isImport_of_isOther (hpassed o List.mem_cons_self))]

/-- Behind the leading imports stand the blocks that are passed, the late import and the
tail. -/
theorem LateSplit.dropWhile_eq {xs tops passed tail : List Block} {b : ImportBlock}
    (h : LateSplit xs tops passed b tail) :
    xs.dropWhile Block.isImport = passed ++ .imported b :: tail := by
  rw [h.eq, dropWhile_isImport h.imports h.others h.nonempty]

theorem LateSplit.takeWhile_eq {xs tops passed tail : List Block} {b : ImportBlock}
    (h : LateSplit xs tops passed b tail) : xs.takeWhile Block.isImport = tops := by
  have hjoin : xs.takeWhile Block.isImport ++ xs.dropWhile Block.isImport = xs :=
    List.takeWhile_append_dropWhile
  rw [h.dropWhile_eq] at hjoin
  exact List.append_cancel_right (hjoin.trans h.eq)

/-- A row with late imports can be split at the first of them. -/
theorem exists_lateSplit {xs : List Block} (h : lateBlocks xs ≠ 0) :
    ∃ tops passed b tail, LateSplit xs tops passed b tail := by
  have hlate : (xs.dropWhile Block.isImport).dropWhile Block.isOther ≠ [] := by
    intro hnil
    refine h (List.length_eq_zero_iff.2 (List.filter_eq_nil_iff.2 fun x hx => ?_))
    exact isImport_of_isOther (List.dropWhile_eq_nil_iff.1 hnil x hx)
  obtain ⟨x, tail, hx⟩ := List.exists_cons_of_ne_nil hlate
  have himport := List.head_dropWhile_not Block.isOther hlate
  simp only [hx, List.head_cons] at himport
  cases x with
  | other o => cases himport
  | imported b =>
    refine ⟨xs.takeWhile Block.isImport, (xs.dropWhile Block.isImport).takeWhile Block.isOther, b,
      tail, ?_, ?_, ?_, ?_⟩
    · rw [← hx, List.takeWhile_append_dropWhile, List.takeWhile_append_dropWhile]
    · exact fun x hx => List.mem_takeWhile_imp hx
    · exact fun x hx => List.mem_takeWhile_imp hx
    · -- otherwise the row after its first imports would begin with an import
      intro hnil
      have hjoin : (xs.dropWhile Block.isImport).takeWhile Block.isOther ++
        (xs.dropWhile Block.isImport).dropWhile Block.isOther = xs.dropWhile Block.isImport :=
          List.takeWhile_append_dropWhile
      rw [hnil, hx, List.nil_append] at hjoin
      have hhead := List.head_dropWhile_not Block.isImport (hjoin ▸ List.cons_ne_nil _ _)
      simp only [← hjoin, List.head_cons] at hhead
      cases hhead

/-- Lifting puts the late import under the leading ones, and the text it leaves behind
goes to the block before it. -/
theorem liftBlocks_eq {xs tops passed tail : List Block} {b : ImportBlock}
    (h : LateSplit xs tops passed b tail) :
    liftBlocks xs =
      tops ++ .imported { b with gap := ['\n'] } :: (extendLast b.gap passed ++ tail) := by
  have hstop : ¬ Block.isOther (.imported b) = true := Bool.false_ne_true
  unfold liftBlocks
  simp only [h.dropWhile_eq, h.takeWhile_eq, List.dropWhile_append_of_pos h.others,
    List.takeWhile_append_of_pos h.others, List.dropWhile_cons_of_neg hstop,
    List.takeWhile_cons_of_neg hstop, List.append_nil]

theorem extendLast_ne_nil {xs : List Block} (h : xs ≠ []) (more : List Char) :
    extendLast more xs ≠ [] := by
  obtain _ | ⟨x, _ | ⟨y, rest⟩⟩ := xs
  · exact absurd rfl h
  · exact List.cons_ne_nil _ _
  · exact List.cons_ne_nil _ _

/-- Text that is given to the last block stands at the end. -/
theorem blockChars_extendLast {xs : List Block} (h : xs ≠ []) (more : List Char) :
    blockChars (extendLast more xs) = blockChars xs ++ more := by
  induction xs with
  | nil => exact absurd rfl h
  | cons x rest ih =>
    cases rest with
    | nil =>
      cases x <;> simp only [extendLast, Block.extend, blockChars_cons, blockChars_nil,
        Block.chars, Block.body, Block.gap, List.append_nil, List.append_assoc]
    | cons y rest =>
      rw [extendLast, blockChars_cons, ih (List.cons_ne_nil y rest), blockChars_cons x,
        List.append_assoc]

theorem isOther_extendLast {xs : List Block} (h : ∀ x ∈ xs, x.isOther = true) (more : List Char) :
    ∀ x ∈ extendLast more xs, x.isOther = true := by
  induction xs with
  | nil => exact h
  | cons x rest ih =>
    obtain ⟨hx, hrest⟩ := List.forall_mem_cons.1 h
    cases rest with
    | nil =>
      refine List.forall_mem_singleton.2 ?_
      cases x with
      | imported b => exact hx
      | other o => rfl
    | cons y rest => exact List.forall_mem_cons.2 ⟨hx, ih hrest⟩

/-- What does not look at gaps still holds of the blocks when one is lifted. -/
theorem forall_mem_liftBlocks {P : Block → Prop} (hextend : ∀ x more, P x → P (x.extend more))
    (hgap : ∀ b gap, P (.imported b) → P (.imported { b with gap := gap })) {xs : List Block}
    (h : ∀ x ∈ xs, P x) (hlate : lateBlocks xs ≠ 0) : ∀ x ∈ liftBlocks xs, P x := by
  have hlast :
      ∀ (more : List Char) (ys : List Block), (∀ y ∈ ys, P y) → ∀ y ∈ extendLast more ys, P y := by
    intro more ys hys
    induction ys with
    | nil => exact hys
    | cons y rest ih =>
      obtain ⟨hy, hrest⟩ := List.forall_mem_cons.1 hys
      cases rest with
      | nil => exact List.forall_mem_singleton.2 (hextend y more hy)
      | cons z rest => exact List.forall_mem_cons.2 ⟨hy, ih hrest⟩
  obtain ⟨tops, passed, b, tail, hsplit⟩ := exists_lateSplit hlate
  rw [hsplit.eq] at h
  obtain ⟨htops, hlater⟩ := List.forall_mem_append.1 h
  obtain ⟨hpassed, hmoved⟩ := List.forall_mem_append.1 hlater
  obtain ⟨hb, htail⟩ := List.forall_mem_cons.1 hmoved
  rw [liftBlocks_eq hsplit]
  exact List.forall_mem_append.2 ⟨htops, List.forall_mem_cons.2 ⟨hgap b _ hb,
    List.forall_mem_append.2 ⟨hlast b.gap passed hpassed, htail⟩⟩⟩

/-- Lifting one import leaves one less to be lifted. -/
theorem lateBlocks_liftBlocks {xs : List Block} (h : lateBlocks xs ≠ 0) :
    lateBlocks (liftBlocks xs) + 1 = lateBlocks xs := by
  obtain ⟨tops, passed, b, tail, hsplit⟩ := exists_lateSplit h
  have hothers :
      ∀ {ys : List Block}, (∀ x ∈ ys, x.isOther = true) → ys.filter Block.isImport = [] :=
    fun hys => List.filter_eq_nil_iff.2 fun x hx => isImport_of_isOther (hys x hx)
  have hextended := isOther_extendLast hsplit.others b.gap
  have htops : ∀ x ∈ tops ++ [.imported { b with gap := ['\n'] }], x.isImport = true :=
    List.forall_mem_append.2 ⟨hsplit.imports, List.forall_mem_singleton.2 rfl⟩
  have hlifted := dropWhile_isImport htops hextended (extendLast_ne_nil hsplit.nonempty b.gap) tail
  rw [List.append_assoc, List.singleton_append, ← liftBlocks_eq hsplit] at hlifted
  rw [lateBlocks, lateBlocks, hlifted, hsplit.dropWhile_eq, List.filter_append, List.filter_append,
    hothers hsplit.others, hothers hextended]
  rfl

/-! ## Late imports on a page -/

/-- The statements from the first other one on are the placed blocks behind the leading
imports. -/
theorem fromFirstOther_placeBlocks (n : Nat) (xs : List Block) : fromFirstOther (placeBlocks n xs) =
    placeBlocks (n + byteLength (blockChars (xs.takeWhile Block.isImport)))
      (xs.dropWhile Block.isImport) := by
  induction xs generalizing n with
  | nil => rfl
  | cons x xs ih =>
    cases x with
    | other o => rfl
    | imported b =>
      have htake : (Block.imported b :: xs).takeWhile Block.isImport =
          .imported b :: xs.takeWhile Block.isImport := rfl
      rw [htake, blockChars_cons, byteLength_append, ← Nat.add_assoc]
      exact ih _

theorem decls_placeBlocks_of_isOther {xs : List Block} (h : ∀ x ∈ xs, x.isOther = true) (n : Nat) :
    (placeBlocks n xs).filterMap Statement.decl? = [] := by
  induction xs generalizing n with
  | nil => rfl
  | cons x xs ih =>
    obtain ⟨hx, hxs⟩ := List.forall_mem_cons.1 h
    cases x with
    | imported b => cases hx
    | other o => exact ih hxs _

theorem length_decls_placeBlocks (n : Nat) (xs : List Block) :
    ((placeBlocks n xs).filterMap Statement.decl?).length = (xs.filter Block.isImport).length := by
  induction xs generalizing n with
  | nil => rfl
  | cons x xs ih =>
    cases x with
    | imported b => exact congrArg (· + 1) (ih _)
    | other o => exact ih _

/-- As many late imports as in the row of blocks. -/
theorem length_lateDecls (n : Nat) (xs : List Block) :
    (lateDecls (placeBlocks n xs)).length = lateBlocks xs := by
  rw [lateDecls, fromFirstOther_placeBlocks, length_decls_placeBlocks, lateBlocks]

/-- The late imports of a row of blocks, and the statement that they should come
before. -/
theorem LateSplit.placed {xs tops passed tail : List Block} {b : ImportBlock}
    (h : LateSplit xs tops passed b tail) (n : Nat) :
    ∃ other rest ds, fromFirstOther (placeBlocks n xs) = other :: rest ∧
      other.span.start = n + byteLength (blockChars tops) ∧
      lateDecls (placeBlocks n xs) =
        b.decl.shift (n + byteLength (blockChars tops) + byteLength (blockChars passed)) :: ds := by
  have hfrom := fromFirstOther_placeBlocks n xs
  rw [h.takeWhile_eq, h.dropWhile_eq] at hfrom
  have hlate := congrArg (List.filterMap Statement.decl?) hfrom
  rw [← lateDecls, placeBlocks_append, List.filterMap_append,
    decls_placeBlocks_of_isOther h.others] at hlate
  obtain ⟨x, others, hpassed⟩ := List.exists_cons_of_ne_nil h.nonempty
  have hx := h.others x (hpassed ▸ List.mem_cons_self)
  cases x with
  | imported b => cases hx
  | other o =>
    rw [hpassed] at hfrom
    exact ⟨_, _, _, hfrom, rfl, hlate⟩

/-- The fix that lifts the first late import of a row of blocks. -/
theorem LateSplit.liftOf_eq {xs tops passed tail : List Block} {b : ImportBlock}
    (h : LateSplit xs tops passed b tail) (hb : b.Proper) (pre : List Char) :
    liftOf (pre ++ blockChars xs) (byteLength pre + byteLength (blockChars tops))
      (b.decl.shift
        (byteLength pre + byteLength (blockChars tops) + byteLength (blockChars passed))) =
    ⟨⟨byteLength pre + byteLength (blockChars tops),
      byteLength pre + byteLength (blockChars tops) + byteLength (blockChars passed ++ b.body)⟩,
      String.ofList (b.body ++ '\n' :: blockChars passed)⟩ := by
  have hmoved :=
    sliceOf_append (pre ++ blockChars tops ++ blockChars passed) b.body (b.gap ++ blockChars tail)
  have hpassed :=
    sliceOf_append (pre ++ blockChars tops) (blockChars passed)
      (b.body ++ (b.gap ++ blockChars tail))
  have htext : pre ++ blockChars xs =
      pre ++ blockChars tops ++ blockChars passed ++ b.body ++ (b.gap ++ blockChars tail) := by
    rw [h.eq]
    simp only [blockChars_append, blockChars_cons, Block.chars, Block.body, Block.gap,
      List.append_assoc]
  simp only [byteLength_append, List.append_assoc, Nat.add_assoc] at hmoved hpassed htext
  simp only [liftOf, hb.span_shift, byteLength_append, htext, hmoved, hpassed, Nat.add_assoc]

/-- The fix lifts the import. -/
theorem LateSplit.rewrites {xs tops passed tail : List Block} {b : ImportBlock}
    (h : LateSplit xs tops passed b tail) :
    Rewrites (blockChars xs) (blockChars (liftBlocks xs)) fun n =>
      [⟨⟨n + byteLength (blockChars tops),
          n + byteLength (blockChars tops) + byteLength (blockChars passed ++ b.body)⟩,
        String.ofList (b.body ++ '\n' :: blockChars passed)⟩] := by
  have hscript := (Rewrites.keep (blockChars tops)).append
    ((Rewrites.swap (blockChars passed ++ b.body) (b.body ++ '\n' :: blockChars passed)).append
      (Rewrites.keep (b.gap ++ blockChars tail)))
  have hold : blockChars xs =
      blockChars tops ++ ((blockChars passed ++ b.body) ++ (b.gap ++ blockChars tail)) := by
    rw [h.eq]
    simp only [blockChars_append, blockChars_cons, Block.chars, Block.body, Block.gap,
      List.append_assoc]
  have hnew : blockChars (liftBlocks xs) =
      blockChars tops ++ ((b.body ++ '\n' :: blockChars passed) ++ (b.gap ++ blockChars tail)) := by
    rw [liftBlocks_eq h]
    simp only [blockChars_append, blockChars_cons, blockChars_extendLast h.nonempty,
      Block.chars, Block.body, Block.gap, List.append_assoc, List.cons_append, List.nil_append]
  rw [hold, hnew]
  exact hscript.congr fun n => rfl

/-- The page with its first late import lifted. -/
def Page.lifted (p : Page) : Page := { p with sheet := .ofBlocks (liftBlocks p.sheet.blocks) }

/-- **A check that finds late imports** reports as many as there are and nothing else,
and the one fix among its diagnostics lifts the first of them. -/
theorem check_lifted {p : Page} (hproper : p.Proper) {rule : Rule}
    (hrule : rule.importsAtStart = true) {tops passed tail : List Block} {b : ImportBlock}
    (hsplit : LateSplit p.sheet.blocks tops passed b tail) :
    ∃ ds fixes, check p.text rule p.statements = .ok ds ∧ fixesOf ds = fixes (byteLength p.lead) ∧
      Rewrites p.sheet.chars p.lifted.sheet.chars fixes ∧ ds.length = lateBlocks p.sheet.blocks ∧
      (∀ d ∈ ds, d.problem = .misplacedImport) ∧
      ∃ d ∈ ds, d.fix.isSome = true ∧ d.anchor =
        (b.decl.shift (byteLength p.lead + byteLength (blockChars tops) +
          byteLength (blockChars passed))).span := by
  have hb : b.Proper := Sheet.proper_iff.1 hproper (.imported b) (by
    rw [hsplit.eq]
    exact List.mem_append_right _ (List.mem_append_right _ List.mem_cons_self))
  obtain ⟨other, rest, later, hother, htarget, hdecls⟩ := hsplit.placed (byteLength p.lead)
  rw [← Sheet.place_eq, ← Page.statements] at hother hdecls
  have hcheck := check_late hrule (Page.documentOrdered hproper) hother hdecls
  have htext : p.text.toList = p.lead ++ blockChars p.sheet.blocks := by
    rw [Page.toList_text, Sheet.chars_eq]
  have hlength := length_lateDecls (byteLength p.lead) p.sheet.blocks
  rw [← Sheet.place_eq, ← Page.statements, hdecls, List.length_cons] at hlength
  have hrewrites := hsplit.rewrites
  have hlifted : blockChars (liftBlocks p.sheet.blocks) = p.lifted.sheet.chars := by
    rw [Page.lifted, Sheet.chars_eq, Sheet.blocks_ofBlocks]
  rw [← Sheet.chars_eq, hlifted] at hrewrites
  refine ⟨_, _, hcheck, ?_, hrewrites, ?_, ?_, _, List.mem_cons_self, rfl, rfl⟩
  · have hwithheld := fixesOf_withheld (later.map (lateFinding p.text.toList other.span.start))
    rw [List.map_map] at hwithheld
    rw [fixesOf_report_true, lateFinding, htarget, htext, hsplit.liftOf_eq hb]
    rw [htarget, htext] at hwithheld
    exact congrArg _ hwithheld
  · rw [List.length_cons, List.length_map, hlength]
  · refine List.forall_mem_cons.2 ⟨rfl, fun d hd => ?_⟩
    obtain ⟨e, -, rfl⟩ := List.mem_map.1 hd
    rfl

end ImportOrder

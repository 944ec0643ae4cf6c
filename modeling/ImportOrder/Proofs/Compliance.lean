import ImportOrder.Proofs.Lifting
import ImportOrder.Proofs.MaximalRuns
import ImportOrder.Proofs.Repairing
import Mathlib.Data.List.Chain
import Mathlib.Data.String.Basic

/-!
# When a check finds nothing

A module is *compliant* if it keeps the rule. `Compliant` says so of the statements
themselves, without runs, scans or fixes, and `check_eq_nil_iff_compliant` says that a
check finds nothing just in that case. Nothing is assumed of the statements but that
their lines can be counted on from: they may lie anywhere in the text or outside it.

* `discord` — what is wrong between two neighbouring imports; `firstViolation_eq_ok`
  says that the order of a run is judged by its first discord;
* `runFindings_eq_nil` — when nothing is found in a run, part by part;
* `isChain_imports`, `forall_between`, `forall_following` — what holds of neighbours in
  all runs holds of neighbouring statements, and the other way round.
-/

namespace ImportOrder

/-! ## Comparing -/

/-- A text is greater if it is so in the form that is compared, which is without case if
the rule says so. -/
theorem compareTexts_eq_gt {ignoreCase : Bool} {a b : String} :
    compareTexts ignoreCase a b = .gt ↔ comparable ignoreCase b < comparable ignoreCase a :=
  compare_gt_iff_gt

theorem precedes_iff_le {ignoreCase : Bool} {a b : String} :
    precedes ignoreCase a b = true ↔ comparable ignoreCase a ≤ comparable ignoreCase b := by
  rw [precedes, bne_iff_ne, Ne, compareTexts_eq_gt, not_lt]

/-- The place of an import among the categories. -/
def ImportDecl.rank (rule : Rule) (d : ImportDecl) : Nat := rule.sortOrder.index d.category

/-- No two categories have the same rank, because each of them occurs in the order of a
rule. -/
theorem ImportDecl.rank_eq_iff (rule : Rule) {a b : ImportDecl} :
    a.rank rule = b.rank rule ↔ a.category = b.category :=
  List.idxOf_inj (rule.sortOrder.mem_categories _)

theorem ImportDecl.compareCategories_eq (rule : Rule) (a b : ImportDecl) :
    compareCategories rule.sortOrder a b = compare (a.rank rule) (b.rank rule) := rfl

/-- An import does not sort after another one: its category comes earlier, or they are
of one category and its path is not greater. -/
def SortsBefore (rule : Rule) (a b : ImportDecl) : Prop :=
  a.rank rule < b.rank rule ∨
    a.rank rule = b.rank rule ∧
      comparable rule.ignoreCase a.path ≤ comparable rule.ignoreCase b.path

/-- Sorting before is transitive: ranks first, then the modules within a rank. -/
theorem SortsBefore.trans {rule : Rule} {a b c : ImportDecl} (hab : SortsBefore rule a b)
    (hbc : SortsBefore rule b c) : SortsBefore rule a c := by
  rcases hab with hab | ⟨hab, hpath⟩
  · rcases hbc with hbc | ⟨hbc, -⟩
    · exact .inl (Nat.lt_trans hab hbc)
    · exact .inl (hbc ▸ hab)
  · rcases hbc with hbc | ⟨hbc, hpath'⟩
    · exact .inl (hab ▸ hbc)
    · exact .inr ⟨hab.trans hbc, le_trans hpath hpath'⟩

instance (rule : Rule) : IsTrans ImportDecl (SortsBefore rule) := ⟨fun _ _ _ => SortsBefore.trans⟩

/-! ## The order of a run -/

/-- What is wrong between an import and the next one, if anything is. -/
def discord (rule : Rule) (a b : ImportDecl) : Option Violation :=
  if b.rank rule < a.rank rule then some .wrongCategory
  else if a.rank rule = b.rank rule then
    if comparable rule.ignoreCase b.path < comparable rule.ignoreCase a.path then some .wrongPath
    else none
  else if rule.enforceBlankLine = true ∧ b.startLine ≤ a.startLine + 1 then some .missingBlankLine
  else none

/-- What is wrong between the first neighbours between whom something is. -/
def firstDiscord (rule : Rule) (ds : List ImportDecl) : Option Violation :=
  (ds.zip ds.tail).findSome? fun p => discord rule p.1 p.2

/-- The program finds what is wrong with two neighbours if the line after the first can
be counted. -/
theorem pairViolation_eq (rule : Rule) {a : ImportDecl}
    (ha : rule.enforceBlankLine = true → a.startLine + 1 < lineBound) (b : ImportDecl) :
    pairViolation rule a b = .ok (discord rule a b) := by
  simp only [pairViolation, ImportDecl.compareCategories_eq, discord]
  rcases Nat.lt_trichotomy (a.rank rule) (b.rank rule) with hlt | heq | hgt
  · -- a later category, which may need a blank line
    rw [Nat.compare_eq_lt.2 hlt]
    simp only [Nat.lt_asymm hlt, Nat.ne_of_lt hlt, if_false]
    cases hblank : rule.enforceBlankLine with
    | false => simp
    | true => simp [nextLine_eq (ha hblank), bind, Except.bind]
  · -- the same category, so that the paths decide
    rw [Nat.compare_eq_eq.2 heq]
    simp only [heq, Nat.lt_irrefl, if_false, if_true, comparePaths, compareTexts_eq_gt]
  · -- an earlier category is wrong, whatever the paths are
    rw [Nat.compare_eq_gt.2 hgt]
    simp only [hgt, if_true]

/-- Nothing is wrong with two neighbours if they are in order and a blank line separates
categories where the rule asks for it. -/
theorem discord_eq_none {rule : Rule} {a b : ImportDecl} :
    discord rule a b = none ↔ SortsBefore rule a b ∧
    (rule.enforceBlankLine = true → a.category ≠ b.category → a.startLine + 2 ≤ b.startLine) := by
  rw [Ne, ← ImportDecl.rank_eq_iff rule]
  unfold discord SortsBefore
  rcases Nat.lt_trichotomy (a.rank rule) (b.rank rule) with hlt | heq | hgt
  · simp only [Nat.lt_asymm hlt, Nat.ne_of_lt hlt, hlt, if_false, true_or, true_and,
      not_false_eq_true, forall_const]
    by_cases hblank : rule.enforceBlankLine = true
    · simp [hblank]
      omega
    · simp [hblank]
  · simp only [heq, Nat.lt_irrefl, if_true, if_false, false_or, true_and, not_true_eq_false,
      false_implies, implies_true, and_true]
    split
    · next hpath => exact iff_of_false nofun (not_le.2 hpath)
    · next hpath => exact iff_of_true rfl (not_lt.1 hpath)
  · simp [hgt, Nat.lt_asymm hgt, Nat.ne_of_gt hgt]

/-- **The order of a run** is judged by its first discord. Lines only matter where blank
lines are asked for. -/
theorem firstViolation_eq_ok (rule : Rule) {ds : List ImportDecl}
    (h : ∀ d ∈ ds, rule.enforceBlankLine = true → d.startLine + 1 < lineBound) :
    firstViolation rule ds = .ok (firstDiscord rule ds) := by
  induction ds with
  | nil => rfl
  | cons a rest ih =>
    cases rest with
    | nil => rfl
    | cons b rest =>
      obtain ⟨ha, hrest⟩ := List.forall_mem_cons.1 h
      rw [firstViolation, bind_ok (pairViolation_eq rule ha b)]
      cases hab : discord rule a b with
      | some v => simp [firstDiscord, hab]
      | none =>
        simp only [ih hrest]
        simp [firstDiscord, hab]

/-- Nothing is wrong with a run if nothing is wrong with any two neighbours. -/
theorem firstDiscord_eq_none {rule : Rule} {ds : List ImportDecl} :
    firstDiscord rule ds = none ↔ ds.IsChain fun a b => discord rule a b = none := by
  induction ds with
  | nil => simp [firstDiscord]
  | cons a rest ih =>
    cases rest with
    | nil => simp [firstDiscord]
    | cons b rest =>
      rw [List.isChain_cons_cons, ← ih]
      cases hab : discord rule a b <;> simp [firstDiscord, hab]

/-! ## What is compliant -/

/-- The imports stand one right after another among the statements. -/
def Consecutive (ss : List Statement) (ds : List ImportDecl) : Prop := ds.map .importDecl <:+: ss

/-- No name in the braced list sorts after a later one. -/
def ImportDecl.NamesSorted (rule : Rule) (d : ImportDecl) : Prop :=
  d.named.Pairwise fun a b => comparable rule.ignoreCase a.name ≤ comparable rule.ignoreCase b.name

instance (rule : Rule) (d : ImportDecl) : Decidable (d.NamesSorted rule) :=
  inferInstanceAs (Decidable (List.Pairwise _ _))

/-- The statements keep the rule. -/
structure Compliant (rule : Rule) (ss : List Statement) : Prop where
  /-- no import comes after another statement -/
  placed : rule.importsAtStart = true →
    ss.Pairwise fun s t => s.isImport = false → t.isImport = false
  /-- of two imports with only imports between them the earlier one sorts before the
  later one -/
  sorted : ∀ a between b, Consecutive ss (a :: between ++ [b]) → SortsBefore rule a b
  /-- the category does not change without a blank line -/
  spaced : rule.enforceBlankLine = true → ∀ a b, Consecutive ss [a, b] → a.category ≠ b.category →
    a.startLine + 2 ≤ b.startLine
  /-- the braced lists are sorted -/
  listed : ∀ d, .importDecl d ∈ ss → d.NamesSorted rule
  /-- there is a blank line between an import and another statement after it -/
  closed : rule.enforceTrailingLine = true → ∀ d s, [.importDecl d, s] <:+: ss →
    s.isImport = false → d.endLine + 2 ≤ s.startLine

/-! ## When each part of a check finds nothing -/

/-- Two lists that are found one after the other are both empty if nothing is found. -/
theorem append_eq_ok_nil {ε α : Type} {x y : Except ε (List α)} : (do
    let here ← x
    let later ← y
    .ok (here ++ later)) = .ok [] ↔ x = .ok [] ∧ y = .ok [] := by
  cases x with
  | error e => exact iff_of_false nofun nofun
  | ok here =>
    cases y with
    | error e => exact iff_of_false nofun nofun
    | ok later =>
      rw [bind_ok rfl, bind_ok rfl]
      simp only [Except.ok.injEq, List.append_eq_nil_iff]

/-- A list is reported exactly if its names are not sorted. -/
theorem unsorted_eq_false {rule : Rule} {d : ImportDecl} :
    d.unsorted rule.ignoreCase = false ↔ d.NamesSorted rule := by
  rw [ImportDecl.unsorted, specifiersUnsorted_eq_false, ImportDecl.NamesSorted]
  simp only [precedes_iff_le]

/-- Nothing is found in an import exactly if its names are sorted. A list that is not
sorted is not empty, so there is a fix for it, and a fault is not nothing. -/
theorem specifierFinding_eq_nil {text : String} {rule : Rule} {d : ImportDecl} :
    specifierFinding text rule d = .ok [] ↔ d.NamesSorted rule := by
  rw [← unsorted_eq_false, specifierFinding]
  split
  · next hunsorted =>
    refine iff_of_false ?_ (by simp [hunsorted])
    intro h
    obtain ⟨fix?, hfix, h⟩ := ok_of_bind h
    cases fix? with
    | some fix => cases h
    | none =>
      unfold specifierFix at hfix
      split at hfix
      · next hnamed => rw [ImportDecl.unsorted, hnamed] at hunsorted; cases hunsorted
      · obtain ⟨gaps, -, hfix⟩ := ok_of_bind hfix
        obtain ⟨pieces, -, hfix⟩ := ok_of_bind hfix
        obtain ⟨span, -, hfix⟩ := ok_of_bind hfix
        cases hfix
  · next hsorted => exact iff_of_true rfl (by simpa using hsorted)

/-- Nothing is found in the lists of a run exactly if the names of each are sorted. -/
theorem specifierFindings_eq_nil (text : String) {rule : Rule} {ds : List ImportDecl} :
    specifierFindings text rule ds = .ok [] ↔ ∀ d ∈ ds, d.NamesSorted rule := by
  induction ds with
  | nil => simp [specifierFindings]
  | cons d rest ih =>
    rw [specifierFindings_cons, append_eq_ok_nil, specifierFinding_eq_nil, ih, List.forall_mem_cons]

/-- Nothing is said about the order exactly if it is not violated. -/
theorem orderFindings_eq_nil {text : String} {rule : Rule} {r : Run}
    {violation : Option Violation} :
    orderFindings text rule r violation = .ok [] ↔ violation = none := by
  cases violation with
  | none => exact iff_of_true rfl rfl
  | some cause =>
    refine iff_of_false ?_ nofun
    intro h
    obtain ⟨fix, -, h⟩ := ok_of_bind h
    cases h

/-- No blank line is missing exactly if nothing follows the run or it starts two lines
below. -/
theorem trailingFix_eq_none (text : String) (ss : List Statement) {r : Run}
    (h : r.last.endLine + 1 < lineBound) :
    trailingFix text ss r = .ok none ↔
      ∀ s ∈ ss[r.lastIndex + 1]?, r.last.endLine + 2 ≤ s.startLine := by
  unfold trailingFix
  cases ss[r.lastIndex + 1]? with
  | none => exact iff_of_true rfl nofun
  | some following =>
    simp only [bind_ok (nextLine_eq h), Option.mem_some_iff, forall_eq']
    split
    · next hfar => exact iff_of_true rfl hfar
    · next hnear =>
      refine iff_of_false ?_ hnear
      intro h
      obtain ⟨gap, -, h⟩ := ok_of_bind h
      obtain ⟨span, -, h⟩ := ok_of_bind h
      cases h

/-- Nothing is said about the line after a run exactly if the rule does not ask for one
or none is missing. -/
theorem trailingFindings_eq_nil (text : String) {rule : Rule} (ss : List Statement) {r : Run}
    (h : r.last.endLine + 1 < lineBound) : trailingFindings text rule ss r none = .ok [] ↔
      (rule.enforceTrailingLine = true →
        ∀ s ∈ ss[r.lastIndex + 1]?, r.last.endLine + 2 ≤ s.startLine) := by
  rw [← trailingFix_eq_none text ss h, trailingFindings, Option.isNone_none, Bool.true_and]
  cases rule.enforceTrailingLine with
  | false => simp
  | true =>
    rcases trailingFix text ss r with e | _ | fix <;> simp [bind, Except.bind]

/-- **A run in which nothing is found.** -/
theorem runFindings_eq_nil {text : String} {rule : Rule} {ss : List Statement} {r : Run}
    (h : ∀ d ∈ r.imports, d.InRange) : runFindings text rule ss r = .ok [] ↔
      firstDiscord rule r.imports = none ∧ (∀ d ∈ r.imports, d.NamesSorted rule) ∧
      (rule.enforceTrailingLine = true →
        ∀ s ∈ ss[r.lastIndex + 1]?, r.last.endLine + 2 ≤ s.startLine) := by
  have hlast : r.last.endLine + 1 < lineBound := (h r.last (List.getLast_mem _)).2
  rw [runFindings_eq, bind_ok (firstViolation_eq_ok rule fun d hd _ => (h d hd).1),
    ← specifierFindings_eq_nil text, ← trailingFindings_eq_nil text ss hlast]
  constructor
  · intro hnil
    obtain ⟨order, horder, hnil⟩ := ok_of_bind hnil
    obtain ⟨specifiers, hspecifiers, hnil⟩ := ok_of_bind hnil
    obtain ⟨trailing, htrailing, hnil⟩ := ok_of_bind hnil
    simp only [Except.ok.injEq, List.append_eq_nil_iff] at hnil
    obtain ⟨⟨rfl, rfl⟩, rfl⟩ := hnil
    have hdiscord := orderFindings_eq_nil.1 horder
    exact ⟨hdiscord, hspecifiers, hdiscord ▸ htrailing⟩
  · rintro ⟨hdiscord, hspecifiers, htrailing⟩
    rw [hdiscord, orderFindings, bind_ok rfl, bind_ok hspecifiers, bind_ok htrailing]
    rfl

/-- Nothing is found in any run exactly if nothing is found in each. -/
theorem allRunFindings_eq_nil {text : String} {rule : Rule} {ss : List Statement} {rs : List Run} :
    allRunFindings text rule ss rs = .ok [] ↔ ∀ r ∈ rs, runFindings text rule ss r = .ok [] := by
  induction rs with
  | nil => simp [allRunFindings]
  | cons r rest ih => rw [allRunFindings, append_eq_ok_nil, ih, List.forall_mem_cons]

/-- No import is late if none comes after another statement. -/
theorem lateDecls_eq_nil {ss : List Statement} :
    lateDecls ss = [] ↔ ss.Pairwise fun s t => s.isImport = false → t.isImport = false := by
  induction ss with
  | nil => simp [lateDecls, fromFirstOther]
  | cons s rest ih =>
    rw [List.pairwise_cons]
    cases s with
    | importDecl d =>
      have hskip : lateDecls (.importDecl d :: rest) = lateDecls rest := rfl
      rw [hskip, ih]
      exact ⟨fun h => ⟨fun t _ hd => Bool.noConfusion hd, h⟩, And.right⟩
    | other form span a b =>
      have hother : lateDecls (.other form span a b :: rest) = [] ↔
          ∀ t ∈ rest, t.isImport = false := by
        rw [lateDecls_eq rfl, List.filterMap_eq_nil_iff]
        simp only [Statement.isImport_eq_false]
      rw [hother]
      constructor
      · intro h
        exact ⟨fun t ht _ => h t ht, List.pairwise_of_forall_mem_list fun _ _ t ht _ => h t ht⟩
      · rintro ⟨h, -⟩ t ht
        exact h t ht rfl

/-- Nothing is found in a module exactly if no import is late and nothing is found in
any run. -/
theorem findings_eq_nil {text : String} {rule : Rule} {ss : List Statement} :
    findings text rule ss = .ok [] ↔
    lateImports text rule ss = .ok [] ∧
      ∀ r ∈ collectRuns ss, runFindings text rule ss r = .ok [] := by
  rw [← allRunFindings_eq_nil]
  constructor
  · intro h
    obtain ⟨late, hlate, h⟩ := ok_of_bind h
    cases late with
    | nil => exact ⟨hlate, h⟩
    | cons m late => cases h
  · rintro ⟨hlate, hruns⟩
    rw [findings, bind_ok hlate]
    exact hruns

/-- A check is empty exactly if nothing is found, since every finding becomes a
diagnostic. -/
theorem check_eq_ok_nil {text : String} {rule : Rule} {ss : List Statement} :
    check text rule ss = .ok [] ↔ findings text rule ss = .ok [] := by
  constructor
  · intro h
    obtain ⟨found, hfound, h⟩ := ok_of_bind h
    have hnil : found = [] := withhold_eq_nil (by rw [Except.ok.inj h]; rfl)
    rw [hfound, hnil]
  · intro h
    rw [check, bind_ok h]
    rfl

/-! ## From runs to neighbours -/

/-- A chain is made of its pairs of neighbours. -/
theorem isChain_iff_infix {α : Type} {R : α → α → Prop} {xs : List α} :
    xs.IsChain R ↔ ∀ a b, [a, b] <:+: xs → R a b := by
  constructor
  · intro h a b hab
    have hpair := List.IsChain.infix h hab
    exact List.isChain_pair.1 hpair
  · intro h
    rw [List.isChain_iff_forall_rel_of_append_cons_cons]
    intro a b front back heq
    exact h a b ⟨front, back, by rw [heq]; simp⟩

/-- Neighbours in runs are neighbours. -/
theorem isChain_imports {R : ImportDecl → ImportDecl → Prop} {ss : List Statement} :
    (∀ r ∈ collectRuns ss, r.imports.IsChain R) ↔ ∀ a b, Consecutive ss [a, b] → R a b := by
  constructor
  · intro h a b hab
    obtain ⟨r, hr, hinfix⟩ := exists_run_of_infix (List.cons_ne_nil a [b]) hab
    exact isChain_iff_infix.1 (h r hr) a b hinfix
  · intro h r hr
    obtain ⟨before, after, hfills⟩ := exists_fills hr
    exact isChain_iff_infix.2 fun a b hab => h a b ((hab.map _).trans hfills.isInfix)

/-- A transitive relation holds between all imports of a stretch if it holds between
neighbours. -/
theorem forall_between {R : ImportDecl → ImportDecl → Prop} [IsTrans ImportDecl R]
    {ss : List Statement} :
    (∀ a between b, Consecutive ss (a :: between ++ [b]) → R a b) ↔
      ∀ a b, Consecutive ss [a, b] → R a b := by
  constructor
  · intro h a b
    exact h a [] b
  · intro h a between b hab
    obtain ⟨r, hr, hinfix⟩ := exists_run_of_infix (List.cons_ne_nil a (between ++ [b])) hab
    have hchain := List.IsChain.infix (isChain_imports.2 h r hr) hinfix
    rw [List.isChain_iff_pairwise] at hchain
    exact List.rel_of_pairwise_cons hchain (by simp)

/-- Every import of a module stands in one of its runs. -/
theorem mem_imports {ss : List Statement} {d : ImportDecl} :
    .importDecl d ∈ ss ↔ ∃ r ∈ collectRuns ss, d ∈ r.imports := by
  constructor
  · intro h
    have hone : [d].map Statement.importDecl <:+: ss := (List.singleton_infix_iff _ _).2 h
    obtain ⟨r, hr, hinfix⟩ := exists_run_of_infix (List.cons_ne_nil d []) hone
    exact ⟨r, hr, hinfix.subset List.mem_cons_self⟩
  · rintro ⟨r, hr, hd⟩
    obtain ⟨before, after, hfills⟩ := exists_fills hr
    exact hfills.isInfix.subset (List.mem_map_of_mem hd)

/-- If the lines of all statements can be counted, so can those of the imports in each
run. -/
theorem inRange_imports {ss : List Statement}
    (hlines : ∀ s ∈ ss, s.startLine < 2 ^ 32 - 1 ∧ s.endLine < 2 ^ 32 - 1) :
    ∀ r ∈ collectRuns ss, ∀ d ∈ r.imports, d.InRange := by
  intro r hr d hd
  have hline := hlines _ (mem_imports.2 ⟨r, hr, hd⟩)
  simp only [Statement.startLine, Statement.endLine] at hline
  rw [ImportDecl.InRange, lineBound]
  omega

/-- What comes after a run is what comes after an import and is none. -/
theorem forall_following {P : ImportDecl → Statement → Prop} {ss : List Statement} :
    (∀ r ∈ collectRuns ss, ∀ s ∈ ss[r.lastIndex + 1]?, P r.last s) ↔
      ∀ d s, [.importDecl d, s] <:+: ss → s.isImport = false → P d s := by
  constructor
  · intro h d s hds hs
    obtain ⟨r, hr, rfl, hnext⟩ := exists_run_before hds hs
    exact h r hr s hnext
  · intro h r hr s hs
    obtain ⟨before, after, hfills⟩ := exists_fills hr
    rw [hfills.following] at hs
    obtain ⟨rest, rfl⟩ : ∃ rest, after = s :: rest := by
      cases after with
      | nil => cases hs
      | cons t rest => exact ⟨rest, congrArg (· :: rest) (Option.some.inj hs)⟩
    exact h r.last s hfills.last_infix (hfills.right s rfl)

/-- Nothing is found in a compliant module, and only there. -/
theorem findings_eq_nil_iff {text : String} {rule : Rule} {ss : List Statement}
    (hlines : ∀ s ∈ ss, s.startLine < 2 ^ 32 - 1 ∧ s.endLine < 2 ^ 32 - 1) :
    findings text rule ss = .ok [] ↔ Compliant rule ss := by
  have hrange := inRange_imports hlines
  rw [findings_eq_nil, lateImports_eq_nil_iff, lateDecls_eq_nil]
  constructor
  · rintro ⟨hplaced, hruns⟩
    have hquiet := fun r hr => (runFindings_eq_nil (hrange r hr)).1 (hruns r hr)
    have horder := isChain_imports.1 fun r hr => firstDiscord_eq_none.1 (hquiet r hr).1
    refine ⟨hplaced, ?_, ?_, ?_, ?_⟩
    · exact forall_between.2 fun a b hab => (discord_eq_none.1 (horder a b hab)).1
    · exact fun hblank a b hab => (discord_eq_none.1 (horder a b hab)).2 hblank
    · intro d hd
      obtain ⟨r, hr, hdr⟩ := mem_imports.1 hd
      exact (hquiet r hr).2.1 d hdr
    · exact fun htrailing => forall_following.1 fun r hr => (hquiet r hr).2.2 htrailing
  · intro h
    refine ⟨h.placed, fun r hr => (runFindings_eq_nil (hrange r hr)).2 ⟨?_, ?_, ?_⟩⟩
    · refine firstDiscord_eq_none.2 (isChain_imports.2 (fun a b hab => ?_) r hr)
      exact discord_eq_none.2 ⟨forall_between.1 h.sorted a b hab,
        fun hblank => h.spaced hblank a b hab⟩
    · exact fun d hd => h.listed d (mem_imports.2 ⟨r, hr, hd⟩)
    · exact fun htrailing => forall_following.2 (h.closed htrailing) r hr

/-- **A check finds nothing just in a compliant module.** In any other one it finds
something, or it does not end well. -/
theorem check_eq_nil_iff_compliant {text : String} {rule : Rule} {ss : List Statement}
    (hlines : ∀ s ∈ ss, s.startLine < 2 ^ 32 - 1 ∧ s.endLine < 2 ^ 32 - 1) :
    (check text rule ss = .ok [] ↔ Compliant rule ss) ∧
      (¬ Compliant rule ss →
        (∃ d ds, check text rule ss = .ok (d :: ds)) ∨
          ∃ fault, check text rule ss = .error fault) := by
  have hiff : check text rule ss = .ok [] ↔ Compliant rule ss :=
    check_eq_ok_nil.trans (findings_eq_nil_iff hlines)
  refine ⟨hiff, ?_⟩
  intro hnot
  rcases hcheck : check text rule ss with fault | _ | ⟨d, ds⟩
  · exact .inr ⟨fault, rfl⟩
  · exact absurd (hiff.1 hcheck) hnot
  · exact .inl ⟨d, ds, rfl⟩

/-- Two categories and a statement after them, which needs to be on the fifth line. -/
theorem check_eq_nil_iff_compliant_spaced :
    let rule : Rule :=
      { enforceBlankLine := true, enforceTrailingLine := true, ignoreCase := false }
    let ss (line : Nat) : List Statement := [
      .importDecl ⟨⟨0, 1⟩, 1, 1, some .type, "t", []⟩,
      .importDecl ⟨⟨3, 4⟩, 3, 3, some .value, "b", []⟩, .other "q" ⟨6, 7⟩ line line]
    Compliant rule (ss 5) ∧ ¬ Compliant rule (ss 4) := by
  intro rule ss
  have hquiet : check "t\n\nb\n\nq" rule (ss 5) = .ok [] := by decide +kernel
  have hnoisy : check "t\n\nb\n\nq" rule (ss 4) =
      .ok [⟨.missingTrailingLine, ⟨3, 4⟩, 3, some ⟨⟨4, 4⟩, "\n"⟩⟩] := by decide +kernel
  refine ⟨(check_eq_nil_iff_compliant (by decide)).1.1 hquiet, ?_⟩
  intro h
  cases hnoisy.symm.trans ((check_eq_nil_iff_compliant (by decide)).1.2 h)

/-- Two categories far apart are not enough if the later import stands on the earlier
line. The module has no neighbours but these two. -/
theorem check_reports_lines_going_back :
    let rule : Rule := { enforceBlankLine := true }
    let ss : List Statement := [
      .importDecl ⟨⟨0, 1⟩, 5, 5, some .type, "a", []⟩,
      .importDecl ⟨⟨2, 3⟩, 1, 1, some .value, "b", []⟩]
    Compliant { rule with enforceBlankLine := false } ss ∧
      (∀ a b, Consecutive ss [a, b] → a.category ≠ b.category →
        a.startLine + 2 ≤ b.startLine ∨ b.startLine + 2 ≤ a.startLine) ∧
      check "a b" rule ss =
        .ok [⟨.importOrder .missingBlankLine, ⟨0, 1⟩, 5, some ⟨⟨0, 3⟩, "a\n\nb"⟩⟩] := by
  intro rule ss
  have hlines : ∀ s ∈ ss, s.startLine < 2 ^ 32 - 1 ∧ s.endLine < 2 ^ 32 - 1 := by decide
  have hquiet : findings "a b" { rule with enforceBlankLine := false } ss = .ok [] := by
    decide +kernel
  refine ⟨(findings_eq_nil_iff hlines).1 hquiet, ?_, by decide +kernel⟩
  rintro a b ⟨front, back, heq⟩ -
  have hlength := congrArg List.length heq
  simp only [ss, List.length_append, List.length_map, List.length_cons, List.length_nil] at hlength
  obtain rfl : front = [] := List.eq_nil_of_length_eq_zero (by omega)
  obtain rfl : back = [] := List.eq_nil_of_length_eq_zero (by omega)
  obtain ⟨rfl, rfl⟩ :
      a = ⟨⟨0, 1⟩, 5, 5, some .type, "a", []⟩ ∧ b = ⟨⟨2, 3⟩, 1, 1, some .value, "b", []⟩ := by
    simpa [ss] using heq
  exact .inr (by decide)

end ImportOrder

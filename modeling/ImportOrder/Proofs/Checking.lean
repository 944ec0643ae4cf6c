import Mathlib.Order.Compare
import ImportOrder.Proofs.Commands

/-!
# Checking many files

The command `check` gathers files, sorts them, and lints one after another with the same
linter. A file that cannot be parsed is passed over where there are others; any other
failure ends the check.

* `collectFiles_sorted` — the files stand in the order of their paths, and no path
  stands there twice;
* `resultOf_lintFile_eq` — what a linter makes of a file does not depend on the files
  before it;
* `resultOf_lintEach` — so the loop stops at the first failure that counts, and else it
  has the reports of all files that could be linted;
* `check_outlasts_broken_files` — hence what the command comes to, and with which exit
  code.
-/

namespace ImportOrder

/-! ## The order of paths -/

/-- The text of a name; the other parts have none. -/
def PathPart.label : PathPart → String
  | .name s => s
  | _ => ""

/-- Parts are compared by their place in the order, and then by their texts. -/
theorem PathPart.compare_eq :
    PathPart.compare = compareLex (compareOn PathPart.rank) (compareOn PathPart.label) := by
  funext a b
  cases a <;> cases b <;> rfl

instance : Std.TransCmp PathPart.compare := by
  rw [PathPart.compare_eq]
  infer_instance

/-- Paths are compared part by part, as lists are in the lexicographic order, so the
laws of that order hold of them. -/
theorem compareParts_eq : compareParts = List.compareLex PathPart.compare := by
  funext as bs
  induction as generalizing bs with
  | nil => cases bs <;> rfl
  | cons a as ih =>
    cases bs with
    | nil => rfl
    | cons b bs => rw [compareParts, ih, List.compareLex_cons_cons]

instance : Std.TransCmp comparePathNames where
  eq_swap {a b} := by
    rw [comparePathNames, comparePathNames, compareParts_eq]
    exact Std.OrientedCmp.eq_swap
  isLE_trans {a b c} hab hbc := by
    rw [comparePathNames, compareParts_eq] at *
    exact Std.TransCmp.isLE_trans hab hbc

/-- Leaving out repetitions adds nothing. -/
theorem dropRepeated_sublist (paths : List String) : (dropRepeated paths).Sublist paths := by
  fun_induction dropRepeated paths with
  | case1 a b rest _ ih => exact ih.trans ((List.sublist_cons_self b rest).cons_cons a)
  | case2 a b rest _ ih => exact ih.cons_cons a
  | case3 paths _ => exact List.Sublist.refl paths

/-- **Sorted paths without repetitions** strictly ascend. -/
theorem dropRepeated_pairwise {paths : List String}
    (h : paths.Pairwise fun a b => (comparePathNames a b).isLE) :
    (dropRepeated paths).Pairwise fun a b => comparePathNames a b = .lt := by
  fun_induction dropRepeated paths with
  | case1 a b rest _ ih => exact ih (h.sublist ((List.sublist_cons_self b rest).cons_cons a))
  | case2 a b rest hne ih =>
    obtain ⟨hle, hrest⟩ := List.pairwise_cons.1 h
    have hlt : comparePathNames a b = .lt := by
      have hab := hle b List.mem_cons_self
      cases hcompare : comparePathNames a b with
      | lt => rfl
      | eq => exact absurd hcompare hne
      | gt =>
        rw [hcompare] at hab
        cases hab
    refine List.pairwise_cons.2 ⟨fun x hx => ?_, ih hrest⟩
    rcases List.mem_cons.1 ((dropRepeated_sublist _).subset hx) with rfl | hx
    · exact hlt
    · exact Std.TransCmp.lt_of_lt_of_isLE hlt ((List.pairwise_cons.1 hrest).1 x hx)
  | case3 paths hshort =>
    match paths, hshort with
    | [], _ => exact List.Pairwise.nil
    | [a], _ => exact List.pairwise_singleton _ a
    | a :: b :: rest, hshort => exact absurd rfl (hshort a b rest)

/-- The files that are found stand in strict order, so none of them is there twice. -/
theorem collectFiles_sorted {p : Project} {env : Environment} {settings : FileSettings}
    {paths files : List String} (h : collectFiles p env settings paths = .ok files) :
    files.Pairwise fun a b => comparePathNames a b = .lt := by
  obtain ⟨found, -, h⟩ := ok_of_bind h
  obtain rfl := Except.ok.inj h
  have hle : ∀ a b, (comparePathNames a b != .gt) = (comparePathNames a b).isLE := by
    intro a b
    cases comparePathNames a b <;> rfl
  simp only [hle]
  refine dropRepeated_pairwise (List.pairwise_mergeSort (fun a b c => Std.TransCmp.isLE_trans)
    (fun a b => ?_) _)
  rw [@Std.OrientedCmp.eq_swap _ comparePathNames _ b a]
  cases comparePathNames a b <;> rfl

/-! ## One file after another -/

/-- The failure is that a file could not be parsed. -/
def Halt.isParseError : Halt Failure → Bool
  | .error (.parse ..) => true
  | _ => false

/-- What a new linter makes of a file. -/
def Surroundings.lintAlone (w : Surroundings) (rule : Rule) (file : String) :
    Except (Halt Failure) FileReport :=
  resultOf ((projectLinter w rule).lintFile file) {}

/-- The failure of a file that ends a check: any where it is the only file, else one
that is not about its syntax. -/
def fatal? {α : Type} (several : Bool) : Except (Halt Failure) α → Option (Halt Failure)
  | .ok _ => none
  | .error halt => if several && halt.isParseError then none else some halt

section

variable (w : Surroundings) (rule : Rule)

/-- **Each file for itself.** What a linter makes of a file is what a new linter makes
of it, whatever was linted before. -/
theorem resultOf_lintFile_eq (file : String) (j : Journal) :
    resultOf ((projectLinter w rule).lintFile file) j = w.lintAlone rule file :=
  (lintFile_eq (projectLinter_switches w rule) file j).1.trans
    (lintFile_eq (projectLinter_switches w rule) file {}).1.symm

theorem lintAlone_path {file : String} {r : FileReport} (h : w.lintAlone rule file = .ok r) :
    r.path = file := by
  rw [Surroundings.lintAlone, Linter.lintFile, resultOf_bind] at h
  obtain ⟨code, -, h⟩ := ok_of_bind h
  rw [resultOf_bind] at h
  obtain ⟨ds, -, h⟩ := ok_of_bind h
  obtain rfl := Except.ok.inj h
  rfl

end

section

variable {σ : Type} {l : Linter σ} {alone : String → Except (Halt Failure) FileReport}

/-- The report on one of several files, if the file has one. -/
theorem resultOf_lintOneOf (halone : ∀ file s, resultOf (l.lintFile file) s = alone file)
    (several : Bool) (file : String) (s : σ) :
    resultOf (l.lintOneOf several file) s =
      match fatal? several (alone file) with
      | some halt => .error halt
      | none => .ok (alone file).toOption := by
  have hsome : resultOf (some <$> l.lintFile file) s = (alone file).map some := by
    rw [map_eq_pure_bind, resultOf_bind, halone]
    cases alone file <;> rfl
  rw [Linter.lintOneOf, resultOf_tryCatch, hsome]
  cases alone file with
  | ok r => rfl
  | error halt =>
    cases halt with
    | fault cause => cases several <;> rfl
    | error cause => cases cause <;> cases several <;> rfl

/-- **The loop over the files** stops at the first failure that counts. Where there is
none it has the reports of all files that could be linted, in their order. The state
goes on from file to file, but what is made of a file does not depend on it. -/
theorem resultOf_lintEach (halone : ∀ file s, resultOf (l.lintFile file) s = alone file)
    (several : Bool) (files : List String) (s : σ) :
    resultOf (l.lintEach several files) s =
      match files.findSome? fun file => fatal? several (alone file) with
      | some halt => .error halt
      | none => .ok (files.filterMap fun file => (alone file).toOption) := by
  induction files generalizing s with
  | nil => rfl
  | cons file rest ih =>
    rw [Linter.lintEach, resultOf_bind, resultOf_lintOneOf halone, List.findSome?_cons]
    cases fatal? several (alone file) with
    | some halt => rfl
    | none =>
      rw [bind_ok rfl, resultOf_bind, ih]
      cases rest.findSome? fun file => fatal? several (alone file) with
      | some halt => rfl
      | none =>
        rw [bind_ok rfl, List.filterMap_cons]
        cases (alone file).toOption <;> rfl

end

/-- With several files, only what is no parse error ends a command. -/
theorem fatal?_eq_some {α : Type} {r : Except (Halt Failure) α} {halt : Halt Failure} :
    fatal? true r = some halt ↔ r = .error halt ∧ halt.isParseError = false := by
  cases r with
  | ok x => simp [fatal?]
  | error h =>
    by_cases hparse : h.isParseError = true
    · rw [fatal?, hparse]
      refine iff_of_false nofun ?_
      rintro ⟨heq, hfalse⟩
      rw [← Except.error.inj heq, hparse] at hfalse
      cases hfalse
    · simp only [fatal?, Bool.true_and, hparse, Except.error.injEq]
      refine ⟨?_, ?_⟩
      · rintro ⟨⟩
        exact ⟨rfl, Bool.eq_false_iff.2 hparse⟩
      · rintro ⟨rfl, -⟩
        rfl

/-- With several files, a file is no reason to stop exactly if it could be linted or
failed to parse. -/
theorem fatal?_eq_none {α : Type} {r : Except (Halt Failure) α} :
    fatal? true r = none ↔ ∀ halt, r = .error halt → halt.isParseError = true := by
  cases r with
  | ok x => simp [fatal?]
  | error h => simp [fatal?]

/-- The first failure that ends a check of several files. -/
theorem findSome?_fatal_eq_some {α : Type} {alone : String → Except (Halt Failure) α}
    {files : List String} {halt : Halt Failure} :
    (files.findSome? fun file => fatal? true (alone file)) = some halt ↔
      ∃ before file after, files = before ++ file :: after ∧
        (alone file = .error halt ∧ halt.isParseError = false) ∧
        ∀ f ∈ before, ∀ h, alone f = .error h → h.isParseError = true := by
  simp only [List.findSome?_eq_some_iff, fatal?_eq_some, fatal?_eq_none]

/-- No failure ends a check of several files if there are none but parse errors. -/
theorem findSome?_fatal_eq_none {α : Type} {alone : String → Except (Halt Failure) α}
    {files : List String} :
    (files.findSome? fun file => fatal? true (alone file)) = none ↔
      ∀ file ∈ files, ∀ halt, alone file = .error halt → halt.isParseError = true := by
  simp only [List.findSome?_eq_none_iff, fatal?_eq_none]

/-! ## The command -/

/-- A check ends with success exactly if no report has a problem. -/
theorem exit_showReports (style : Style) (reports : List FileReport) :
    (showReports style reports).2.number = 0 ↔ ∀ r ∈ reports, r.diagnostics = [] := by
  have hcode : (showReports style reports).2 =
      ExitCode.ofCount (reports.flatMap (·.diagnostics)).length := rfl
  have hcount : (reports.flatMap (·.diagnostics)).length = 0 ↔
      ∀ r ∈ reports, r.diagnostics = [] := by
    rw [List.length_eq_zero_iff, List.flatMap_eq_nil_iff]
  rw [hcode, ExitCode.number_ofCount]
  split
  · next hzero => exact iff_of_true rfl (hcount.1 hzero)
  · next hsome => exact iff_of_false Nat.one_ne_zero (mt hcount.2 hsome)

section

variable {i : Invocation} {w : Surroundings} {paths : List String} {overrides : RuleOverrides}
    {settings : Settings}
  {rule : Rule} {files : List String}

/-- **A check of the files that were found** ends with the first fault that may not be
passed over, and without one reports on every file that could be linted. -/
theorem performCheck_result (style : Style) (hrule : ruleInUse settings overrides = .ok rule)
    (hfiles : collectFiles w.project w.environment settings.files paths = .ok files)
    {several : Bool} (hseveral : decide (files.length > 1) = several) :
    (performCheck style w settings paths overrides).result =
      match files.findSome? fun file => fatal? several (w.lintAlone rule file) with
      | some halt => .error (Abort.ofHalt halt)
      | none =>
        let reports := files.filterMap fun file => (w.lintAlone rule file).toOption
        .ok ((showReports style reports).1, (showReports style reports).2, w.project) := by
  simp only [performCheck, linterInUse_eq, hrule, Except.map, hfiles, perform_result,
    Linter.lintFiles, resultOf_lintEach (resultOf_lintFile_eq w rule), hseveral]
  cases files.findSome? fun file => fatal? several (w.lintAlone rule file) <;> rfl

/-- The reports are those of the files that could be linted, in the order of the
files. -/
theorem map_path_reports (w : Surroundings) (rule : Rule) (files : List String) :
    (files.filterMap fun file => (w.lintAlone rule file).toOption).map FileReport.path =
      files.filter fun file => (w.lintAlone rule file).isOk := by
  induction files with
  | nil => rfl
  | cons file rest ih =>
    cases hfile : w.lintAlone rule file with
    | error halt => simpa [hfile, Except.toOption, Except.isOk, Except.toBool] using ih
    | ok r =>
      simpa [hfile, Except.toOption, Except.isOk, Except.toBool,
        lintAlone_path w rule hfile] using ih

end

/-- **What a check comes to.** The files stand in the order of their paths, each once.
If there are two or more, the check fails just if linting one of them alone fails
otherwise than by a parse error, and it fails with the failure of the first such file.
If there is none, it reports what a new linter finds in each file that can be parsed, in
their order, and ends with success exactly if nothing is found. If there is a single
file, the check fails just if linting the file does, and with the same failure. -/
theorem check_outlasts_broken_files {i : Invocation} {w : Surroundings} {paths : List String}
    {overrides : RuleOverrides} {settings : Settings} {rule : Rule} {files : List String}
    (hcommand : i.command = .check paths overrides) (hsettings : i.settings w = .ok settings)
    (hrule : ruleInUse settings overrides = .ok rule)
    (hfiles : collectFiles w.project w.environment settings.files paths = .ok files) :
    let style := i.style w.environment
    let check := performCheck style w settings paths overrides
    let alone := w.lintAlone rule
    let reports := files.filterMap fun file => (alone file).toOption
    i.run w = check.outcome style (i.debug || settings.debug) w.project ∧
    (files.Pairwise fun a b => comparePathNames a b = .lt) ∧
    (2 ≤ files.length →
      ((∃ a, check.result = .error a) ↔
        ∃ file ∈ files, ∃ halt, alone file = .error halt ∧ halt.isParseError = false) ∧
      (∀ a, check.result = .error a → ∃ before file after halt, files = before ++ file :: after ∧
        alone file = .error halt ∧ halt.isParseError = false ∧ a = Abort.ofHalt halt ∧
        ∀ f ∈ before, ∀ h, alone f = .error h → h.isParseError = true) ∧
      ((∀ file ∈ files, ∀ halt, alone file = .error halt → halt.isParseError = true) →
        check.result =
          .ok ((showReports style reports).1, (showReports style reports).2, w.project) ∧
        reports.map FileReport.path = files.filter (fun file => (alone file).isOk) ∧
        ((i.run w).exit = 0 ↔ ∀ r ∈ reports, r.diagnostics = []))) ∧
    (∀ file, files = [file] →
      ∀ a, check.result = .error a ↔ ∃ halt, alone file = .error halt ∧ a = Abort.ofHalt halt) := by
  intro style check alone reports
  have hrun : i.run w = check.outcome style (i.debug || settings.debug) w.project := by
    rw [Invocation.run, hcommand, hsettings]
  refine ⟨hrun, collectFiles_sorted hfiles, fun hseveral => ?_, ?_⟩
  · have hresult := performCheck_result style hrule hfiles (decide_eq_true hseveral)
    cases hfound : files.findSome? fun file => fatal? true (alone file) with
    | some halt =>
      rw [hfound] at hresult
      obtain ⟨before, file, after, hsplit, ⟨hfile, hhalt⟩, hbefore⟩ :=
        findSome?_fatal_eq_some.1 hfound
      have hmem : file ∈ files := hsplit ▸ List.mem_append_right _ List.mem_cons_self
      refine ⟨iff_of_true ⟨_, hresult⟩ ⟨file, hmem, halt, hfile, hhalt⟩, fun a ha => ?_,
        fun hnone => ?_⟩
      · obtain rfl := Except.error.inj (hresult.symm.trans ha)
        exact ⟨before, file, after, halt, hsplit, hfile, hhalt, rfl, hbefore⟩
      · rw [hnone file hmem halt hfile] at hhalt
        cases hhalt
    | none =>
      rw [hfound] at hresult
      have hnone := findSome?_fatal_eq_none.1 hfound
      refine ⟨iff_of_false ?_ ?_, fun a ha => ?_,
        fun _ => ⟨hresult, map_path_reports w rule files, ?_⟩⟩
      · rintro ⟨a, ha⟩
        cases hresult.symm.trans ha
      · rintro ⟨file, hmem, halt, hfile, hhalt⟩
        rw [hnone file hmem halt hfile] at hhalt
        cases hhalt
      · cases hresult.symm.trans ha
      · rw [hrun, (Performance.outcome_of_ok style _ _ hresult).1, exit_showReports]
  · rintro file rfl a
    have hresult : check.result = _ := performCheck_result style hrule hfiles rfl
    rw [hresult, List.findSome?_singleton]
    have hfile : w.lintAlone rule file = alone file := rfl
    rw [hfile]
    cases alone file with
    | ok r => simp [fatal?]
    | error halt => simp [fatal?, eq_comm]

/-- Two files that can be parsed, `a` with a problem and `c` without, a broken one
between them, one that is no text, and one that may not be opened. -/
def mixedSurroundings : Surroundings where
  project := { nodes := [(["a"], .file (.text "import\"a\" b")), (["b"], .file (.text "(")),
    (["c"], .file (.text "")), (["d"], .file (.raw [255])),
    (["e"], .file (.locked .permissionDenied))] }
  trees := fun _ text =>
    let root : SyntaxNode :=
      { kind := "program", span := ⟨0, 0⟩, startRow := 0, startColumn := 0, endRow := 0 }
    if text = "import\"a\" b" then some (sampleTree 10 0)
    else if text = "(" then
      some { root with kind := "ERROR", span := ⟨0, 1⟩, isError := true, tainted := true }
    else some root

/-- The broken file is passed over, and a check of it together with a file that cannot
be read fails because of the latter. -/
theorem check_outlasts_broken_files_mixed :
    let w := mixedSurroundings
    let overrides : RuleOverrides := { enforceTrailingLine := true }
    let checkOf (paths : List String) : Invocation :=
      { config := some "none", command := .check paths overrides }
    let reports : List FileReport :=
      [⟨"a", [⟨.missingTrailingLine, ⟨0, 9⟩, 1, some ⟨⟨9, 10⟩, "\n\n"⟩⟩]⟩, ⟨"c", []⟩]
    (∀ paths, (checkOf paths).settings w = .ok {}) ∧
      collectFiles w.project [] {} ["c", "b", "a", "c"] = .ok ["a", "b", "c"] ∧
      collectFiles w.project [] {} ["d", "b"] = .ok ["b", "d"] ∧
      collectFiles w.project [] {} ["e", "b"] = .ok ["b", "e"] ∧
      (performCheck {} w {} ["c", "b", "a", "c"] overrides).result =
        .ok ((showReports {} reports).1, (showReports {} reports).2, w.project) ∧
      ((checkOf ["c", "b", "a", "c"]).run w).exit ≠ 0 ∧
      (performCheck {} w {} ["d", "b"] overrides).result =
        .error (.failure (.fileRead "d" "stream did not contain valid UTF-8")) ∧
      (performCheck {} w {} ["e", "b"] overrides).result =
        .error (.failure (.fileRead "e" "Permission denied (os error 13)")) := by
  intro w overrides checkOf reports
  let rule : Rule := { enforceTrailingLine := true }
  have hrule : ruleInUse {} overrides = .ok rule := rfl
  have hsettings : ∀ paths, (checkOf paths).settings w = .ok {} := by
    intro paths
    have hnone : w.project.settingsFile? "none" = none := by decide +kernel
    have henv : environmentDatum [] = .ok (.map []) := environmentDatum_of_forall (by simp)
    have hload : Settings.loadFrom w.project [] "none" = .ok {} := by
      rw [Settings.loadFrom, henv, hnone]
      exact congrArg Halt.ofError (ofLayers_nothing "")
    exact congrArg (Except.mapError _) hload
  have ha : w.lintAlone rule "a" =
      .ok ⟨"a", [⟨.missingTrailingLine, ⟨0, 9⟩, 1, some ⟨⟨9, 10⟩, "\n\n"⟩⟩]⟩ := by
    have htree : w.trees (Dialect.ofPath "a") "import\"a\" b" = some (sampleTree 10 0) := by
      simp [w, mixedSurroundings]
    have hread : readStatements "import\"a\" b" (sampleTree 10 0) =
      .ok [.importDecl ⟨⟨0, 9⟩, 1, 1, none, "a", []⟩, .other "expression_statement" ⟨10, 11⟩ 1 1] :=
        rfl
    have hlint : lintText (parseWith w.trees (Dialect.ofPath "a")) rule (.parse "a")
        "import\"a\" b" = .ok [⟨.missingTrailingLine, ⟨0, 9⟩, 1, some ⟨⟨9, 10⟩, "\n\n"⟩⟩] := by
      rw [lintText, parseWith_of_tree htree, hread]
      decide +kernel
    exact resultOf_lintFile _ (by decide +kernel) hlint _
  have hb : w.lintAlone rule "b" =
      .error (.error (.parse "b" (.syntaxError 1 1 "unexpected input"))) := by decide +kernel
  have hc : w.lintAlone rule "c" = .ok ⟨"c", []⟩ := by decide +kernel
  have hd : w.lintAlone rule "d" =
      .error (.error (.fileRead "d" "stream did not contain valid UTF-8")) := by decide +kernel
  have he : w.lintAlone rule "e" =
      .error (.error (.fileRead "e" "Permission denied (os error 13)")) := by decide +kernel
  have hfine : collectFiles w.project [] {} ["c", "b", "a", "c"] = .ok ["a", "b", "c"] := by
    have hfound : ["c", "b", "a", "c"].mapM (filesUnder w.project [] {}) =
        .ok [["c"], ["b"], ["a"], ["c"]] := by
      decide +kernel
    have hba : comparePathNames "b" "a" = .gt := by decide +kernel
    have hcb : comparePathNames "c" "b" = .gt := by decide +kernel
    have hab : comparePathNames "a" "b" = .lt := by decide +kernel
    have hac : comparePathNames "a" "c" = .lt := by decide +kernel
    have hbc : comparePathNames "b" "c" = .lt := by decide +kernel
    have hcc : comparePathNames "c" "c" = .eq := by decide +kernel
    rw [collectFiles, bind_ok hfound]
    simp [List.mergeSort, dropRepeated, hba, hcb, hab, hac, hbc, hcc, pure, Except.pure]
  have hpair : ∀ file, [file, "b"].mapM (filesUnder w.project [] {}) = .ok [[file], ["b"]] →
      comparePathNames file "b" = .gt → comparePathNames "b" file = .lt →
      collectFiles w.project [] {} [file, "b"] = .ok ["b", file] := by
    intro file hfound hgt hlt
    rw [collectFiles, bind_ok hfound]
    simp [List.mergeSort, dropRepeated, hgt, hlt, pure, Except.pure]
  have hnoText : collectFiles w.project [] {} ["d", "b"] = .ok ["b", "d"] :=
    hpair "d" (by decide +kernel) (by decide +kernel) (by decide +kernel)
  have hlocked : collectFiles w.project [] {} ["e", "b"] = .ok ["b", "e"] :=
    hpair "e" (by decide +kernel) (by decide +kernel) (by decide +kernel)
  refine ⟨hsettings, hfine, hnoText, hlocked, ?_⟩
  have hbroken : ∀ file ∈ ["a", "b", "c"], ∀ halt, w.lintAlone rule file = .error halt →
      halt.isParseError = true := by
    simp [ha, hb, hc, Halt.isParseError]
  have hreports : ["a", "b", "c"].filterMap (fun file => (w.lintAlone rule file).toOption) =
      reports := by
    simp [ha, hb, hc, Except.toOption, reports]
  obtain ⟨-, -, hseveral, -⟩ :=
    check_outlasts_broken_files (i := checkOf ["c", "b", "a", "c"]) rfl (hsettings _) hrule hfine
  obtain ⟨hresult, -, hexit⟩ := (hseveral (by decide)).2.2 hbroken
  rw [hreports] at hresult hexit
  have hfails : ∀ file message, collectFiles w.project [] {} [file, "b"] = .ok ["b", file] →
      w.lintAlone rule file = .error (.error (.fileRead file message)) →
      (performCheck {} w {} [file, "b"] overrides).result =
        .error (.failure (.fileRead file message)) := by
    intro bad message hfiles hbad
    obtain ⟨-, -, hseveral, -⟩ :=
      check_outlasts_broken_files (i := checkOf [bad, "b"]) rfl (hsettings _) hrule hfiles
    obtain ⟨hfails, hfirst, -⟩ := hseveral (Nat.le_refl 2)
    obtain ⟨a, hresult⟩ := hfails.2 ⟨bad, by simp, _, hbad, rfl⟩
    obtain ⟨before, file, after, halt, hsplit, hfile, hhalt, rfl, -⟩ := hfirst a hresult
    have hmem : file ∈ ["b", bad] := hsplit ▸ List.mem_append_right _ List.mem_cons_self
    simp only [List.mem_cons, List.not_mem_nil, or_false] at hmem
    obtain rfl | rfl := hmem
    · obtain rfl := Except.error.inj (hb.symm.trans hfile)
      cases hhalt
    · obtain rfl := Except.error.inj (hbad.symm.trans hfile)
      exact hresult
  refine ⟨hresult, fun h => ?_, hfails "d" _ hnoText hd, hfails "e" _ hlocked he⟩
  exact absurd (hexit.1 h _ List.mem_cons_self) (by decide)

end ImportOrder

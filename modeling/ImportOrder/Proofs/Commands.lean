import ImportOrder.Program
import ImportOrder.Proofs.FileTree
import ImportOrder.Proofs.Sessions
import ImportOrder.Proofs.SettingsData

/-!
# Mending and checking a file from the command line

The command `fix` shows a mended file or writes it back, and `check` reports on it. They
reach the file in different ways, and what they have in common is one plain function:
`Invocation.repair`, what mending the file comes to.

* `run_fix` — both forms of `fix` compute it, and differ only in what they do with it;
* `exists_writeRepair` — writing it back leaves the project as it was but for the text
  of the file;
* `repair_again` — mending what has been mended comes to the same text after no pass, if
  nothing was left over;
* `fix_agrees_with_check` — hence the commands agree.
-/

namespace ImportOrder

/-! ## Linting with a journal -/

section

variable {σ α : Type}

/-- Keeping a journal does not get in the way of the parser. -/
theorem journalHost_switches {load : GrammarLoader} (hload : load.Complete) (trees : TreeSource) :
    (journalHost load trees).Switches (fun j => j.parser.selected) trees where
  selects path j := by
    obtain ⟨next, hnext, hgrammar⟩ := (parserHost_switches hload trees).selects path j.parser
    refine ⟨{ j with parser := next }, ?_, hgrammar⟩
    exact congrArg (Except.map fun p => { j with parser := p }) hnext
  reads d := ⟨fun code j => ((parserHost_switches hload trees).reads d).answer code j.parser,
    fun code j => ((parserHost_switches hload trees).reads d).parsing code j.parser,
    fun _ _ hj => hj⟩

/-- The linter of a project has all grammars at hand. -/
theorem projectLinter_switches (w : Surroundings) (rule : Rule) :
    (projectLinter w rule).host.Switches (fun j => j.parser.selected) w.trees :=
  journalHost_switches (fun _ => rfl) w.trees

variable {w : Surroundings} {file text : String} (rule : Rule)

/-- Mending a file, as a plain function. -/
def Surroundings.repair (w : Surroundings) (rule : Rule) (file : String) :
    Except (Halt Failure) Repair :=
  mendedFile rule w.trees ((w.project.readText file).mapError FileError.message) file

/-- Fixing a file with a journal gives what fixing it without one gives, whatever the
journal holds. -/
theorem resultOf_fixFile (w : Surroundings) (file : String) (j : Journal) :
    resultOf ((projectLinter w rule).fixFile file) j = w.repair rule file :=
  (fixFile_eq (projectLinter_switches w rule) file j).1

/-- Linting a file with a journal reports what linting its text finds. -/
theorem resultOf_lintFile {ds : List Diagnostic} (hread : w.project.readText file = .ok text)
    (hlint : lintText (parseWith w.trees (Dialect.ofPath file)) rule (.parse file) text = .ok ds)
    (j : Journal) :
    resultOf ((projectLinter w rule).lintFile file) j = .ok ⟨file, ds⟩ := by
  have hopened : (projectLinter w rule).read file = .ok text :=
    congrArg (Except.mapError FileError.message) hread
  rw [(lintFile_eq (projectLinter_switches w rule) file j).1, lintedFile, hopened]
  exact bind_ok hlint

/-- A rescue starts in the state that the failed action leaves. -/
theorem resultOf_tryCatch (a : Action σ α) (rescue : Halt Failure → Action σ α) (s : σ) :
    resultOf (tryCatch a rescue) s =
      match resultOf a s with
      | .ok x => .ok x
      | .error halt => resultOf (rescue halt) (stateAfter a s) := by
  have hrun : StateT.run a s = (resultOf a s, stateAfter a s) := rfl
  rw [resultOf]
  simp only [tryCatch, tryCatchThe, MonadExceptOf.tryCatch, ExceptT.tryCatch, ExceptT.run_mk,
    StateT.run_bind]
  rw [hrun]
  cases resultOf a s <;> rfl

/-- A check of one file reports on this file. -/
theorem resultOf_lintFiles {l : Linter σ} {path : String} {s : σ} {report : FileReport}
    (h : resultOf (l.lintFile path) s = .ok report) :
    resultOf (l.lintFiles [path]) s = .ok [report] := by
  have hsome : resultOf (some <$> l.lintFile path) s = .ok (some report) := by
    rw [map_eq_pure_bind, resultOf_bind, bind_ok h]
    rfl
  have hone : resultOf (l.lintOneOf false path) s = .ok (some report) := by
    rw [Linter.lintOneOf, resultOf_tryCatch, hsome]
  rw [Linter.lintFiles, List.length_singleton, Linter.lintEach, resultOf_bind]
  exact bind_ok hone

end

/-! ## Commands on one file -/

/-- What mending a file from the command line comes to. -/
def Invocation.repair (i : Invocation) (w : Surroundings) (file : String)
    (overrides : RuleOverrides) :
    Except Abort Repair := do
  let settings ← i.settings w
  let rule ← ruleInUse settings overrides
  (w.repair rule file).mapError Abort.ofHalt

/-- What is done with a mended file. -/
def finishFix (style : Style) (w : Surroundings) (file : String) (write : Bool) (r : Repair) :
    Except Abort (Output × ExitCode × Project) :=
  if write then writeRepair style w file r
  else .ok ((showRepair style r).1, (showRepair style r).2, w.project)

/-- The code with which a command ends that aborts. -/
def Abort.exit : Abort → Nat
  | .failure cause => cause.exitCode.number
  | .plain _ => ExitCode.generalError.number
  | .fault _ => 101

/-- The codes of commands that gave up are larger than those of commands that came to an
end, so a caller can tell them apart. -/
theorem Abort.one_lt_exit (a : Abort) : 1 < a.exit := by
  cases a with
  | failure cause =>
    rw [Abort.exit]
    fun_cases Failure.exitCode cause <;> decide
  | plain message => exact (by decide : 1 < ExitCode.generalError.number)
  | fault cause => exact (by decide : 1 < 101)

/-- The grammars come with the linter, so there is one wherever there is a rule. -/
theorem linterInUse_eq (settings : Settings) (overrides : RuleOverrides) :
    linterInUse settings overrides = (ruleInUse settings overrides).map fun rule => (rule, {}) := by
  rw [linterInUse]
  cases ruleInUse settings overrides <;> rfl

/-- What is written into the journal has no influence on how a command ends. -/
theorem perform_result {α : Type} (start : Journal) (before : List Event)
    (action : Action Journal α) (finish : α → Except Abort (Output × ExitCode × Project)) :
    (perform start before action finish).result =
      (resultOf action start).mapError Abort.ofHalt >>= finish := by
  rw [perform, resultOf]
  rcases action.run.run start with ⟨_ | _, _⟩ <;> rfl

namespace Performance

variable {p : Performance} (style : Style) (verbose : Bool) (project : Project)

/-- A command that gives up leaves the project as it was. -/
theorem outcome_of_error {a : Abort} (h : p.result = .error a) :
    (p.outcome style verbose project).exit = a.exit ∧
      (p.outcome style verbose project).project = project := by
  rw [outcome, h]
  cases a with
  | failure cause => exact ⟨rfl, rfl⟩
  | plain message => exact ⟨rfl, rfl⟩
  | fault cause => exact ⟨rfl, rfl⟩

/-- A command that comes to an end leaves the code, the output and the project it
arrived at. -/
theorem outcome_of_ok {output : Output} {code : ExitCode} {changed : Project}
    (h : p.result = .ok (output, code, changed)) :
    (p.outcome style verbose project).exit = code.number ∧
      (p.outcome style verbose project).output.stdout = output.stdout ∧
      (p.outcome style verbose project).project = changed := by
  rw [outcome, h]
  exact ⟨rfl, rfl, rfl⟩

end Performance

/-- **Both forms of the command** mend the file in the same way. -/
theorem run_fix {i : Invocation} {file : String} {write : Bool} {overrides : RuleOverrides}
    (hcommand : i.command = .fix file write overrides) (w : Surroundings) :
    ∃ p : Performance, ∃ verbose, i.run w = p.outcome (i.style w.environment) verbose w.project ∧
      p.result = i.repair w file overrides >>= finishFix (i.style w.environment) w file write := by
  rw [Invocation.run, hcommand, Invocation.repair]
  cases i.settings w with
  | error a => exact ⟨.abort a, false, rfl, rfl⟩
  | ok settings =>
    refine ⟨performFix (i.style w.environment) w settings file write overrides, _, rfl, ?_⟩
    rw [performFix, bind_ok rfl, linterInUse_eq]
    cases ruleInUse settings overrides with
    | error a => rfl
    | ok rule =>
      simp only [Except.map, perform_result, resultOf_fixFile]
      rfl

section

variable {i : Invocation} {w : Surroundings} {file : String} {overrides : RuleOverrides}

/-- If a file cannot be repaired, the command gives up and the project stays as it
was. -/
theorem run_fix_of_error {write : Bool} {a : Abort}
    (hcommand : i.command = .fix file write overrides) (h : i.repair w file overrides = .error a) :
    (i.run w).exit = a.exit ∧ (i.run w).project = w.project := by
  obtain ⟨p, verbose, hrun, hresult⟩ := run_fix hcommand w
  rw [hrun]
  refine Performance.outcome_of_error _ _ _ ?_
  rw [hresult, h]
  rfl

/-- If it can be repaired, the command ends with what is made of the repair. -/
theorem run_fix_of_ok {write : Bool} {r : Repair} {output : Output} {code : ExitCode} {q : Project}
    (hcommand : i.command = .fix file write overrides) (h : i.repair w file overrides = .ok r)
    (hfinish : finishFix (i.style w.environment) w file write r = .ok (output, code, q)) :
    (i.run w).exit = code.number ∧ (i.run w).output.stdout = output.stdout ∧
      (i.run w).project = q := by
  obtain ⟨p, verbose, hrun, hresult⟩ := run_fix hcommand w
  rw [hrun]
  refine Performance.outcome_of_ok _ _ _ ?_
  rw [hresult, bind_ok h, hfinish]

/-- What it takes to mend a file. -/
theorem repair_eq_ok {r : Repair} : i.repair w file overrides = .ok r ↔
    ∃ settings rule text, i.settings w = .ok settings ∧ ruleInUse settings overrides = .ok rule ∧
      w.project.readText file = .ok text ∧
      mend (parseWith w.trees (Dialect.ofPath file)) rule (.parse file) maxPasses 0 text =
        .ok r := by
  constructor
  · intro h
    obtain ⟨settings, hsettings, h⟩ := ok_of_bind h
    obtain ⟨rule, hrule, h⟩ := ok_of_bind h
    have hrepair := ok_of_mapError h
    rw [Surroundings.repair] at hrepair
    cases hread : w.project.readText file with
    | error e =>
      rw [hread] at hrepair
      cases hrepair
    | ok text =>
      rw [hread] at hrepair
      exact ⟨settings, rule, text, hsettings, hrule, rfl, hrepair⟩
  · rintro ⟨settings, rule, text, hsettings, hrule, hread, hmend⟩
    rw [Invocation.repair, bind_ok hsettings, bind_ok hrule, Surroundings.repair, hread]
    exact congrArg (Except.mapError Abort.ofHalt) hmend

end

/-! ## Writing back -/

/-- Writing a mended file back leaves a project in which the file has the mended text,
and that is as it was in everything else, also where no pass was needed and nothing is
written. -/
theorem exists_writeRepair {w : Surroundings} {file text : String} {loc : Location} {r : Repair}
    (hfile : w.project.lookup file = .ok (loc, .file (.text text)))
    (hwrite : ∃ q, w.project.writeText file r.output = .ok q)
    (hsame : r.passes = 0 → r.output = text) (style : Style) :
    ∃ q, writeRepair style w file r =
        .ok (showInfo style (writtenNote file r), ExitCode.ofCount r.remaining.length, q) ∧
      w.project.Rewritten loc (.text r.output) q := by
  rw [writeRepair]
  by_cases hpasses : r.passes = 0
  · rw [if_pos hpasses]
    refine ⟨w.project, rfl, ?_⟩
    rw [hsame hpasses]
    exact Project.rewritten_self hfile
  · obtain ⟨q, hq⟩ := hwrite
    rw [if_neg hpasses, hq]
    exact ⟨q, rfl, Project.rewritten_of_writeText hfile hq⟩

/-- Where the settings are taken from. -/
def Invocation.settingsLocation? (i : Invocation) (p : Project) : Option Location :=
  p.settingsLocation? (i.config.getD p.settingsPathInUse)

/-- The file is the one that the settings are taken from. -/
def Invocation.ConfiguredBy (i : Invocation) (p : Project) (file : String) : Prop :=
  ∃ loc, p.locate file = .ok loc ∧ i.settingsLocation? p = some loc

/-- The settings stay the same when another file is written. -/
theorem settings_of_rewritten {w : Surroundings} {q : Project} {loc : Location} {new : Content}
    (h : w.project.Rewritten loc new q) {i : Invocation}
    (hother : i.settingsLocation? w.project ≠ some loc) :
    i.settings { w with project := q } = i.settings w := by
  have hload : ∀ path, w.project.settingsLocation? path ≠ some loc →
      Settings.loadFrom q w.environment path = Settings.loadFrom w.project w.environment path := by
    intro path hpath
    rw [Settings.loadFrom, Settings.loadFrom, h.settingsFile?_eq hpath]
  rw [Invocation.settingsLocation?] at hother
  rw [Invocation.settings, Invocation.settings]
  cases hconfig : i.config with
  | none =>
    rw [hconfig, Option.getD_none] at hother
    simp only [Settings.load, h.settingsPathInUse_eq, hload _ hother]
  | some path =>
    rw [hconfig, Option.getD_some] at hother
    simp only [hload _ hother]

/-! ## The commands agree -/

section

variable {i : Invocation} {w : Surroundings} {file text : String} {overrides : RuleOverrides}

/-- A path that leads to a file stands for this file. -/
theorem collectFiles_file {p : Project} (h : p.isFile file = true) (env : Environment)
    (settings : FileSettings) :
    collectFiles p env settings [file] = .ok [file] := by
  have hunder : filesUnder p env settings file = .ok [file] := by
    rw [filesUnder, if_pos h]
  have hfound : [file].mapM (filesUnder p env settings) = .ok [[file]] := by
    rw [List.mapM_cons, bind_ok hunder]
    rfl
  rw [collectFiles, bind_ok hfound, List.flatten_singleton, List.mergeSort_singleton, dropRepeated]
  · rfl
  · intro _ _ _ h
    cases h

/-- A file in which nothing is found passes the check. -/
theorem run_check_of_silent {settings : Settings} {rule : Rule}
    (hcommand : i.command = .check [file] overrides) (hsettings : i.settings w = .ok settings)
    (hrule : ruleInUse settings overrides = .ok rule) (hread : w.project.readText file = .ok text)
    (hlint : lintText (parseWith w.trees (Dialect.ofPath file)) rule (.parse file) text = .ok []) :
    (i.run w).exit = 0 := by
  have hfile : w.project.isFile file = true := by
    obtain ⟨loc, hloc⟩ := Project.readText_eq_ok.1 hread
    exact Project.isFile_iff.2 ⟨loc, _, hloc⟩
  have hreports := resultOf_lintFiles (resultOf_lintFile rule hread hlint {})
  have hresult : (performCheck (i.style w.environment) w settings [file] overrides).result =
      .ok ((showReports (i.style w.environment) [⟨file, []⟩]).1, .success, w.project) := by
    rw [performCheck, linterInUse_eq, hrule]
    simp only [Except.map, collectFiles_file hfile, perform_result, hreports]
    rfl
  rw [Invocation.run, hcommand, hsettings]
  exact (Performance.outcome_of_ok _ _ _ hresult).1

/-- **A mended file stays as it is** in a project where it has been written back, if
nothing is wrong with it any more: the settings and the rule are the same, nothing is
found in its text, and mending it again takes no pass. -/
theorem repair_again {r : Repair} {q : Project} {loc : Location} {n : Node}
    (hrepair : i.repair w file overrides = .ok r) (hclean : r.remaining = [])
    (hfile : w.project.lookup file = .ok (loc, n)) (hq : w.project.Rewritten loc (.text r.output) q)
    (hother : i.settingsLocation? w.project ≠ some loc) :
    ∃ settings rule, i.settings { w with project := q } = .ok settings ∧
      ruleInUse settings overrides = .ok rule ∧
      q.readText file = .ok r.output ∧
      lintText (parseWith w.trees (Dialect.ofPath file)) rule (.parse file) r.output = .ok [] ∧
      i.repair { w with project := q } file overrides = .ok ⟨r.output, 0, []⟩ := by
  obtain ⟨settings, rule, text, hsettings, hrule, -, hmend⟩ := repair_eq_ok.1 hrepair
  have hlint := (mend_eq_ok hmend).1
  rw [hclean] at hlint
  have hsettings' := (settings_of_rewritten hq hother).trans hsettings
  have hread := hq.readText_eq hfile
  refine ⟨settings, rule, hsettings', hrule, hread, hlint, ?_⟩
  exact repair_eq_ok.2 ⟨settings, rule, r.output, hsettings', hrule, hread,
    mend_of_silent hlint maxPasses 0⟩

end

/-- The code is zero exactly if nothing was found. -/
theorem ExitCode.number_ofCount (n : Nat) :
    (ExitCode.ofCount n).number = if n = 0 then 0 else 1 := by
  rw [ExitCode.ofCount]
  split <;> rfl

/-- **Showing, writing and checking agree.** Let a file that can be read be one that can
be written, and let it not be the file from which the settings are taken. Then `fix`
ends with the same code whether it shows the mended file or writes it back. If it
succeeds, the file written back holds the text that is shown, and nothing else has
changed; if it fails, nothing has changed at all. If it leaves nothing to complain
about, neither does `check` of the file written back, and writing it back once more
changes nothing. -/
theorem fix_agrees_with_check (i : Invocation) (w : Surroundings) (file : String)
    (overrides : RuleOverrides)
    (hwrite : ∀ text, w.project.readText file = .ok text →
      ∀ new, ∃ q, w.project.writeText file new = .ok q)
    (hother : ¬ i.ConfiguredBy w.project file) :
    let shown : Invocation := { i with json := false, command := .fix file false overrides }
    let written : Invocation := { i with command := .fix file true overrides }
    let checked : Invocation := { i with command := .check [file] overrides }
    let w' : Surroundings := { w with project := (written.run w).project }
    (written.run w).exit = (shown.run w).exit ∧ (shown.run w).project = w.project ∧
      ((written.run w).exit ≤ 1 →
        w'.project.readText file = .ok (shown.run w).output.stdout ∧
          w'.project.cwd = w.project.cwd ∧
          ∀ loc, w.project.locate file ≠ .ok loc → w'.project.node? loc = w.project.node? loc) ∧
      (1 < (written.run w).exit → w'.project = w.project) ∧
      ((written.run w).exit = 0 →
        (checked.run w').exit = 0 ∧ (written.run w').exit = 0 ∧
          (written.run w').project = w'.project) := by
  intro shown written checked w'
  cases hrepair : i.repair w file overrides with
  | error a =>
    -- both forms abort alike, before anything is written, and with a code that no success has
    obtain ⟨hexit, hproject⟩ := run_fix_of_error (i := written) rfl hrepair
    obtain ⟨hexit', hproject'⟩ := run_fix_of_error (i := shown) rfl hrepair
    have hfails := a.one_lt_exit
    exact ⟨hexit.trans hexit'.symm, hproject', fun h => by omega, fun _ => hproject,
      fun h => by omega⟩
  | ok r =>
    obtain ⟨settings, rule, text, -, -, hread, hmend⟩ := repair_eq_ok.1 hrepair
    obtain ⟨loc, hfile⟩ := Project.readText_eq_ok.1 hread
    have hlocate := (Project.lookup_eq_ok hfile).1
    obtain ⟨q, hsaved, hq⟩ :=
      exists_writeRepair hfile (hwrite text hread r.output) (mend_eq_ok hmend).2.2
      (written.style w.environment)
    obtain ⟨hexit, -, hproject⟩ := run_fix_of_ok (i := written) rfl hrepair hsaved
    obtain ⟨hexit', hstdout, hproject'⟩ := run_fix_of_ok (i := shown) rfl hrepair rfl
    rw [ExitCode.number_ofCount] at hexit
    have hw' : w' = { w with project := q } := congrArg (fun p => { w with project := p }) hproject
    refine ⟨hexit.trans (hexit'.trans (ExitCode.number_ofCount _)).symm, hproject', fun _ => ?_,
      fun h => ?_, fun h => ?_⟩
    · rw [hw', hstdout]
      refine ⟨hq.readText_eq hfile, hq.cwd_eq, fun l hl => hq.elsewhere l ?_⟩
      rintro rfl
      exact hl hlocate
    · rw [hexit] at h
      split at h <;> omega
    · have hclean : r.remaining = [] := by
        rw [hexit] at h
        by_contra hne
        rw [if_neg fun hlen => hne (List.length_eq_zero_iff.1 hlen)] at h
        cases h
      -- what was written is read with the same settings, and there is nothing to be found in it
      have hother' : i.settingsLocation? w.project ≠ some loc :=
        fun hloc => hother ⟨loc, hlocate, hloc⟩
      obtain ⟨settings, rule, hsettings, hrule, hread', hlint, hagain⟩ :=
        repair_again hrepair hclean hfile hq hother'
      rw [hw']
      obtain ⟨hexit₂, -, hproject₂⟩ := run_fix_of_ok (i := written) rfl hagain rfl
      exact ⟨run_check_of_silent (i := checked) rfl hsettings hrule hread' hlint, hexit₂, hproject₂⟩

/-- Where there is a tree, parsing is reading its statements. -/
theorem parseWith_of_tree {trees : TreeSource} {grammar : Dialect} {code : String}
    {root : SyntaxNode} (h : trees grammar code = some root) :
    parseWith trees grammar code = readStatements code root := by
  rw [parseWith, h]

/-- A tree of an import for its side effects, `import"a"`, and a statement of one
letter, which starts at an offset and a row. -/
def sampleTree (start row : Nat) : SyntaxNode :=
  let keyword : SyntaxNode :=
    { kind := "import", span := ⟨0, 6⟩, startRow := 0, startColumn := 0, endRow := 0,
      named := false }
  let source : SyntaxNode :=
    { kind := "string", span := ⟨6, 9⟩, startRow := 0, startColumn := 6, endRow := 0,
      role := some "source" }
  let first : SyntaxNode := { keyword with
    kind := "import_statement", span := ⟨0, 9⟩, named := true, children := [keyword, source] }
  let last : SyntaxNode := { keyword with
    kind := "expression_statement", span := ⟨start, start + 1⟩, startRow := row, endRow := row,
    named := true }
  { keyword with
    kind := "program", span := ⟨0, start + 1⟩, endRow := row, named := true,
    children := [first, last] }

/-- A file `m` in which a blank line may be missing, and an empty settings file `c`. -/
def sampleSurroundings : Surroundings where
  project := { nodes := [(["m"], .file (.text "import\"a\" b")), (["c"], .file (.text ""))] }
  trees :=
    fun _ text => if text = "import\"a\" b" then some (sampleTree 10 0) else some (sampleTree 11 2)

/-- The blank line is asked for on the command line, and one pass adds it. -/
theorem fix_agrees_with_check_blank_line :
    let w := sampleSurroundings
    let i : Invocation := { config := some "c", command := .config }
    let overrides : RuleOverrides := { enforceTrailingLine := true }
    let written : Invocation := { i with command := .fix "m" true overrides }
    let checked : Invocation := { i with command := .check ["m"] overrides }
    let w' : Surroundings := { w with project := (written.run w).project }
    (∀ text, w.project.readText "m" = .ok text → ∀ new, ∃ q, w.project.writeText "m" new = .ok q) ∧
      ¬ i.ConfiguredBy w.project "m" ∧ (written.run w).exit = 0 ∧
      w'.project.readText "m" = .ok "import\"a\"\n\nb" ∧
      w'.project.node? ["c"] = some (.file (.text "")) ∧
      (checked.run w').exit = 0 := by
  intro w i overrides written checked w'
  have hlocate : w.project.locate "m" = .ok ["m"] := by decide +kernel
  have hwrite : ∀ text, w.project.readText "m" = .ok text →
      ∀ new, ∃ q, w.project.writeText "m" new = .ok q := by
    intro text _ new
    have hfree :
        (!Project.endsWithName "m" || endsWithSlash "m" || w.project.hasDirectory ["m"]) =
          false := by
      decide +kernel
    refine ⟨w.project.put ["m"] (.file (.text new)), ?_⟩
    have hnode : w.project.node? ["m"] = some (.file (.text "import\"a\" b")) := by decide +kernel
    simp only [Project.writeText, bind_ok hlocate, hfree, Bool.false_eq_true, if_false, hnode]
  have hplace : i.settingsLocation? w.project = some ["c"] := by decide +kernel
  have hother : ¬ i.ConfiguredBy w.project "m" := by
    rintro ⟨loc, hloc, hsettings⟩
    obtain rfl := Except.ok.inj (hlocate.symm.trans hloc)
    exact absurd (hplace.symm.trans hsettings) (by decide)
  have hsettings : i.settings w = .ok {} := by
    have hfile : w.project.settingsFile? "c" = some ⟨.ok "", "c"⟩ := rfl
    have hdatum : SettingsFile.datum ⟨.ok "", "c"⟩ = .ok (.map []) := rfl
    have henv : environmentDatum [] = .ok (.map []) := environmentDatum_of_forall (by simp)
    have hload : Settings.loadFrom w.project [] "c" = .ok {} := by
      rw [Settings.loadFrom, henv, hfile]
      simp only [hdatum]
      exact congrArg Halt.ofError (ofLayers_nothing "c")
    exact congrArg (Except.mapError _) hload
  have hrepair : i.repair w "m" overrides = .ok ⟨"import\"a\"\n\nb", 1, []⟩ := by
    have hread : w.project.readText "m" = .ok "import\"a\" b" := by decide +kernel
    have hfound :
        lintText (parseWith w.trees (Dialect.ofPath "m")) { enforceTrailingLine := true }
          (.parse "m") "import\"a\" b" =
            .ok [⟨.missingTrailingLine, ⟨0, 9⟩, 1, some ⟨⟨9, 10⟩, "\n\n"⟩⟩] := by
      have hbefore : readStatements "import\"a\" b" (sampleTree 10 0) =
          .ok [.importDecl ⟨⟨0, 9⟩, 1, 1, none, "a", []⟩,
            .other "expression_statement" ⟨10, 11⟩ 1 1] := rfl
      have htree : w.trees (Dialect.ofPath "m") "import\"a\" b" = some (sampleTree 10 0) := by
        simp [w, sampleSurroundings]
      rw [lintText, parseWith_of_tree htree, hbefore]
      decide +kernel
    have hsilent :
        lintText (parseWith w.trees (Dialect.ofPath "m")) { enforceTrailingLine := true }
          (.parse "m") "import\"a\"\n\nb" = .ok [] := by
      have hafter : readStatements "import\"a\"\n\nb" (sampleTree 11 2) =
          .ok [.importDecl ⟨⟨0, 9⟩, 1, 1, none, "a", []⟩,
            .other "expression_statement" ⟨11, 12⟩ 3 3] := rfl
      have htree : w.trees (Dialect.ofPath "m") "import\"a\"\n\nb" = some (sampleTree 11 2) := by
        simp [w, sampleSurroundings]
      rw [lintText, parseWith_of_tree htree, hafter]
      decide +kernel
    have happly : Fix.applyAll "import\"a\" b" [⟨⟨9, 10⟩, "\n\n"⟩] = .ok "import\"a\"\n\nb" := by
      decide +kernel
    refine repair_eq_ok.2 ⟨{}, _, _, hsettings, rfl, hread, ?_⟩
    exact (mend_of_lint 0 hfound (by decide) happly).trans (mend_of_silent hsilent 9 1)
  obtain ⟨hsame, -, hsuccess, -, hclean⟩ := fix_agrees_with_check i w "m" overrides hwrite hother
  obtain ⟨hshown, hstdout, -⟩ :=
    run_fix_of_ok (i := { i with command := .fix "m" false overrides }) rfl hrepair rfl
  have hexit : (written.run w).exit = 0 := hsame.trans hshown
  obtain ⟨hread, -, helsewhere⟩ := hsuccess (hexit ▸ Nat.zero_le 1)
  refine ⟨hwrite, hother, hexit, hread.trans (congrArg _ hstdout), helsewhere ["c"] ?_,
    (hclean hexit).1⟩
  rw [hlocate]
  decide

end ImportOrder

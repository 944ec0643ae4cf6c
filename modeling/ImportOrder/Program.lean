import ImportOrder.Command
import ImportOrder.Log
import ImportOrder.Project.Walk
import ImportOrder.Report

/-!
# The program

`runProgram` is the whole program as a function: from its arguments and its surroundings
(the files, the environment, and what the grammars make of texts) to what it writes, its
exit code, and the files as it leaves them. The commands are

* `init` — write the settings file of a new project;
* `config` — show the settings;
* `check` — report the problems of files; a file that cannot be parsed is left out if
  there are others;
* `fix` — mend a file and show it, or write it back.
-/

namespace ImportOrder

/-- What a run of the program finds. -/
structure Surroundings where
  /-- the files and the working directory -/
  project : Project
  /-- the variables of the process -/
  environment : Environment := []
  /-- what the grammars make of texts -/
  trees : TreeSource

/-- What a run of the program leaves. -/
structure Outcome where
  /-- what was written to the two streams -/
  output : Output := {}
  /-- the exit code -/
  exit : Nat := 0
  /-- the files -/
  project : Project

/-- Why a command ends without a result. -/
inductive Abort where
  /-- for a reason that is reported in the chosen format -/
  | failure (cause : Failure)
  /-- for a reason that is reported as text -/
  | plain (message : String)
  /-- because a computation had no value -/
  | fault (cause : Fault)
deriving DecidableEq, Repr

/-! ## Linting with a log -/

/-- A parser and what has been told so far, last first. -/
structure Journal where
  /-- the parser; a new one also reads plain scripts -/
  parser : Parser := .of .tsx
  /-- the events, last first -/
  events : List Event := []
deriving DecidableEq, Repr

/-- The host that keeps a journal. -/
def journalHost (load : GrammarLoader) (trees : TreeSource) : Host Journal where
  select path j :=
    ((parserHost load trees).select path j.parser).map fun p => { j with parser := p }
  parse code j :=
    let (result, p) := (parserHost load trees).parse code j.parser
    (result, { j with parser := p })
  language j := (parserHost load trees).language j.parser
  hear event j := { j with events := event :: j.events }

/-- A new journal, if its parser can be had. -/
def Journal.new (load : GrammarLoader) : Except ParseError Journal :=
  (Parser.withDialect load .tsx).map fun p => { parser := p }

/-- A linter for the files of a project. -/
def projectLinter (w : Surroundings) (rule : Rule) : Linter Journal where
  rule := rule
  host := journalHost builtInGrammars w.trees
  read path := (w.project.readText path).mapError FileError.message

variable {σ : Type}

/-- The report on one of several files: one that cannot be parsed is left out. -/
def Linter.lintOneOf (l : Linter σ) (several : Bool) (path : String) :
    Action σ (Option FileReport) :=
  tryCatch (some <$> l.lintFile path) fun
    | .error (.parse broken cause) =>
      if several then do
        l.tell (.skippingFile path (.parse broken cause))
        return none
      else throw (.error (.parse broken cause))
    | halt => throw halt

/-- The reports on files, in their order. -/
def Linter.lintEach (l : Linter σ) (several : Bool) : List String → Action σ (List FileReport)
  | [] => return []
  | path :: rest => do
    let report ← l.lintOneOf several path
    let others ← l.lintEach several rest
    return report.toList ++ others

/-- The reports on all files of a check. -/
def Linter.lintFiles (l : Linter σ) (files : List String) : Action σ (List FileReport) :=
  l.lintEach (files.length > 1) files

/-! ## Commands -/

/-- A variable asks for colours where no terminal is. -/
def Environment.forcesColors (env : Environment) : Bool :=
  (env.lookup "CLICOLOR_FORCE").any (· != "0")

/-- How results are shown. -/
def Invocation.style (i : Invocation) (env : Environment) : Style where
  format := if i.json then .json else .text
  colors := env.forcesColors

/-- The settings in use. -/
def Invocation.settings (i : Invocation) (w : Surroundings) : Except Abort Settings :=
  let loaded := match i.config with
    | some path => Settings.loadFrom w.project w.environment path
    | none => Settings.load w.project w.environment
  loaded.mapError fun
    | .fault cause => .fault cause
    | .error e => .failure (.config e.message)

/-- The rule in use. -/
def ruleInUse (settings : Settings) (overrides : RuleOverrides) : Except Abort Rule :=
  (Rule.ofOptions (overrides.apply settings.rule)).mapError fun e => .failure (.rule e)

/-- The rule in use and a new journal for the linter that checks it. -/
def linterInUse (settings : Settings) (overrides : RuleOverrides) :
    Except Abort (Rule × Journal) := do
  let rule ← ruleInUse settings overrides
  let journal ← (Journal.new builtInGrammars).mapError fun e => .failure (.source e)
  return (rule, journal)

/-- What a command does: it writes events to a log and ends with output and an exit
code, or aborts. -/
structure Performance where
  /-- the events, in order -/
  events : List Event := []
  /-- the output, the exit code and the files, or why there are none -/
  result : Except Abort (Output × ExitCode × Project)

/-- A command that aborts before it tells anything. -/
def Performance.abort (a : Abort) : Performance := { result := .error a }

/-- The reason for which an action ended early. -/
def Abort.ofHalt : Halt Failure → Abort
  | .fault cause => .fault cause
  | .error cause => .failure cause

/-- An action of the linter as the rest of a command. -/
def perform {α : Type} (start : Journal) (before : List Event) (action : Action Journal α)
    (finish : α → Except Abort (Output × ExitCode × Project)) : Performance :=
  let (result, journal) := action.run.run start
  { events := before ++ journal.events.reverse
    result := match result with
      | .ok a => finish a
      | .error halt => .error (Abort.ofHalt halt) }

/-- Write the settings file of a new project. -/
def performInit (style : Style) (w : Surroundings) (force : Bool) : Performance where
  result := match initSettings w.project settingsPath force with
    | (.error e, _) => .error (.plain e.message)
    | (.ok (), project) =>
      .ok (showInfo style s!"Created configuration file at: {settingsPath}", .success, project)

/-- Show the settings. -/
def performConfig (style : Style) (w : Surroundings) (settings : Settings) : Performance where
  result :=
    let (output, code) := showValue style settings.display settings.datum
    .ok (output, code, w.project)

/-- Report the problems of files. -/
def performCheck (style : Style) (w : Surroundings) (settings : Settings) (paths : List String)
    (overrides : RuleOverrides) : Performance :=
  match linterInUse settings overrides with
  | .error a => .abort a
  | .ok (rule, journal) =>
    match collectFiles w.project w.environment settings.files paths with
    | .error e => { events := [.ruleConfigured rule], result := .error (.plain e.message) }
    | .ok files =>
      perform journal [.ruleConfigured rule, .checkingFiles files.length]
        ((projectLinter w rule).lintFiles files) fun reports =>
          let (output, code) := showReports style reports
          .ok (output, code, w.project)

/-- What is said about a file that has been written back. -/
def writtenNote (file : String) (repair : Repair) : String :=
  s!"Fixed {file} in {repair.passes} pass(es), {repair.remaining.length} problem(s) left"

/-- Write a mended file back. A file that no pass has changed is not written. -/
def writeRepair (style : Style) (w : Surroundings) (file : String) (repair : Repair) :
    Except Abort (Output × ExitCode × Project) := do
  let project ← if repair.passes = 0 then .ok w.project
    else (w.project.writeText file repair.output).mapError fun e =>
      .plain s!"failed to write '{file}': {e.message}"
  return (showInfo style (writtenNote file repair), ExitCode.ofCount repair.remaining.length,
    project)

/-- Mend a file. -/
def performFix (style : Style) (w : Surroundings) (settings : Settings) (file : String)
    (write : Bool) (overrides : RuleOverrides) : Performance :=
  match linterInUse settings overrides with
  | .error a => .abort a
  | .ok (rule, journal) =>
    perform journal [.ruleConfigured rule] ((projectLinter w rule).fixFile file) fun repair =>
      if write then writeRepair style w file repair
      else
        let (output, code) := showRepair style repair
        .ok (output, code, w.project)

/-- Show how a command ended. -/
def Performance.outcome (p : Performance) (style : Style) (verbose : Bool) (project : Project) :
    Outcome :=
  let log := logText verbose p.events
  match p.result with
  | .ok (output, code, changed) =>
    { output := { output with stderr := log ++ output.stderr },
      exit := code.number, project := changed }
  | .error (.failure cause) =>
    let (output, code) := showFailure style cause
    { output := { output with stderr := log ++ output.stderr },
      exit := code.number, project := project }
  | .error (.plain message) =>
    { output := { stderr := log ++ line s!"Error: {message}" }, exit := ExitCode.generalError.number
      project := project }
  | .error (.fault _) =>
    { output := { stderr := log ++ line "the program stopped unexpectedly" }, exit := 101
      project := project }

/-- Run a command. -/
def Invocation.run (i : Invocation) (w : Surroundings) : Outcome :=
  let style := i.style w.environment
  match i.command with
  | .init force => (performInit style w force).outcome style i.debug w.project
  | command =>
    match i.settings w with
    | .error a => (Performance.abort a).outcome style false w.project
    | .ok settings =>
      let performance := match command with
        | .check paths overrides => performCheck style w settings paths overrides
        | .fix file write overrides => performFix style w settings file write overrides
        | .init _ | .config => performConfig style w settings
      performance.outcome style (i.debug || settings.debug) w.project

/-- How the program is used. -/
def usageText : String :=
"Check and fix the order of import declarations

Usage: importsort [OPTIONS] <COMMAND>

Commands:
  init    Set up .importsort directory with default configuration
  check   Report import order violations
  fix     Print the fixed source of a file, or rewrite it with --write
  config  Display active settings
  help    Print this message or the help of the given subcommand(s)
"

/-- The version of the program. -/
def versionText : String := "importsort 0.3.0\n"

/-- Run the program. -/
def runProgram (w : Surroundings) (arguments : List String) : Outcome :=
  match readArguments arguments with
  | .error e =>
    let hint := emphasized "--help"
    let complaint := s!"error: {e.message}\n\nFor more information, try '{hint}'.\n"
    { output := { stderr := withoutControls complaint }, exit := 2, project := w.project }
  | .ok .version => { output := { stdout := versionText }, project := w.project }
  | .ok (.help missing) =>
    if missing then { output := { stderr := usageText }, exit := 2, project := w.project }
    else { output := { stdout := usageText }, project := w.project }
  | .ok (.run i) => i.run w

end ImportOrder

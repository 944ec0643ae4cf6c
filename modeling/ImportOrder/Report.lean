import ImportOrder.Linter
import ImportOrder.Datum.JsonWriter

/-!
# Reports

What the user sees of a result. Every result comes in two formats:

* as text: problems on standard output, one to a line, a summary on standard error;
* as JSON: a *response* with a status, a code, a message and the data, in a fixed order
  of keys.

`Output` collects what has been written to the two streams.
-/

namespace ImportOrder

/-- How results are shown. -/
inductive Format where
  /-- lines for people -/
  | text
  /-- a document for tools -/
  | json
deriving DecidableEq, Repr

/-- What is written to the two streams. -/
structure Output where
  /-- standard output -/
  stdout : String := ""
  /-- standard error -/
  stderr : String := ""
deriving DecidableEq, Repr

/-- How a result is shown: its format, and whether text is coloured. -/
structure Style where
  /-- text or JSON -/
  format : Format := .text
  /-- text may be bold or red -/
  colors : Bool := false
deriving DecidableEq, Repr

namespace Style

/-- A text between the escape sequences that switch a rendition on and off. -/
def rendition (s : Style) (number : Nat) (text : String) : String :=
  if s.colors then s!"\x1b[{number}m{text}\x1b[0m" else text

/-- Bold text. -/
def bold (s : Style) (text : String) : String := s.rendition 1 text

/-- Red text. -/
def red (s : Style) (text : String) : String := s.rendition 31 text

end Style

/-! ## Results as data -/

/-- A span as data. -/
def Span.datum (s : Span) : Datum := .map [("start", .int s.start), ("end", .int s.stop)]

/-- A fix as data. -/
def Fix.datum (f : Fix) : Datum :=
  .map [("range", f.span.datum), ("replacement", .str f.replacement)]

/-- The name of a violation in data. -/
def Violation.name : Violation → String
  | .wrongCategory => "wrong_category"
  | .wrongPath => "wrong_path"
  | .missingBlankLine => "missing_blank_line"

/-- A problem as data. -/
def Problem.datum : Problem → Datum
  | .importOrder cause => .map [("type", .str "import_order"), ("cause", .str cause.name)]
  | .misplacedImport => .map [("type", .str "misplaced_import")]
  | .missingTrailingLine => .map [("type", .str "missing_trailing_line")]
  | .specifierOrder => .map [("type", .str "specifier_order")]

/-- A diagnostic as data; without a fix there is no entry for it. -/
def Diagnostic.datum (d : Diagnostic) : Datum :=
  .map ([("kind", d.problem.datum), ("anchor", d.anchor.datum), ("line", .int d.line),
    ("message", .str d.message)] ++
    (match d.fix with
    | some f => [("fix", f.datum)]
    | none => []))

/-- Diagnostics as data. -/
def diagnosticsDatum (ds : List Diagnostic) : Datum := .list (ds.map (·.datum))

/-- The report on a file as data. -/
def FileReport.datum (r : FileReport) : Datum :=
  .map [("path", .str r.path), ("diagnostics", diagnosticsDatum r.diagnostics)]

/-- A mended text as data. -/
def Repair.datum (r : Repair) : Datum :=
  .map [("output", .str r.output), ("passes", .int r.passes),
    ("remaining", diagnosticsDatum r.remaining)]

/-! ## Responses -/

/-- The response that reports success. -/
def successResponse (data : Datum) : Datum :=
  .map [("status", .str "success"), ("code", .str "OK"),
    ("message", .str "Operation completed successfully"), ("data", data),
    ("exit_code", .int ExitCode.success.number)]

/-- The response that reports problems. -/
def violationsResponse (data : Datum) (count : Nat) : Datum :=
  .map [("status", .str "violations"), ("code", .str "VIOLATIONS"),
    ("message", .str s!"{count} problem(s) found"), ("data", data),
    ("exit_code", .int ExitCode.violationsFound.number)]

/-- The response that reports a failure. -/
def Failure.response (f : Failure) : Datum :=
  .map [("status", .str "error"), ("code", .str f.code), ("message", .str f.message),
    ("error", .map [("suggestions", .list (f.suggestions.map .str))]),
    ("exit_code", .int f.exitCode.number)]

/-- Success or problems, depending on their number. -/
def countedResponse (data : Datum) (count : Nat) : Datum :=
  if count = 0 then successResponse data else violationsResponse data count

/-! ## Output -/

/-- A line of text. -/
def line (text : String) : String := text ++ "\n"

/-- The line for one problem. -/
def diagnosticLine (s : Style) (path : String) (d : Diagnostic) : String :=
  let fixable := if d.fix.isSome then " (fixable)" else ""
  line s!"{s.bold path}:{d.line}: {d.message}{fixable}"

/-- Show the reports on checked files. -/
def showReports (s : Style) (reports : List FileReport) : Output × ExitCode :=
  let count := (reports.flatMap (·.diagnostics)).length
  let output : Output := match s.format with
    | .json => { stdout := line (countedResponse (.list (reports.map (·.datum))) count).prettyJson }
    | .text =>
      let problems := s!"{count} problem(s)"
      let dirty := (reports.filter (!·.isClean)).length
      { stdout := String.join (reports.flatMap fun r => r.diagnostics.map (diagnosticLine s r.path))
        stderr := line (if count = 0 then s!"Checked {reports.length} file(s), no problems"
          else s!"{s.red problems} in {dirty} file(s)") }
  (output, ExitCode.ofCount count)

/-- Show a mended text. -/
def showRepair (s : Style) (r : Repair) : Output × ExitCode :=
  let count := r.remaining.length
  let output : Output := match s.format with
    | .json => { stdout := line (countedResponse r.datum count).prettyJson }
    | .text =>
      { stdout := r.output
        stderr :=
          String.join (r.remaining.map fun d => line s!"line {d.line}: {d.message} (not fixed)") }
  (output, ExitCode.ofCount count)

/-- Show a failure. -/
def showFailure (s : Style) (f : Failure) : Output × ExitCode :=
  let output : Output := match s.format with
    | .json => { stderr := line f.response.prettyJson }
    | .text =>
      { stderr := line s!"Error: {f.message}" ++
          String.join (f.suggestions.map fun hint => line s!"  Suggestion: {hint}") }
  (output, f.exitCode)

/-- Show a value that has a text form and a data form. -/
def showValue (s : Style) (text : String) (data : Datum) : Output × ExitCode :=
  let output : Output := match s.format with
    | .json => { stdout := line (successResponse data).prettyJson }
    | .text => { stdout := line text }
  (output, .success)

/-- A remark for people. -/
def showInfo (s : Style) (message : String) : Output :=
  match s.format with
  | .json => {}
  | .text => { stderr := line message }

end ImportOrder

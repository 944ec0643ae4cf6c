import ImportOrder.Category
import ImportOrder.Fix

/-!
# Failures

Whatever can go wrong for a foreseen reason while texts and files are checked or mended,
together with what a user is told: a message, a stable code, suggestions, and the code
with which the program exits.
-/

namespace ImportOrder

/-- Why a text could not be read as a list of statements. -/
inductive ParseError where
  /-- the reader of a language could not be set up -/
  | parserInit (language reason : String)
  /-- the text breaks the grammar at a place; lines and columns count from one -/
  | syntaxError (line column : Nat) (reason : String)
deriving DecidableEq, Repr

/-- The text shown to the user. -/
def ParseError.message : ParseError → String
  | .parserInit language reason => s!"Failed to initialize {language} parser: {reason}"
  | .syntaxError line column reason =>
    s!"Failed to parse code at line {line}, column {column}: {reason}"

/-- A foreseen failure. -/
inductive Failure where
  /-- a file could not be read -/
  | fileRead (path cause : String)
  /-- a file is not a valid source -/
  | parse (path : String) (cause : ParseError)
  /-- a text that belongs to no file is not a valid source -/
  | source (cause : ParseError)
  /-- the rule rejected a request -/
  | rule (cause : RuleError)
  /-- the settings make no sense -/
  | config (reason : String)
  /-- two fixes overlap -/
  | fixConflict (cause : Conflict)
deriving DecidableEq, Repr

/-- With what the program ends. -/
inductive ExitCode where
  /-- everything is in order -/
  | success
  /-- problems were reported -/
  | violationsFound
  /-- something failed -/
  | generalError
  /-- a source could not be parsed -/
  | parseError
  /-- a file could not be read -/
  | ioError
  /-- the settings make no sense -/
  | configError
deriving DecidableEq, Repr

namespace ExitCode

/-- The number that the shell sees. -/
def number : ExitCode → Nat
  | .success => 0
  | .violationsFound => 1
  | .generalError => 2
  | .parseError => 4
  | .ioError => 5
  | .configError => 6

/-- The code in words. -/
def description : ExitCode → String
  | .success => "Success"
  | .violationsFound => "Violations found"
  | .generalError => "General error"
  | .parseError => "Parse error"
  | .ioError => "I/O error"
  | .configError => "Configuration error"

/-- The code after a check that found a number of problems. -/
def ofCount (problems : Nat) : ExitCode := if problems = 0 then .success else .violationsFound

/-- Everything is in order. -/
def isSuccess (c : ExitCode) : Bool := c == .success

end ExitCode

namespace Failure

/-- The text shown to the user. -/
def message : Failure → String
  | .fileRead path cause => s!"Failed to read file '{path}': {cause}"
  | .parse path cause => s!"Failed to parse '{path}': {cause.message}"
  | .source cause => cause.message
  | .rule cause => cause.message
  | .config reason => s!"Invalid configuration: {reason}"
  | .fixConflict c => s!"Fix at {c.first} overlaps fix at {c.second}"

/-- The stable name of the kind of failure. -/
def code : Failure → String
  | .fileRead .. => "FILE_READ_ERROR"
  | .parse .. | .source _ => "PARSE_ERROR"
  | .rule (.invalidNodeKind _) => "INVALID_NODE_KIND"
  | .rule (.configuration _) | .config _ => "CONFIG_ERROR"
  | .fixConflict _ => "FIX_CONFLICT"

/-- What the user may try. -/
def suggestions : Failure → List String
  | .fileRead .. => [
      "Check that the file exists and you have read permissions",
      "Ensure the file is not locked by another process"]
  | .parse .. | .source _ => [
      "Fix the syntax error first, fixes are never computed on a broken file"]
  | .rule (.configuration _) | .config _ => [
      "sort_order must list each of \"type\", \"named\" and \"unnamed\" exactly once",
      "Run 'importsort config' to see the active settings"]
  | .rule (.invalidNodeKind _) | .fixConflict _ => []

/-- With what the program ends. -/
def exitCode : Failure → ExitCode
  | .parse .. | .source _ => .parseError
  | .fileRead .. => .ioError
  | .config _ | .rule (.configuration _) => .configError
  | .rule (.invalidNodeKind _) | .fixConflict _ => .generalError

end Failure

end ImportOrder

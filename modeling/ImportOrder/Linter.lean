import ImportOrder.Check
import ImportOrder.Dialect
import ImportOrder.Event
import ImportOrder.SourceModule

/-!
# The linter

A linter checks and mends texts and files. It works with a *host*, which reads texts
into statements, switches to the grammar that a file asks for, and listens to progress.
The host has a state of some type, and the state lives on from one action to the next,
also when an action fails: a file that could be read leaves its grammar selected,
whatever happened afterwards.

* `lintSource`, `lintFile` — what breaks the rule;
* `fixSource`, `fixFile` — apply fixes, pass after pass, until none is left or ten
  passes are done. Each pass parses and checks the text that the pass before it
  produced.

The host at work is `parserHost`: a parser that loads a grammar when a file asks for
another one than is selected.
-/

namespace ImportOrder

/-- What a linter works with. -/
structure Host (σ : Type) where
  /-- select the grammar for a file -/
  select : String → σ → Except ParseError σ
  /-- read a text with the selected grammar -/
  parse : String → σ → Except (Halt ParseError) (List Statement) × σ
  /-- the name of the selected grammar -/
  language : σ → String
  /-- take note of progress -/
  hear : Event → σ → σ := fun _ s => s

/-- A rule, a host, and the files that can be read. -/
structure Linter (σ : Type) where
  /-- what is checked -/
  rule : Rule
  /-- how texts are read -/
  host : Host σ
  /-- the content of a file, or why it cannot be had -/
  read : String → Except String String

/-- What a linter does: it ends with a result or early, and leaves the host in some
state. -/
abbrev Action (σ α : Type) := ExceptT (Halt Failure) (StateM σ) α

/-- The problems of one file. -/
structure FileReport where
  /-- the path of the file -/
  path : String
  /-- what breaks the rule -/
  diagnostics : List Diagnostic
deriving DecidableEq, Repr

/-- Nothing is wrong with the file. -/
def FileReport.isClean (r : FileReport) : Bool := r.diagnostics.isEmpty

/-- A mended text. -/
structure Repair where
  /-- the text after all passes -/
  output : String
  /-- the number of passes in which fixes were applied -/
  passes : Nat
  /-- what still breaks the rule -/
  remaining : List Diagnostic
deriving DecidableEq, Repr

/-- The number of passes after which mending stops. -/
def maxPasses : Nat := 10

namespace Linter

variable {σ : Type}

/-- Tell the host about progress. -/
def tell (l : Linter σ) (e : Event) : Action σ Unit := fun s => (.ok (), l.host.hear e s)

/-- Read a text into statements; `blame` says what a syntax error is a failure of. -/
def statements (l : Linter σ) (blame : ParseError → Failure) (code : String) :
    Action σ (List Statement) := fun s =>
  let (result, next) := l.host.parse code s
  (result.mapError (Halt.map blame), next)

/-- Check a text; `blame` says what a syntax error is a failure of. -/
def lint (l : Linter σ) (blame : ParseError → Failure) (code : String) :
    Action σ (List Diagnostic) := do
  let ss ← l.statements blame code
  (checkEvents l.rule ss).forM l.tell
  ExceptT.mk (pure (Halt.ofFault (check code l.rule ss)))

/-- Read a file and select its grammar. -/
def openFile (l : Linter σ) (path : String) : Action σ String := do
  match l.read path with
  | .error cause => throw (.error (.fileRead path cause))
  | .ok code =>
    let s ← get
    match l.host.select path s with
    | .error e => throw (.error (.parse path e))
    | .ok next =>
      set next
      l.tell (.parsingFile path (l.host.language next))
      return code

/-- One pass after another: `left` more passes are allowed after `passes` have been
done. -/
def repairFrom (l : Linter σ) (blame : ParseError → Failure) : Nat → Nat → String → Action σ Repair
  | 0, passes, text => do
    let ds ← l.lint blame text
    l.tell (.fixingFinished passes ds.length)
    return ⟨text, passes, ds⟩
  | left + 1, passes, text => do
    let ds ← l.lint blame text
    let fixes := fixesOf ds
    if fixes.isEmpty then
      l.tell (.fixingFinished passes ds.length)
      return ⟨text, passes, ds⟩
    else
      l.tell (.applyingFixes (passes + 1) fixes.length)
      match Fix.applyAll text fixes with
      | .error h => throw (h.map .fixConflict)
      | .ok next => repairFrom l blame left (passes + 1) next

/-- What breaks the rule in a text, read with the grammar last selected. -/
def lintSource (l : Linter σ) (code : String) : Action σ (List Diagnostic) := l.lint .source code

/-- Mend a text, read with the grammar last selected. -/
def fixSource (l : Linter σ) (code : String) : Action σ Repair :=
  l.repairFrom .source maxPasses 0 code

/-- What breaks the rule in a file. -/
def lintFile (l : Linter σ) (path : String) : Action σ FileReport := do
  let code ← l.openFile path
  let ds ← l.lint (.parse path) code
  return ⟨path, ds⟩

/-- Mend the content of a file. The file itself is left alone. -/
def fixFile (l : Linter σ) (path : String) : Action σ Repair := do
  let code ← l.openFile path
  l.repairFrom (.parse path) maxPasses 0 code

end Linter

/-! ## Parsers -/

/-- A supply of syntax trees: what each grammar makes of a text, if it makes anything of
it. -/
abbrev TreeSource := Dialect → String → Option SyntaxNode

/-- How a text is read with one grammar: by means of its tree. -/
def parseWith (trees : TreeSource) (grammar : Dialect) (code : String) :
    Except (Halt ParseError) (List Statement) :=
  match trees grammar code with
  | some root => readStatements code root
  | none => .error (.error (.syntaxError 1 1 "parser produced no tree"))

/-- What comes of loading a grammar: nothing more, or why it cannot be loaded. -/
abbrev GrammarLoader := Dialect → Except String Unit

/-- Every grammar can be loaded. -/
def GrammarLoader.Complete (load : GrammarLoader) : Prop := ∀ d, load d = .ok ()

/-- The grammars that come with the library. -/
def builtInGrammars : GrammarLoader := fun _ => .ok ()

/-- A parser. Grammars are loaded on demand, and none is selected that is not loaded. -/
structure Parser where
  /-- the grammar that is loaded: texts are read with it -/
  loaded : Dialect
  /-- the grammar that was selected last -/
  selected : Dialect
  /-- they are the same -/
  agree : selected = loaded
deriving DecidableEq, Repr

namespace Parser

/-- A parser with a grammar. -/
def of (d : Dialect) : Parser := ⟨d, d, rfl⟩

/-- Load a grammar into a new parser. -/
def withDialect (load : GrammarLoader) (d : Dialect) : Except ParseError Parser :=
  match load d with
  | .ok () => .ok (of d)
  | .error reason => .error (.parserInit d.parserName reason)

/-- Switch to a grammar. Nothing is loaded if it is selected already, and a grammar that
cannot be loaded leaves the parser as it was. -/
def select (load : GrammarLoader) (d : Dialect) (p : Parser) : Except ParseError Parser :=
  if p.selected = d then .ok p else withDialect load d

end Parser

/-- The host that reads texts with a parser. -/
def parserHost (load : GrammarLoader) (trees : TreeSource) : Host Parser where
  select path p := p.select load (Dialect.ofPath path)
  parse code p := (parseWith trees p.loaded code, p)
  language p := p.selected.language

end ImportOrder

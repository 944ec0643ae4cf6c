import ImportOrder.Event
import ImportOrder.Text.Braces
import ImportOrder.Text.ControlSequence

/-!
# Log lines

Events as lines of a log: a level, the part of the program, a message, and what is known
about the event as names with values. In a message no control character is left that a
terminal would act on; values are as they are. Warnings are always logged, everything
else only on demand.
-/

namespace ImportOrder

/-- How important an event is. -/
inductive Level where
  /-- a detail -/
  | debug
  /-- a step -/
  | info
  /-- something that a user should know -/
  | warn
deriving DecidableEq, Repr

/-- The name of a level. -/
def Level.name : Level → String
  | .debug => "DEBUG"
  | .info => "INFO"
  | .warn => "WARN"

/-- The level of an event. -/
def Event.level : Event → Level
  | .checkingFiles _ => .info
  | .skippingFile .. => .warn
  | _ => .debug

/-- The part of the program that an event comes from. -/
def Event.part : Event → String
  | .ruleConfigured _ | .checkingFiles _ | .skippingFile .. => "importsort"
  | .parsingFile .. | .applyingFixes .. | .fixingFinished .. => "importsort::lint"
  | .lateImports _ | .collectedRuns _ | .runOutOfOrder .. => "importsort::rule"

/-- A category in the description of a rule. -/
def Category.described : Category → String
  | .type => "Type"
  | .named => "Named"
  | .unnamed => "Unnamed"

/-- A violation in a log line. -/
def Violation.described : Violation → String
  | .wrongCategory => "WrongCategory"
  | .wrongPath => "WrongPath"
  | .missingBlankLine => "MissingBlankLine"

/-- The rule in full. -/
def Rule.described (r : Rule) : String :=
  let order := ", ".intercalate (r.sortOrder.categories.map Category.described)
  s!"RuleConfig {openBrace} imports_at_start: {r.importsAtStart}, " ++
    s!"sort_order: SortOrder([{order}]), enforce_blank_line: {r.enforceBlankLine}, " ++
    s!"enforce_trailing_line: {r.enforceTrailingLine}, ignore_case: {r.ignoreCase} {closeBrace}"

/-- What a log line says about an event. -/
def Event.message : Event → String
  | .ruleConfigured rule => s!"rule configured config={rule.described}"
  | .checkingFiles count => s!"checking files files={count}"
  | .skippingFile path cause => s!"skipping file: {controlsEscaped cause.message} path={path}"
  | .parsingFile path language => s!"parsing file path={path} language={quoted language}"
  | .lateImports count => s!"imports found after other statements count={count}"
  | .collectedRuns count => s!"collected import groups groups={count}"
  | .runOutOfOrder line cause => s!"import group out of order line={line} cause={cause.described}"
  | .applyingFixes pass fixes => s!"applying fixes pass={pass} fixes={fixes}"
  | .fixingFinished passes remaining => s!"fixing finished passes={passes} remaining={remaining}"

/-- The line of an event. -/
def Event.line (e : Event) : String := s!"{e.level.name} {e.part}: {e.message}\n"

/-- The log of some events. -/
def logText (verbose : Bool) (events : List Event) : String :=
  String.join ((events.filter fun e => verbose || e.level = .warn).map Event.line)

end ImportOrder

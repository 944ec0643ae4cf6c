import ImportOrder.Project.Path

/-!
# Dialects

A source text is read with one of two grammars. The extension of its file decides which
one: the plain one reads `<T>value` as a type assertion, the other one reads it as
markup.
-/

namespace ImportOrder

/-- The grammar with which a text is read. -/
inductive Dialect where
  /-- type assertions, no markup -/
  | typeScript
  /-- markup, no type assertions; also for plain scripts -/
  | tsx
deriving DecidableEq, Repr, Inhabited

namespace Dialect

/-- The grammar for a file. -/
def ofPath (path : String) : Dialect :=
  match extension? path with
  | some "ts" | some "mts" | some "cts" => .typeScript
  | _ => .tsx

/-- The name under which the grammar is known to users. -/
def language : Dialect → String
  | .typeScript => "TypeScript"
  | .tsx => "TSX"

/-- What the parser of the grammar is called in complaints. -/
def parserName : Dialect → String
  | .typeScript => "TypeScript (TypeScript)"
  | .tsx => "TypeScript (Tsx)"

end Dialect

end ImportOrder

import ImportOrder.SyntaxTree
import ImportOrder.Statement

/-!
# From a syntax tree to statements

`readStatements` turns the tree of a text into the list of its top-level statements, or
says where the text breaks the grammar. Comments and a leading interpreter line are no
statements.

An import declaration has a source: the string it imports from, also in the form `import
x = require("x")`. An import without one, such as `import x = A.B`, is an ordinary
statement. The keyword right after `import` decides whether types or types of values are
imported; failing that, a declaration with a clause binds values and one without a
clause binds nothing.
-/

namespace ImportOrder

/-- The value of a string node is its text without the quotes; any other node stands for
its text. -/
def stringValue (n : SyntaxNode) (code : String) : Except Fault String := do
  let text ← n.text code
  if n.kind = "string" ∧ 2 ≤ text.utf8ByteSize then Span.slice ⟨1, text.utf8ByteSize - 1⟩ text
  else .ok text

/-- One entry of a braced list; the local name is the alias, if there is one. -/
def readNamed (code : String) (n : SyntaxNode) : Except Fault (Option Specifier) :=
  match (n.child? "alias").or (n.child? "name") with
  | some nameNode => do
    let name ← stringValue nameNode code
    let span ← n.place
    .ok (some ⟨.named, name, span⟩)
  | none => .ok none

/-- The specifiers that one child of an import clause stands for. -/
def readClausePart (code : String) (n : SyntaxNode) : Except Fault (List Specifier) :=
  match n.kind with
  | "identifier" => do
    let name ← n.text code
    let span ← n.place
    .ok [⟨.default, name, span⟩]
  | "namespace_import" =>
    match (n.children.filter (·.kind == "identifier")).getLast? with
    | some nameNode => do
      let name ← nameNode.text code
      let span ← n.place
      .ok [⟨.namespace, name, span⟩]
    | none => .ok []
  | "named_imports" => do
    let entries ← (n.namedChildren.filter (·.kind == "import_specifier")).mapM (readNamed code)
    .ok (entries.filterMap id)
  | _ => .ok []

/-- The specifiers of an import clause, in order. -/
def readClause (code : String) (clause : SyntaxNode) : Except Fault (List Specifier) := do
  let parts ← clause.children.mapM (readClausePart code)
  .ok parts.flatten

/-- The clause of an import declaration. -/
def importClause? (n : SyntaxNode) : Option SyntaxNode :=
  n.childOfKind? ["import_clause", "import_require_clause"]

/-- The node of the string from which an import declaration imports. -/
def importSource? (n : SyntaxNode) : Option SyntaxNode :=
  (n.child? "source").or ((n.childOfKind? ["import_require_clause"]).bind (·.child? "source"))

/-- The kind of an import declaration. -/
def importKind (n : SyntaxNode) : Option ImportKind :=
  match (n.children[1]?).map (·.kind) with
  | some "type" => some .type
  | some "typeof" => some .typeof
  | _ => if (importClause? n).isSome then some .value else none

/-- An import declaration, unless it has no source. -/
def readImport (code : String) (n : SyntaxNode) : Except Fault (Option ImportDecl) :=
  match importSource? n with
  | none => .ok none
  | some source => do
    let specifiers ← match importClause? n with
      | some clause => readClause code clause
      | none => .ok []
    let span ← n.place
    let startLine ← ordinal n.startRow
    let endLine ← ordinal n.endRow
    let path ← stringValue source code
    .ok (some ⟨span, startLine, endLine, importKind n, path, specifiers⟩)

/-- A statement of which only its place matters. -/
def readOther (n : SyntaxNode) : Except Fault Statement := do
  let span ← n.place
  let startLine ← ordinal n.startRow
  let endLine ← ordinal n.endRow
  .ok (.other n.kind span startLine endLine)

/-- One top-level statement. -/
def readStatement (code : String) (n : SyntaxNode) : Except Fault Statement := do
  if n.kind = "import_statement" then
    match ← readImport code n with
    | some d => .ok (.importDecl d)
    | none => readOther n
  else readOther n

/-- The node is no statement. -/
def isTrivia (n : SyntaxNode) : Bool := n.kind == "comment" || n.kind == "hash_bang_line"

/-- The error that an error or missing node stands for. -/
def syntaxErrorAt (n : SyntaxNode) : Except Fault ParseError := do
  let line ← ordinal n.startRow
  let column ← ordinal n.startColumn
  .ok (.syntaxError line column
    (if n.isMissing then s!"missing '{n.kind}'" else "unexpected input"))

/-- The statements of a text with the given tree. -/
def readStatements (code : String) (root : SyntaxNode) :
    Except (Halt ParseError) (List Statement) :=
  match root.firstError with
  | some n =>
    match syntaxErrorAt n with
    | .ok e => .error (.error e)
    | .error f => .error (.fault f)
  | none => Halt.ofFault ((root.namedChildren.filter (!isTrivia ·)).mapM (readStatement code))

end ImportOrder

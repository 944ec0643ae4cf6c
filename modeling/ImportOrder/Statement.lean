import ImportOrder.Text.Span

/-!
# Statements

What the rule sees of a source text: the list of its top-level statements. An import
declaration shows its kind, the path it imports from and the names it binds; of any
other statement only its place is known. Lines count from one.
-/

namespace ImportOrder

/-- How an import binds names: as values, as types, or as types of values. -/
inductive ImportKind where
  /-- `import a from "a"` -/
  | value
  /-- `import type {A} from "a"` -/
  | type
  /-- `import typeof A from "a"` -/
  | typeof
deriving DecidableEq, Repr

/-- The three forms in which an import names what it binds. -/
inductive SpecifierKind where
  /-- `a` in `import a from "m"` -/
  | default
  /-- `* as a` -/
  | namespace
  /-- an entry of a braced list -/
  | named
deriving DecidableEq, Repr

/-- One name that an import binds. -/
structure Specifier where
  /-- the form of the specifier -/
  kind : SpecifierKind
  /-- the name as it is known in the importing text -/
  name : String
  /-- the place of the whole specifier -/
  span : Span
deriving DecidableEq, Repr

/-- An import declaration. -/
structure ImportDecl where
  /-- the place of the declaration -/
  span : Span
  /-- the line on which it starts -/
  startLine : Nat
  /-- the line on which it ends -/
  endLine : Nat
  /-- its kind; an import that binds no name has none -/
  kind : Option ImportKind
  /-- what is imported -/
  path : String
  /-- the names bound, in the order of the text -/
  specifiers : List Specifier
deriving DecidableEq, Repr

/-- A top-level statement. -/
inductive Statement where
  /-- an import declaration -/
  | importDecl (decl : ImportDecl)
  /-- any other statement, with the name of its syntactic form -/
  | other (form : String) (span : Span) (startLine endLine : Nat)
deriving DecidableEq, Repr

/-- The entries of the braced list, in the order of the text. -/
def ImportDecl.named (d : ImportDecl) : List Specifier :=
  d.specifiers.filter (·.kind = .named)

namespace Statement

/-- The place of a statement. -/
def span : Statement → Span
  | .importDecl d => d.span
  | .other _ s _ _ => s

/-- The line on which a statement starts. -/
def startLine : Statement → Nat
  | .importDecl d => d.startLine
  | .other _ _ a _ => a

/-- The line on which a statement ends. -/
def endLine : Statement → Nat
  | .importDecl d => d.endLine
  | .other _ _ _ b => b

/-- The name of the syntactic form of a statement. -/
def form : Statement → String
  | .importDecl _ => "import_statement"
  | .other f _ _ _ => f

/-- The declaration, if the statement is an import. -/
def decl? : Statement → Option ImportDecl
  | .importDecl d => some d
  | .other .. => none

/-- The statement is an import. -/
def isImport (s : Statement) : Bool := s.decl?.isSome

end Statement

end ImportOrder

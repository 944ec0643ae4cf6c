import ImportOrder.Text.Span
import ImportOrder.Failure

/-!
# Syntax trees

The tree of a source text as a grammar delivers it. Every node knows its kind, its
place, and whether something is wrong with it:

* an *error* node covers text that fits nowhere, a *missing* node stands for a token
  that had to be made up; a node is *tainted* if such a node lies at or below it;
* *named* nodes are those of the grammar's rules, the others are keywords and
  punctuation;
* a node may play a *role* for its parent.

`firstError` finds the first error or missing node, a parent before its children and
these in order.
-/

namespace ImportOrder

/-- A node of a syntax tree. -/
structure SyntaxNode where
  /-- the kind of node that the grammar knows it by -/
  kind : String
  /-- the place of the node -/
  span : Span
  /-- the row on which it starts, counted from zero -/
  startRow : Nat
  /-- the byte column at which it starts, counted from zero -/
  startColumn : Nat
  /-- the row on which it ends, counted from zero -/
  endRow : Nat
  /-- the node belongs to a rule of the grammar -/
  named : Bool := true
  /-- the node covers text that fits nowhere -/
  isError : Bool := false
  /-- the node stands for a token that the text lacks -/
  isMissing : Bool := false
  /-- an error or missing node lies at or below this one -/
  tainted : Bool := false
  /-- the role that the node plays for its parent -/
  role : Option String := none
  /-- the nodes below, in the order of the text -/
  children : List SyntaxNode := []

namespace SyntaxNode

/-- The child that plays a role. -/
def child? (n : SyntaxNode) (role : String) : Option SyntaxNode :=
  n.children.find? (·.role == some role)

/-- The first child of one of some kinds. -/
def childOfKind? (n : SyntaxNode) (kinds : List String) : Option SyntaxNode :=
  n.children.find? (kinds.contains ·.kind)

/-- The children that belong to rules of the grammar. -/
def namedChildren (n : SyntaxNode) : List SyntaxNode := n.children.filter (·.named)

mutual

/-- The first error or missing node at or below a node. -/
def firstError : SyntaxNode → Option SyntaxNode
  | ⟨kind, span, startRow, startColumn, endRow, named, isError, isMissing, tainted, role,
      children⟩ =>
    if isError || isMissing then
      some ⟨kind, span, startRow, startColumn, endRow, named, isError, isMissing, tainted,
        role, children⟩
    else if !tainted then none
    else firstErrorAmong children

/-- The first error or missing node at or below some nodes. -/
def firstErrorAmong : List SyntaxNode → Option SyntaxNode
  | [] => none
  | n :: rest =>
    match firstError n with
    | some e => some e
    | none => firstErrorAmong rest

end

/-- The text under a node. -/
def text (n : SyntaxNode) (code : String) : Except Fault String := n.span.slice code

/-- The place of a node, which has to start before it ends. -/
def place (n : SyntaxNode) : Except Fault Span := Span.make n.span.start n.span.stop

end SyntaxNode

/-- The number of the line or column with a given index. Indices are taken as 32-bit
numbers. -/
def ordinal (index : Nat) : Except Fault Nat := nextLine (index % lineBound)

end ImportOrder

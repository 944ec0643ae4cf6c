import ImportOrder.Datum
import ImportOrder.Linter

/-!
# Syntax trees from data

The grammars themselves are not part of the library. What they make of texts comes as
data: a list of entries, each with a grammar, a text, and the root of its tree.
`TreeSource.ofDatum?` reads such a list.

A node is a map. Flags that are not there are off, and so is `anonymous`, the opposite
of being named.
-/

namespace ImportOrder

namespace Datum

/-- A number that counts something. -/
def count? : Datum → Option Nat
  | .int i => if 0 ≤ i then some i.toNat else none
  | .nat n => some n
  | _ => none

/-- A text. -/
def text? : Datum → Option String
  | .str s => some s
  | _ => none

/-- A pair of numbers that count something. -/
def pair? : Datum → Option (Nat × Nat)
  | .list [a, b] => do return (← a.count?, ← b.count?)
  | _ => none

/-- The flag under a key is set. -/
def hasFlag (d : Datum) (key : String) : Bool :=
  match d.get? key with
  | some (.bool b) => b
  | _ => false

end Datum

/-- A node from its entry, with the nodes below it. -/
def SyntaxNode.ofEntry? (d : Datum) (children : List SyntaxNode) : Option SyntaxNode := do
  let kind ← (← d.get? "kind").text?
  let (first, last) ← (← d.get? "range").pair?
  let (row, column) ← (← d.get? "start").pair?
  let endRow ← (← d.get? "end_row").count?
  return {
    kind := kind
    span := ⟨first, last⟩
    startRow := row
    startColumn := column
    endRow := endRow
    named := !d.hasFlag "anonymous"
    isError := d.hasFlag "error"
    isMissing := d.hasFlag "missing"
    tainted := d.hasFlag "has_error"
    role := (d.get? "field").bind Datum.text?
    children := children }

mutual

/-- A node with everything below it. -/
def SyntaxNode.ofDatum? : Datum → Option SyntaxNode
  | .map entries => do
    let children ← childrenAmong? entries
    SyntaxNode.ofEntry? (.map entries) children
  | _ => none

/-- The nodes that the entries of a map give as children. -/
def childrenAmong? : List (String × Datum) → Option (List SyntaxNode)
  | [] => some []
  | (key, value) :: rest => if key = "children" then childrenOf? value else childrenAmong? rest

/-- The nodes of a list. -/
def childrenOf? : Datum → Option (List SyntaxNode)
  | .list items => nodesOf? items
  | _ => none

/-- Nodes, each with everything below it. -/
def nodesOf? : List Datum → Option (List SyntaxNode)
  | [] => some []
  | d :: rest => do
    let first ← SyntaxNode.ofDatum? d
    let others ← nodesOf? rest
    return first :: others

end

/-- The name of a grammar in data. -/
def Dialect.name : Dialect → String
  | .typeScript => "ts"
  | .tsx => "tsx"

/-- One entry: the name of a grammar, a text, and the root of its tree. -/
def treeEntry? (d : Datum) : Option (String × String × SyntaxNode) := do
  let dialect ← (← d.get? "dialect").text?
  let code ← (← d.get? "code").text?
  let root ← SyntaxNode.ofDatum? (← d.get? "root")
  return (dialect, code, root)

/-- The supply of the trees in a list of entries. -/
def TreeSource.ofDatum? : Datum → Option TreeSource
  | .list items => do
    let entries ← items.mapM treeEntry?
    return fun dialect code =>
      (entries.find? fun (d, c, _) => d == dialect.name && c == code).map fun (_, _, root) => root
  | _ => none

/-- The supply that has no trees. -/
def TreeSource.empty : TreeSource := fun _ _ => none

end ImportOrder

import ImportOrder.Category
import ImportOrder.Text.Lowercase

/-!
# The rule and its comparisons

`RuleOptions` is what a user writes; `Rule` is what remains once the sort order has been
found to be one. The rule fixes how two imports compare: first by category, then by
path, and how two specifiers compare: by local name. With `ignoreCase` names are
compared in lower case. Texts compare by code point.
-/

namespace ImportOrder

/-- The options of the rule as they are written, not yet checked. -/
structure RuleOptions where
  /-- imports have to come before all other statements -/
  importsAtStart : Bool := true
  /-- the order of the categories -/
  sortOrder : List Category := Category.all
  /-- imports of different categories are separated by a blank line -/
  enforceBlankLine : Bool := false
  /-- imports are followed by a blank line -/
  enforceTrailingLine : Bool := false
  /-- paths and names are compared in lower case -/
  ignoreCase : Bool := true
deriving DecidableEq, Repr, Inhabited

/-- The rule with options that make sense. -/
structure Rule where
  /-- imports have to come before all other statements -/
  importsAtStart : Bool := true
  /-- the order of the categories -/
  sortOrder : SortOrder := SortOrder.standard
  /-- imports of different categories are separated by a blank line -/
  enforceBlankLine : Bool := false
  /-- imports are followed by a blank line -/
  enforceTrailingLine : Bool := false
  /-- paths and names are compared in lower case -/
  ignoreCase : Bool := true
deriving DecidableEq, Repr, Inhabited

/-- Check the options. -/
def Rule.ofOptions (o : RuleOptions) : Except RuleError Rule :=
  match SortOrder.ofList o.sortOrder with
  | .ok order => .ok {
      importsAtStart := o.importsAtStart
      sortOrder := order
      enforceBlankLine := o.enforceBlankLine
      enforceTrailingLine := o.enforceTrailingLine
      ignoreCase := o.ignoreCase }
  | .error e => .error e

/-- The form in which a text is compared. -/
def comparable (ignoreCase : Bool) (s : String) : String :=
  if ignoreCase then lowercase s else s

/-- Compare two texts in their comparable forms. -/
def compareTexts (ignoreCase : Bool) (a b : String) : Ordering :=
  compare (comparable ignoreCase a) (comparable ignoreCase b)

/-- Compare two imports by path. -/
def comparePaths (ignoreCase : Bool) (a b : ImportDecl) : Ordering :=
  compareTexts ignoreCase a.path b.path

/-- Compare two imports by category. -/
def compareCategories (order : SortOrder) (a b : ImportDecl) : Ordering :=
  compare (order.index a.category) (order.index b.category)

/-- Compare two specifiers by local name. -/
def compareSpecifiers (ignoreCase : Bool) (a b : Specifier) : Ordering :=
  compareTexts ignoreCase a.name b.name

end ImportOrder

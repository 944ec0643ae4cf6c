import ImportOrder.Statement

/-!
# Categories and their order

Every import belongs to one of three categories, which its kind alone decides. A
`SortOrder` says in which order the categories come; it lists each of them exactly once,
and that is part of the type.

`RuleError` collects what can be wrong with a request to the rule.
-/

namespace ImportOrder

/-- The class of an import. -/
inductive Category where
  /-- imports of types -/
  | type
  /-- imports that bind values -/
  | named
  /-- imports for their side effects, and imports of types of values -/
  | unnamed
deriving DecidableEq, Repr, Inhabited

/-- What can be wrong with a request to the rule. -/
inductive RuleError where
  /-- a statement that is not an import was to be classified -/
  | invalidNodeKind (form : String)
  /-- an option has a value that makes no sense -/
  | configuration (reason : String)
deriving DecidableEq, Repr

/-- The text shown to the user. -/
def RuleError.message : RuleError → String
  | .invalidNodeKind form => s!"Expected an import declaration, received a '{form}' node"
  | .configuration reason => s!"Invalid configuration: {reason}"

namespace Category

/-- All categories, in the order that is the default. -/
def all : List Category := [.type, .named, .unnamed]

/-- The name by which options refer to a category. -/
def name : Category → String
  | .type => "type"
  | .named => "named"
  | .unnamed => "unnamed"

/-- The category of a name. -/
def ofName? (name : String) : Option Category := all.find? (·.name = name)

/-- The category of a name, or the complaint that there is none. -/
def ofName (name : String) : Except RuleError Category :=
  match ofName? name with
  | some c => .ok c
  | none => .error (.configuration s!"unknown category '{name}', expected type, named or unnamed")

/-- Every category is known by its name. -/
theorem ofName?_name (c : Category) : ofName? c.name = some c := by cases c <;> decide

theorem mem_all (c : Category) : c ∈ all := by cases c <;> decide

end Category

/-- The category of an import. -/
def ImportDecl.category (d : ImportDecl) : Category :=
  match d.kind with
  | some .type => .type
  | some .value => .named
  | some .typeof | none => .unnamed

/-- The category of a statement, which has to be an import. -/
def Statement.classify (s : Statement) : Except RuleError Category :=
  match s with
  | .importDecl d => .ok d.category
  | .other form .. => .error (.invalidNodeKind form)

/-- An order of the three categories. -/
structure SortOrder where
  /-- the categories, the first one first -/
  categories : List Category
  /-- there are as many as there are categories -/
  length_eq : categories.length = 3
  /-- none is listed twice -/
  nodup : categories.Nodup
deriving DecidableEq, Repr

namespace SortOrder

/-- The first entry that also occurs before its place. -/
def firstRepeated (seen : List Category) : List Category → Option Category
  | [] => none
  | c :: rest => if c ∈ seen then some c else firstRepeated (c :: seen) rest

theorem nodup_of_firstRepeated {seen cs : List Category} (h : firstRepeated seen cs = none) :
    cs.Nodup ∧ ∀ c ∈ cs, c ∉ seen := by
  induction cs generalizing seen with
  | nil => simp
  | cons c rest ih =>
    simp only [firstRepeated] at h
    split at h
    · simp at h
    · next hc =>
      obtain ⟨hnodup, hfresh⟩ := ih h
      refine ⟨List.nodup_cons.2 ⟨fun hm => hfresh c hm List.mem_cons_self, hnodup⟩, ?_⟩
      intro x hx
      rcases List.mem_cons.1 hx with rfl | hx
      · exact hc
      · exact fun hs => hfresh x hx (List.mem_cons_of_mem _ hs)

/-- Accept a list of categories that names each of them once. -/
def ofList (cs : List Category) : Except RuleError SortOrder :=
  if hlen : cs.length = 3 then
    match hrep : firstRepeated [] cs with
    | some c => .error (.configuration s!"sort_order lists '{c.name}' more than once")
    | none => .ok ⟨cs, hlen, (nodup_of_firstRepeated hrep).1⟩
  else
    .error (.configuration s!"sort_order must contain exactly 3 categories, found {cs.length}")

/-- The place of a category in the order. -/
def index (o : SortOrder) (c : Category) : Nat := o.categories.idxOf c

/-- Types, then named imports, then unnamed ones. -/
def standard : SortOrder := ⟨Category.all, rfl, by decide⟩

instance : Inhabited SortOrder := ⟨standard⟩

end SortOrder

end ImportOrder

import ImportOrder.Category
import ImportOrder.Datum.JsonWriter
import ImportOrder.Text.Quoted

/-!
# Values from data

Data are matched with types, and what does not fit is reported together with the path
that leads to it.

Data come from two kinds of `Source`, which differ in what they let pass and in how they
word complaints: a document that has to fit exactly, and merged layers of settings.
-/

namespace ImportOrder

/-- Where data come from. -/
inductive Source where
  /-- a document of its own -/
  | document
  /-- layers put over one another -/
  | layers
deriving DecidableEq, Repr

/-- Why data do not fit. -/
inductive Misfit where
  /-- a value of the wrong kind -/
  | invalidType (found : Datum) (expected : String)
  /-- a value of the right kind that is out of range -/
  | invalidValue (found : Datum) (expected : String)
  /-- a sequence of the wrong length -/
  | invalidLength (length : Nat) (expected : String)
  /-- a key that no field has -/
  | unknownField (name : String) (expected : List String)
  /-- a name that is not one of those to choose from -/
  | unknownVariant (name : String) (expected : List String)
deriving Repr

/-- A misfit and the path to it. -/
structure DecodeError where
  /-- the keys and places that lead to the misfit -/
  path : List String := []
  /-- what is wrong there -/
  misfit : Misfit
deriving Repr

/-- The outcome of matching data with a type. -/
abbrev Decoded (α : Type) := Except DecodeError α

/-- An error without a path yet. -/
def misfit {α : Type} (m : Misfit) : Decoded α := .error { misfit := m }

/-- The outcome for a value below a key. -/
def Decoded.below {α : Type} (key : String) (r : Decoded α) : Decoded α :=
  r.mapError fun e => { e with path := key :: e.path }

/-! ## Simple values -/

/-- A truth value. -/
def decodeFlag : Datum → Decoded Bool
  | .bool b => .ok b
  | d => misfit (.invalidType d "a boolean")

/-- A text. -/
def decodeText : Datum → Decoded String
  | .str s => .ok s
  | .char c => .ok c.toString
  | d => misfit (.invalidType d "a string")

/-- A whole number of 32 bits. -/
def decodeWord (d : Datum) : Decoded UInt32 :=
  match d with
  | .int i =>
    if 0 ≤ i ∧ i < UInt32.size then .ok (UInt32.ofNat i.toNat) else misfit (.invalidValue d "u32")
  | .nat n => if n < UInt32.size then .ok (UInt32.ofNat n) else misfit (.invalidValue d "u32")
  | d => misfit (.invalidType d "u32")

/-- The elements of a sequence, each at its place. -/
def decodeItems {α : Type} (item : Datum → Decoded α) : Nat → List Datum → Decoded (List α)
  | _, [] => .ok []
  | place, d :: rest => do
    let a ← Decoded.below (toString place) (item d)
    let others ← decodeItems item (place + 1) rest
    return a :: others

/-- A sequence. -/
def decodeList {α : Type} (item : Datum → Decoded α) : Datum → Decoded (List α)
  | .list items => decodeItems item 0 items
  | d => misfit (.invalidType d "a sequence")

/-- The category of a name. -/
def decodeCategoryName (name : String) : Decoded Category :=
  match Category.ofName? name with
  | some c => .ok c
  | none => misfit (.unknownVariant name (Category.all.map Category.name))

/-- A value that says nothing. -/
def decodeNothing : Datum → Decoded Unit
  | .null => .ok ()
  | d => misfit (.invalidType d "unit")

/-- The value of the single entry of a map that stands for a category. -/
def decodeMarked (name : String) (value : Datum) : Decoded Category := do
  let c ← decodeCategoryName name
  decodeNothing value
  return c

/-- A category: its name, or a map with that name as its key. -/
def decodeCategory (source : Source) (d : Datum) : Decoded Category :=
  match source, d with
  | _, .str s => decodeCategoryName s
  | .document, .map [(name, value)] => decodeMarked name value
  | .document, .map _ => misfit (.invalidValue d "map with a single key")
  | .document, _ => misfit (.invalidType d "string or map")
  | .layers, .map entries =>
    match (sortedByKey entries).head? with
    | none => misfit (.invalidType d "enum")
    | some (name, value) => (decodeMarked name value).below name
  | .layers, _ => misfit (.invalidType d "enum Category")

/-! ## Wording -/

/-- What a value is called in complaints. -/
def Datum.described (source : Source) (d : Datum) : String :=
  match source, d with
  | .document, .null => "null"
  | .layers, .null => "unit"
  | .document, .bool b => s!"boolean `{b}`"
  | .layers, .bool b => s!"bool {b}"
  | .document, .int i => s!"integer `{i}`"
  | .layers, .int i => s!"signed int `{i}`"
  | .document, .nat n => s!"integer `{n}`"
  | .layers, .nat n => s!"unsigned int `{n}`"
  | .document, .float x => s!"floating point `{jsonFloat x}`"
  | .layers, .float x => s!"float `{plainDecimal x}`"
  | _, .str s => s!"string {quoted s}"
  | _, .char c => s!"string {quoted c.toString}"
  | _, .list _ => "sequence"
  | _, .map _ => "map"

/-- Names to choose from. -/
def alternatives (names : List String) : String :=
  "one of " ++ ", ".intercalate (names.map fun n => "`" ++ n ++ "`")

/-- The text of a complaint. -/
def Misfit.message (source : Source) : Misfit → String
  | .invalidType found expected => match source with
    | .document => s!"invalid type: {found.described source}, expected {expected}"
    | .layers => s!"invalid type: found {found.described source}, expected {expected}"
  | .invalidValue found expected => match source with
    | .document => s!"invalid value: {found.described source}, expected {expected}"
    | .layers => s!"invalid value {found.described source}, expected {expected}"
  | .invalidLength length expected => s!"invalid length {length}, expected {expected}"
  | .unknownField name expected => match source with
    | .document => s!"unknown field `{name}`, expected {alternatives expected}"
    | .layers => s!"unknown field: found `{name}`, expected `{alternatives expected}`"
  | .unknownVariant name expected => match source with
    | .document => s!"unknown variant `{name}`, expected {alternatives expected}"
    | .layers => s!"unknown variant: found `{name}`, expected `{alternatives expected}`"

end ImportOrder

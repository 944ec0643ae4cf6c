import ImportOrder.Settings
import ImportOrder.Settings.Decode
import ImportOrder.Toml.Writer

/-!
# The fields of the settings

Each record of the settings has a table of its fields: the key, what is written under
it, and how data are put into it. The form of the settings as data, their text and the
way they are read all come from these tables.

Data are matched with a record field by field. Entries of a map are visited in order of
their keys, and the first one that does not fit is reported. A sequence may stand for a
record: its elements are the fields in order, and those that are missing have their
defaults.
-/

namespace ImportOrder

/-! ## Records -/

/-- A field of a record: its name, what is written for it, and how data are put into
it. -/
structure Field (ν ρ : Type) where
  /-- the key -/
  name : String
  /-- what is written under the key -/
  value : ρ → ν
  /-- read data and put them into a record -/
  put : Source → Datum → ρ → Decoded ρ

/-- A field that is read by a decoder and stored by an update. -/
@[simp]
def Field.of {ν ρ α : Type} (name : String) (value : ρ → ν) (decode : Source → Datum → Decoded α)
    (store : α → ρ → ρ) : Field ν ρ :=
  ⟨name, value, fun source d r => (decode source d).map fun a => store a r⟩

/-- How a record is written and read. -/
structure Schema (ν ρ : Type) where
  /-- the name of the record in complaints -/
  name : String
  /-- the fields in order -/
  fields : List (Field ν ρ)
  /-- the record that has no field set -/
  start : ρ
  /-- keys that no field has are an error -/
  closed : Bool := false

namespace Schema

variable {ν ρ : Type}

/-- What is written for a record. -/
@[simp]
def entries (s : Schema ν ρ) (r : ρ) : List (String × ν) :=
  s.fields.map fun f => (f.name, f.value r)

/-- Put one entry of a map into a record. -/
def putNamed (s : Schema ν ρ) (source : Source) (r : ρ) (entry : String × Datum) : Decoded ρ :=
  Decoded.below entry.1 <|
    match s.fields.find? (·.name = entry.1) with
    | some f => f.put source entry.2 r
    | none => if s.closed then misfit (.unknownField entry.1 (s.fields.map (·.name))) else .ok r

/-- Put the elements of a sequence into the fields of a record. -/
def putPlaced (source : Source) (r : ρ) : Nat → List (Field ν ρ × Datum) → Decoded ρ
  | _, [] => .ok r
  | place, (f, d) :: rest => do
    let next ← Decoded.below (toString place) (f.put source d r)
    putPlaced source next (place + 1) rest

/-- Read a record. -/
def decode (s : Schema ν ρ) (source : Source) (d : Datum) : Decoded ρ :=
  match d with
  | .map entries => (sortedByKey entries).foldlM (s.putNamed source) s.start
  | .list items => do
    let r ← putPlaced source s.start 0 (s.fields.zip items)
    if source = .document ∧ s.fields.length < items.length then
      misfit (.invalidLength items.length "fewer elements in array")
    else return r
  | _ => misfit (.invalidType d ("struct " ++ s.name))

end Schema

/-- A field with a truth value. -/
@[simp]
def flagField {ρ : Type} (name : String) (flag : ρ → Bool) (store : Bool → ρ → ρ) :
    Field Toml.Value ρ :=
  .of name (fun r => .flag (flag r)) (fun _ => decodeFlag) store

/-- A field with texts. -/
@[simp]
def textsField {ρ : Type} (name : String) (texts : ρ → List String) (store : List String → ρ → ρ) :
    Field Toml.Value ρ :=
  .of name (fun r => .texts (texts r)) (fun _ => decodeList decodeText) store

/-! ## The settings -/

/-- The fields of the rule's options. Other keys are not accepted. -/
def ruleSchema : Schema Toml.Value RuleOptions where
  name := "RuleOptions"
  fields := [
    flagField "imports_at_start" (·.importsAtStart) fun v o => { o with importsAtStart := v },
    .of "sort_order" (fun o => .texts (o.sortOrder.map Category.name))
      (fun source => decodeList (decodeCategory source)) fun v o => { o with sortOrder := v },
    flagField "enforce_blank_line" (·.enforceBlankLine) fun v o => { o with enforceBlankLine := v },
    flagField "enforce_trailing_line" (·.enforceTrailingLine) fun v o =>
      { o with enforceTrailingLine := v },
    flagField "ignore_case" (·.ignoreCase) fun v o => { o with ignoreCase := v }]
  start := {}
  closed := true

/-- The fields of the file settings. Without patterns nothing is left out. -/
def fileSchema : Schema Toml.Value FileSettings where
  name := "FilesConfig"
  fields := [
    textsField "extensions" (·.extensions) fun v f => { f with extensions := v },
    textsField "ignore_patterns" (·.ignorePatterns) fun v f => { f with ignorePatterns := v }]
  start := { ignorePatterns := [] }

/-- The options of the rule as a table. -/
def RuleOptions.table (o : RuleOptions) : Toml.Table := ruleSchema.entries o

/-- The file settings as a table. -/
def FileSettings.table (f : FileSettings) : Toml.Table := fileSchema.entries f

/-- The fields of the settings. -/
def settingsSchema : Schema Toml.Entry Settings where
  name := "Settings"
  fields := [
    .of "version" (fun s => .value (.number s.version.toNat)) (fun _ => decodeWord)
      fun v s => { s with version := v },
    .of "debug" (fun s => .value (.flag s.debug)) (fun _ => decodeFlag) fun v s =>
      { s with debug := v },
    .of "rule" (fun s => .table s.rule.table) ruleSchema.decode fun v s => { s with rule := v },
    .of "files" (fun s => .table s.files.table) fileSchema.decode fun v s => { s with files := v }]
  start := {}

/-- The settings as a document. -/
def Settings.document (s : Settings) : Toml.Document := settingsSchema.entries s

/-- The options of the rule as data. -/
def RuleOptions.datum (o : RuleOptions) : Datum := o.table.datum

/-- The settings as data. -/
def Settings.datum (s : Settings) : Datum := s.document.datum

/-- The rule's options from data. -/
def RuleOptions.decode (source : Source) (d : Datum) : Decoded RuleOptions :=
  ruleSchema.decode source d

/-- Settings from data. -/
def Settings.decode (source : Source) (d : Datum) : Decoded Settings :=
  settingsSchema.decode source d

end ImportOrder

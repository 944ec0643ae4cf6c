import ImportOrder.Datum.Tagged
import ImportOrder.Project.Files
import ImportOrder.Settings.Environment
import ImportOrder.Settings.Text
import ImportOrder.Toml.Document

/-!
# Loading and saving settings

Settings are put together from three layers: the defaults, a settings file, and the
environment, the later ones over the earlier ones. A settings file is looked for in the
working directory and then in the directories above it; if there is none, its layer is
empty.

What does not fit is reported with its path and its `Origin`, the last layer that has
something there.

* `Settings.load`, `Settings.loadFrom` — read settings;
* `Settings.save` — write them to a file;
* `initSettings` — write the settings file of a new project.
-/

namespace ImportOrder

/-- Where a value was set. -/
inductive Origin where
  /-- in the settings file, whose path is as seen from the working directory -/
  | file (path : String)
  /-- in the environment -/
  | environment
deriving DecidableEq, Repr

/-- Why settings could not be loaded. -/
inductive LoadError where
  /-- the settings file is not a text -/
  | unreadable (path : String) (cause : FileError)
  /-- the settings file is not TOML, or has a table that cannot be a setting -/
  | notToml (path : String)
  /-- a value does not fit -/
  | misfit (origin : Option Origin) (error : DecodeError)
deriving Repr

/-- Why settings could not be saved. -/
inductive SaveError where
  /-- the path has no directory -/
  | invalidPath
  /-- there is a file already -/
  | alreadyThere
  /-- the file could not be written -/
  | file (cause : FileError)
deriving DecidableEq, Repr

/-- How an origin is named after a complaint. -/
def Origin.named (o : Origin) (path : List String) : String :=
  match o with
  | .file shown =>
    let key := quoted (".".intercalate ("default" :: path))
    s!" for key {key} in {shown} TOML file"
  | .environment =>
    let key := quoted (".".intercalate (path.map String.toUpper))
    s!" for key {key} in `IS_` environment variable(s)"

/-- The text shown to the user. -/
def LoadError.message : LoadError → String
  | .unreadable path cause => s!"{cause.message}\n in {path} TOML file"
  | .notToml path => s!"TOML parse error\n in {path} TOML file"
  | .misfit origin e =>
    e.misfit.message .layers ++ (match origin with
      | some o => o.named e.path
      | none => "")

/-- The text shown to the user. -/
def SaveError.message : SaveError → String
  | .invalidPath => "Invalid path"
  | .alreadyThere => "Configuration file already exists. Use --force to overwrite"
  | .file cause => cause.message

/-! ## Finding the settings file -/

/-- The directory of the settings file. -/
def settingsDirectory : String := ".importsort"

/-- The path of the settings file in a project. -/
def settingsPath : String := ".importsort/settings.toml"

/-- A location and those above it, nearest first. -/
def ancestors (loc : Location) : List Location :=
  ((List.range (loc.length + 1)).map loc.take).reverse

/-- A path as seen from a directory: up as far as needed, then down. -/
def relativeParts : (base target : List PathPart) → List PathPart
  | [], target => target
  | base, [] => base.map fun _ => .up
  | b :: base, t :: target =>
    if b = t then relativeParts base target else .up :: base.map (fun _ => .up) ++ t :: target

/-- The parts of a location. -/
def locationParts (loc : Location) : List PathPart := .root :: loc.map .name

/-- The parts of a path that is followed from a location. -/
def absoluteParts (loc : Location) (path : String) : List PathPart :=
  match pathParts path with
  | .root :: rest => .root :: rest
  | .here :: rest => locationParts loc ++ rest
  | parts => locationParts loc ++ parts

/-- A settings file that was found: how it is reached, and how it is shown. -/
structure SettingsFile where
  /-- the text, or why there is none -/
  content : Except FileError String
  /-- the path as seen from the working directory -/
  shown : String

/-- The first file that a path leads to from the working directory or a directory above
it. -/
def Project.settingsFile? (p : Project) (path : String) : Option SettingsFile :=
  ((ancestors p.cwd).find? fun loc => { p with cwd := loc }.isFile path).map fun loc => {
    content := { p with cwd := loc }.readText path
    shown := renderParts (relativeParts (locationParts p.cwd) (absoluteParts loc path)) }

/-- The path of the settings file in use: below the nearest directory that has one for
it. -/
def Project.settingsPathInUse (p : Project) : String :=
  match (ancestors p.cwd).find? fun loc => p.hasDirectory (loc ++ [settingsDirectory]) with
  | some loc => renderParts (locationParts loc ++ pathParts settingsPath)
  | none => settingsPath

/-! ## Loading -/

/-- What a settings file sets. -/
def SettingsFile.datum (f : SettingsFile) : Except LoadError Datum :=
  match f.content with
  | .error cause => .error (.unreadable f.shown cause)
  | .ok text => match (Toml.readToml? text).bind Datum.untaggedEntries? with
    | none => .error (.notToml f.shown)
    | some entries => .ok (.map entries)

/-- Settings from what a file and the environment set. -/
def Settings.ofLayers (file : Datum) (shown : String) (env : Datum) : Except LoadError Settings :=
  let merged := env.over (file.over (Settings.datum {}))
  match Settings.decode .layers merged with
  | .ok s => .ok s
  | .error e =>
    let origin :=
      if (env.at? e.path).isSome then some Origin.environment
      else if (file.at? e.path).isSome then some (Origin.file shown)
      else none
    .error (.misfit origin e)

/-- Load settings with the file that a path leads to. A fault in the environment comes
before what is wrong with the file. -/
def Settings.loadFrom (p : Project) (env : Environment) (path : String) :
    Except (Halt LoadError) Settings := do
  let set ← Halt.ofFault (environmentDatum env)
  match p.settingsFile? path with
  | none => Halt.ofError (Settings.ofLayers (.map []) "" set)
  | some f =>
    let file ← Halt.ofError f.datum
    Halt.ofError (Settings.ofLayers file f.shown set)

/-- Load settings with the file in use. -/
def Settings.load (p : Project) (env : Environment) : Except (Halt LoadError) Settings :=
  Settings.loadFrom p env p.settingsPathInUse

/-! ## Saving -/

/-- Write a text to a file below directories that are made if they are missing. They
stay if the file cannot be written. -/
def Project.writeBelow (p : Project) (directory path text : String) :
    Except SaveError Unit × Project :=
  match p.makeDirectories directory with
  | (.error cause, q) => (.error (.file cause), q)
  | (.ok (), q) =>
    match q.writeText path text with
    | .error cause => (.error (.file cause), q)
    | .ok r => (.ok (), r)

/-- Write settings to a file. -/
def Settings.save (s : Settings) (p : Project) (path : String) : Except SaveError Unit × Project :=
  match parentPath? path with
  | none => (.error .invalidPath, p)
  | some directory => p.writeBelow directory path s.toml

/-- Write the settings file of a new project. A file that is there stays unless `force`
is set. -/
def initSettings (p : Project) (path : String) (force : Bool) : Except SaveError Unit × Project :=
  if !force && p.has path then (.error .alreadyThere, p)
  else p.writeBelow ((parentPath? path).getD "") path settingsTemplate

end ImportOrder

import ImportOrder.Category
import ImportOrder.Rule
import ImportOrder.Text.ControlSequence

/-!
# The command line

What the arguments of the program ask for. Arguments are read from left to right.
Options that concern every command may stand before or after the command's name; a
second occurrence in the same part is an error, and for the path of the settings file
the one after the name counts.

A value is checked only once the next argument has been recognised: of two things that
are wrong, an argument that means nothing is reported before a bad value in front of it.

* `Invocation` — a command with its options;
* `UsageError` — why the arguments make no sense;
* `readArguments` — read them.
-/

namespace ImportOrder

/-- What the command line changes in the rule's options. -/
structure RuleOverrides where
  /-- imports may come after other statements -/
  noImportsAtStart : Bool := false
  /-- the order of the categories, if it is given -/
  sortOrder : Option (List Category) := none
  /-- demand a blank line between categories -/
  enforceBlankLine : Bool := false
  /-- demand a blank line after the imports -/
  enforceTrailingLine : Bool := false
  /-- tell upper case from lower case -/
  caseSensitive : Bool := false
deriving DecidableEq, Repr

/-- The options with the changes. -/
def RuleOverrides.apply (r : RuleOverrides) (o : RuleOptions) : RuleOptions where
  importsAtStart := o.importsAtStart && !r.noImportsAtStart
  sortOrder := r.sortOrder.getD o.sortOrder
  enforceBlankLine := o.enforceBlankLine || r.enforceBlankLine
  enforceTrailingLine := o.enforceTrailingLine || r.enforceTrailingLine
  ignoreCase := o.ignoreCase && !r.caseSensitive

/-- What the program is to do. -/
inductive Command where
  /-- write the settings file of a new project -/
  | init (force : Bool)
  /-- report problems in files and directories -/
  | check (paths : List String) (overrides : RuleOverrides)
  /-- mend a file -/
  | fix (file : String) (write : Bool) (overrides : RuleOverrides)
  /-- show the settings -/
  | config
deriving DecidableEq, Repr

/-- A command with the options that concern every command. -/
structure Invocation where
  /-- the settings file to use -/
  config : Option String := none
  /-- results are shown as JSON -/
  json : Bool := false
  /-- progress is logged -/
  debug : Bool := false
  /-- the command -/
  command : Command
deriving DecidableEq, Repr

/-- What the arguments ask for. -/
inductive Request where
  /-- run a command -/
  | run (invocation : Invocation)
  /-- tell the version -/
  | version
  /-- explain how the program is used; `missing` says that nothing else was asked for -/
  | help (missing : Bool)
deriving DecidableEq, Repr

/-- Why the arguments make no sense. -/
inductive UsageError where
  /-- there is no such command -/
  | unrecognizedCommand (name : String)
  /-- no command was given -/
  | missingCommand
  /-- an argument that means nothing here -/
  | unexpectedArgument (argument : String)
  /-- an argument that has to be there is not -/
  | missingArguments
  /-- an option has no value -/
  | missingValue (option : String)
  /-- a flag has a value -/
  | unexpectedValue (value flag : String)
  /-- an option was given twice -/
  | repeated (option : String)
  /-- the value of an option makes no sense -/
  | invalidValue (value option reason : String)
deriving DecidableEq, Repr

/-- The text shown to the user. What it quotes from the arguments is emphasized. -/
def UsageError.message : UsageError → String
  | .unrecognizedCommand name => s!"unrecognized subcommand '{emphasized name}'"
  | .missingCommand => "'importsort' requires a subcommand but one was not provided"
  | .unexpectedArgument argument => s!"unexpected argument '{emphasized argument}' found"
  | .missingArguments => "the following required arguments were not provided:"
  | .missingValue option => s!"a value is required for '{option}' but none was supplied"
  | .unexpectedValue value flag =>
    s!"unexpected value '{emphasized value}' for '{flag}' found; no more were expected"
  | .repeated option => s!"the argument '{option}' cannot be used multiple times"
  | .invalidValue value option reason =>
    s!"invalid value '{emphasized value}' for '{option}': {reason}"

/-! ## Options -/

/-- The options of all commands. -/
inductive Switch where
  /-- the settings file to use -/
  | config
  /-- results as JSON -/
  | json
  /-- log progress -/
  | debug
  /-- explain how the program is used -/
  | help
  /-- tell the version -/
  | version
  /-- overwrite a settings file -/
  | force
  /-- write the mended file -/
  | write
  /-- imports may come late -/
  | noImportsAtStart
  /-- the order of the categories -/
  | sortOrder
  /-- a blank line between categories -/
  | enforceBlankLine
  /-- a blank line after the imports -/
  | enforceTrailingLine
  /-- upper case differs from lower case -/
  | caseSensitive
deriving DecidableEq, Repr

namespace Switch

/-- The long name of an option. -/
def long : Switch → String
  | .config => "config"
  | .json => "json"
  | .debug => "debug"
  | .help => "help"
  | .version => "version"
  | .force => "force"
  | .write => "write"
  | .noImportsAtStart => "no-imports-at-start"
  | .sortOrder => "sort-order"
  | .enforceBlankLine => "enforce-blank-line"
  | .enforceTrailingLine => "enforce-trailing-line"
  | .caseSensitive => "case-sensitive"

/-- The letter of an option. -/
def short? : Switch → Option Char
  | .config => some 'c'
  | .help => some 'h'
  | .version => some 'V'
  | .force => some 'f'
  | .write => some 'w'
  | _ => none

/-- The option has a value. -/
def takesValue (s : Switch) : Bool := s == .config || s == .sortOrder

/-- The option as it is named in complaints. -/
def shown : Switch → String
  | .config => "--config <CONFIG>"
  | .sortOrder => "--sort-order <SORT_ORDER>"
  | s => "--" ++ s.long

/-- The options that concern every command. -/
def everywhere : List Switch := [.config, .json, .debug, .help]

/-- The options of the rule. -/
def ofRule : List Switch :=
  [.noImportsAtStart, .sortOrder, .enforceBlankLine, .enforceTrailingLine, .caseSensitive]

end Switch

/-- The arguments without a name that a part of the command line takes. -/
inductive Plain where
  /-- the name of a command -/
  | command
  /-- none -/
  | nothing
  /-- one, which is called so in complaints -/
  | one (shown : String)
  /-- any number, which are called so in complaints -/
  | many (shown : String)
deriving DecidableEq, Repr

/-- What can stand in a part of the command line. -/
structure Part where
  /-- the options -/
  switches : List Switch
  /-- the arguments without a name -/
  plain : Plain
deriving Repr

/-- The names of the commands. -/
def commandNames : List String := ["init", "check", "fix", "config", "help"]

/-- The part before the name of the command. -/
def frontPart : Part := ⟨.version :: Switch.everywhere, .command⟩

/-- The part after the name of a command. -/
def commandPart (name : String) : Part :=
  match name with
  | "init" => ⟨.force :: Switch.everywhere, .nothing⟩
  | "check" => ⟨Switch.everywhere ++ Switch.ofRule, .many "[PATHS]..."⟩
  | "fix" => ⟨.write :: Switch.everywhere ++ Switch.ofRule, .one "<FILE>"⟩
  | _ => ⟨Switch.everywhere, .nothing⟩

/-! ## Reading -/

/-- What has been read but not yet checked. -/
inductive Pending where
  /-- an option that waits for its value, or has it -/
  | option (switch : Switch) (value : Option String)
  /-- arguments without a name -/
  | plain (shown : String) (values : List String)
deriving DecidableEq, Repr

/-- What has been read of a part. -/
structure Reading where
  /-- the flags that were given -/
  flags : List Switch := []
  /-- the settings file to use -/
  config : Option String := none
  /-- the order of the categories -/
  sortOrder : Option (List Category) := none
  /-- the arguments without a name -/
  plain : List String := []
  /-- the number of them that have been read -/
  count : Nat := 0
  /-- what has not been checked yet -/
  pending : Option Pending := none
deriving DecidableEq, Repr

/-- How the reading of a part ends early. -/
inductive Stop where
  /-- with an error -/
  | error (cause : UsageError)
  /-- because something else than a command is asked for -/
  | request (request : Request)
deriving DecidableEq, Repr

/-- The outcome of reading some arguments. -/
abbrev Reads (α : Type) := Except Stop α

/-- An error in the arguments. -/
def usageError {α : Type} (cause : UsageError) : Reads α := .error (.error cause)

/-- Read the names of categories, separated by commas. -/
def readCategories (value : String) : Reads (List Category) :=
  (value.splitOn ",").mapM fun name =>
    match Category.ofName name with
    | .ok c => .ok c
    | .error e => usageError (.invalidValue name Switch.sortOrder.shown e.message)

namespace Reading

/-- Take the value of an option. -/
def takeValue (r : Reading) (switch : Switch) (value : String) : Reads Reading :=
  if switch = .config then
    if r.config.isSome then usageError (.repeated switch.shown)
    else if value = "" then usageError (.missingValue switch.shown)
    else .ok { r with config := some value }
  else do
    let categories ← readCategories value
    return { r with sortOrder := some (r.sortOrder.getD [] ++ categories) }

/-- Check what is pending. -/
def settle (r : Reading) : Reads Reading :=
  match r.pending with
  | none => .ok r
  | some (.option switch none) => usageError (.missingValue switch.shown)
  | some (.option switch (some value)) => { r with pending := none }.takeValue switch value
  | some (.plain shown values) =>
    if values.contains "" then usageError (.missingValue shown)
    else .ok { r with pending := none, plain := r.plain ++ values }

/-- Take a flag. -/
def takeFlag (r : Reading) (switch : Switch) : Reads Reading := do
  let r ← r.settle
  if switch = .version then .error (.request .version)
  else if switch = .help then .error (.request (.help false))
  else if switch ∈ r.flags then usageError (.repeated switch.shown)
  else return { r with flags := switch :: r.flags }

/-- Take an option with a value attached to it, or let it wait for one. -/
def takeOption (r : Reading) (switch : Switch) (attached : Option String) : Reads Reading := do
  let r ← r.settle
  match attached with
  | some value => r.takeValue switch value
  | none => return { r with pending := some (.option switch none) }

/-- Take a long option. -/
def takeLong (r : Reading) (part : Part) (name : String) (attached : Option String) :
    Reads Reading :=
  match part.switches.find? (·.long = name) with
  | none => usageError (.unexpectedArgument ("--" ++ name))
  | some switch =>
    if switch.takesValue then r.takeOption switch attached
    else match attached with
      | some value => usageError (.unexpectedValue value switch.shown)
      | none => r.takeFlag switch

/-- Take a row of letters. An option among them that has a value takes the rest of the
row. -/
def takeShort (part : Part) (r : Reading) : List Char → Reads Reading
  | [] => .ok r
  | c :: rest =>
    match part.switches.find? (·.short? = some c) with
    | none => usageError (.unexpectedArgument (String.ofList ['-', c]))
    | some switch =>
      if switch.takesValue then
        r.takeOption switch (match rest with
          | [] => none
          | '=' :: value => some (String.ofList value)
          | value => some (String.ofList value))
      else do takeShort part (← r.takeFlag switch) rest

/-- Take an argument without a name. -/
def takePlain (r : Reading) (part : Part) (argument : String) (afterDashes : Bool) :
    Reads Reading :=
  match part.plain with
  | .command =>
    if afterDashes && commandNames.contains argument then usageError (.unexpectedArgument argument)
    else usageError (.unrecognizedCommand argument)
  | .nothing => usageError (.unexpectedArgument argument)
  | .one shown =>
    if r.count ≠ 0 then usageError (.unexpectedArgument argument)
    else do
      let r ← r.settle
      return { r with pending := some (.plain shown [argument]), count := 1 }
  | .many shown =>
    match r.pending with
    | some (.plain _ values) => .ok { r with pending := some (.plain shown (values ++ [argument])) }
    | _ => do
      let r ← r.settle
      return { r with pending := some (.plain shown [argument]), count := r.count + 1 }

/-- An option waits for its value. -/
def awaits (r : Reading) : Option Switch :=
  match r.pending with
  | some (.option switch none) => some switch
  | _ => none

end Reading

/-- A long option: its name and the value attached to it. -/
def longOption? (argument : List Char) : Option (String × Option String) :=
  match argument with
  | '-' :: '-' :: name@(_ :: _) =>
    some (String.ofList (name.takeWhile (· != '=')), match name.dropWhile (· != '=') with
      | _ :: value => some (String.ofList value)
      | [] => none)
  | _ => none

/-- A row of letters. -/
def shortOptions? (argument : List Char) : Option (List Char) :=
  match argument with
  | '-' :: letters@(c :: _) => if c == '-' then none else some letters
  | _ => none

/-- Read a part of the command line. The part before the command ends with its name; the
name and the arguments after it are returned with what was read. -/
def readPart (part : Part) (afterDashes : Bool) (r : Reading) :
    List String → Reads (Reading × Option (String × List String))
  | [] => .ok (r, none)
  | argument :: rest =>
    if afterDashes then do readPart part true (← r.takePlain part argument true) rest
    else if part.plain = .command ∧ r.awaits = none ∧ argument ∈ commandNames then
      .ok (r, some (argument, rest))
    else if argument = "--" then readPart part true r rest
    else
      match longOption? argument.toList, shortOptions? argument.toList with
      | some (name, attached), _ => do readPart part false (← r.takeLong part name attached) rest
      | none, some letters => do readPart part false (← Reading.takeShort part r letters) rest
      | none, none =>
        match r.awaits with
        | some switch =>
          readPart part false { r with pending := some (.option switch (some argument)) } rest
        | none => do readPart part false (← r.takePlain part argument false) rest

/-- What the options of the rule change. -/
def Reading.overrides (r : Reading) : RuleOverrides where
  noImportsAtStart := r.flags.contains .noImportsAtStart
  sortOrder := r.sortOrder
  enforceBlankLine := r.flags.contains .enforceBlankLine
  enforceTrailingLine := r.flags.contains .enforceTrailingLine
  caseSensitive := r.flags.contains .caseSensitive

/-- The command of a name with what was read after it. -/
def Reading.command (r : Reading) (name : String) : Reads Command :=
  match name with
  | "init" => .ok (.init (r.flags.contains .force))
  | "check" => .ok (.check (if r.plain.isEmpty then ["."] else r.plain) r.overrides)
  | "fix" => match r.plain with
    | [] => usageError .missingArguments
    | file :: _ => .ok (.fix file (r.flags.contains .write) r.overrides)
  | _ => .ok .config

/-- What comes after the command `help`: the name of a command, or nothing. -/
def readHelp : List String → Reads Request
  | [] => .ok (.help false)
  | [name] =>
    if name ∈ commandNames then .ok (.help false) else usageError (.unrecognizedCommand name)
  | name :: other :: _ =>
    if name ∈ commandNames then usageError (.unrecognizedCommand other)
    else usageError (.unrecognizedCommand name)

/-- Read all arguments. -/
def readRequest (arguments : List String) : Reads Request := do
  match ← readPart frontPart false {} arguments with
  | (_, some ("help", rest)) => readHelp rest
  | (front, some (name, rest)) =>
    let (r, _) ← readPart (commandPart name) false {} rest
    let r ← r.settle
    let command ← r.command name
    let front ← front.settle
    return .run {
      config := r.config.or front.config
      json := r.flags.contains .json || front.flags.contains .json
      debug := r.flags.contains .debug || front.flags.contains .debug
      command := command }
  | (front, none) =>
    let front ← front.settle
    if front.flags.isEmpty && front.config.isNone then return .help true
    else usageError .missingCommand

/-- What the arguments ask for, or why they make no sense. -/
def readArguments (arguments : List String) : Except UsageError Request :=
  match readRequest arguments with
  | .ok request => .ok request
  | .error (.request request) => .ok request
  | .error (.error cause) => .error cause

end ImportOrder

import ImportOrder.Toml.Value

/-!
# Writing TOML

A text is written in the first form that suits it: between double quotes if nothing in
it needs a backslash, between single quotes, over several lines in either kind of
quotes, and else between double quotes with whatever backslashes it takes. A sequence of
two or more elements has one element on a line.

A `Document` has values and tables of values. The values are written first, and an empty
line comes before each table.
-/

namespace ImportOrder.Toml

/-- A control character that is neither a tab nor a line break. -/
def isControl (c : Char) : Bool := (c.toNat < 0x20 && c != '\t' && c != '\n') || c.toNat == 0x7F

/-- The length of the longest row of a character. -/
def longestRow (q : Char) (current best : Nat) : List Char → Nat
  | [] => max current best
  | c :: rest =>
    if c == q then longestRow q (current + 1) best rest else longestRow q 0 (max current best) rest

/-- The forms of a written text. -/
inductive Form where
  /-- between double quotes -/
  | basic
  /-- between single quotes -/
  | literal
  /-- between three double quotes -/
  | multilineBasic
  /-- between three single quotes -/
  | multilineLiteral
deriving DecidableEq, Repr

/-- The form in which a text is written. -/
def formOf (cs : List Char) : Form :=
  let control := cs.any isControl
  let broken := cs.contains '\n'
  if !control && !broken && !cs.contains '\\' && !cs.contains '"' then .basic
  else if !control && !broken && !cs.contains '\'' then .literal
  else if !control && !cs.contains '\\' && longestRow '"' 0 0 cs ≤ 2 then .multilineBasic
  else if !control && longestRow '\'' 0 0 cs ≤ 2 then .multilineLiteral
  else if broken then .multilineBasic
  else .basic

/-- A hexadecimal digit, upper case. -/
def upperHex (n : Nat) : Char := (Nat.digitChar n).toUpper

/-- A character between double quotes, quotes apart. -/
def escaped (oneLine : Bool) (c : Char) : List Char :=
  if c == '\x08' then ['\\', 'b']
  else if c == '\t' then ['\\', 't']
  else if c == '\n' && oneLine then ['\\', 'n']
  else if c == '\x0c' then ['\\', 'f']
  else if c == '\r' then ['\\', 'r']
  else if c == '\\' then ['\\', '\\']
  else if isControl c then ['\\', 'u', '0', '0', upperHex (c.toNat / 16), upperHex (c.toNat % 16)]
  else [c]

/-- The characters between double quotes. `free` more quotes in a row need no
backslash. -/
def escapedFrom (oneLine : Bool) : (free : Nat) → List Char → List Char
  | _, [] => []
  | free, c :: rest =>
    let most := if oneLine then 0 else 2
    if c == '"' then
      match free with
      | 0 => '\\' :: '"' :: escapedFrom oneLine most rest
      | n + 1 => '"' :: escapedFrom oneLine n rest
    else escaped oneLine c ++ escapedFrom oneLine most rest

/-- The line break with which a text over several lines begins. -/
def opening (cs : List Char) : List Char := if cs.contains '\n' then ['\n'] else []

/-- A text in a form. -/
def writeForm (cs : List Char) : Form → List Char
  | .basic => '"' :: escapedFrom true 0 cs ++ ['"']
  | .literal => '\'' :: cs ++ ['\'']
  | .multilineBasic => ['"', '"', '"'] ++ opening cs ++ escapedFrom false 2 cs ++ ['"', '"', '"']
  | .multilineLiteral => ['\'', '\'', '\''] ++ opening cs ++ cs ++ ['\'', '\'', '\'']

/-- A text as it is written. -/
def writeString (s : String) : String := String.ofList (writeForm s.toList (formOf s.toList))

/-- A sequence of texts as it is written. -/
def writeStrings (items : List String) : String :=
  match items with
  | [] => "[]"
  | [s] => "[" ++ writeString s ++ "]"
  | _ => "[\n" ++ String.join (items.map fun s => "    " ++ writeString s ++ ",\n") ++ "]"

/-- A truth value as it is written. -/
def writeFlag (b : Bool) : String := if b then "true" else "false"

/-! ## Documents -/

/-- A value that can be written. -/
inductive Value where
  /-- a truth value -/
  | flag (value : Bool)
  /-- a whole number -/
  | number (value : Nat)
  /-- a sequence of texts -/
  | texts (items : List String)

/-- A value as data. -/
@[simp]
def Value.datum : Value → Datum
  | .flag b => .bool b
  | .number n => .int n
  | .texts items => .list (items.map .str)

/-- A value as it is written. -/
@[simp]
def Value.write : Value → String
  | .flag b => writeFlag b
  | .number n => toString n
  | .texts items => writeStrings items

/-- The entries of a table. -/
abbrev Table := List (String × Value)

/-- A table as data. -/
def Table.datum (t : Table) : Datum := .map (t.map fun e => (e.1, e.2.datum))

/-- The lines of a table. -/
def Table.write (t : Table) : String :=
  String.join (t.map fun e => e.1 ++ " = " ++ e.2.write ++ "\n")

/-- What stands under a key of a document. -/
inductive Entry where
  /-- a value -/
  | value (v : Value)
  /-- a table -/
  | table (t : Table)

/-- A part of a document as data. -/
@[simp]
def Entry.datum : Entry → Datum
  | .value v => v.datum
  | .table t => t.datum

/-- The parts of a document. -/
abbrev Document := List (String × Entry)

namespace Document

/-- A document as data. -/
def datum (d : Document) : Datum := .map (d.map fun e => (e.1, e.2.datum))

/-- The values that are in no table. -/
def values (d : Document) : Table :=
  d.filterMap fun
    | (key, .value v) => some (key, v)
    | (_, .table _) => none

/-- The tables with their names. -/
def tables (d : Document) : List (String × Table) :=
  d.filterMap fun
    | (_, .value _) => none
    | (key, .table t) => some (key, t)

/-- The text of a document. -/
def write (d : Document) : String :=
  let first := if d.values.isEmpty then [] else [d.values.write]
  "\n".intercalate (first ++ d.tables.map fun t => "[" ++ t.1 ++ "]\n" ++ t.2.write)

end Document

end ImportOrder.Toml

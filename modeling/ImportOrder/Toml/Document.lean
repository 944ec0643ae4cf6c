import ImportOrder.Toml.Value

/-!
# TOML documents

A document is a sequence of lines: a key with a value, the header of a table, or the
header of one more table of an array. `readToml?` reads the lines and puts their
contents together. A name may be defined only once, and the rules that follow from this
depend on how a table came to be (`Opened`):

* a header may define a table that so far exists only because a longer header went
  through it;
* a dotted key may go through tables that dotted keys have made, and no others;
* no header may define a table that dotted keys have made, or go through a value.
-/

namespace ImportOrder.Toml

/-- One line of a document. -/
inductive Line where
  /-- a path of keys and a value -/
  | pair (keys : List String) (value : Datum)
  /-- the header of a table -/
  | header (keys : List String)
  /-- the header of one more table of an array -/
  | arrayHeader (keys : List String)

/-- How a table came to be. -/
inductive Opened where
  /-- by its own header -/
  | byHeader
  /-- because a header went through it -/
  | byPassage
  /-- by a dotted key -/
  | byDots
deriving DecidableEq

/-- What stands under a key while a document is put together. -/
inductive Item where
  /-- a value -/
  | value (datum : Datum)
  /-- a table -/
  | table (opened : Opened) (entries : List (String × Item))
  /-- an array of tables, the last of which is still open -/
  | tables (elements : List (List (String × Item)))

/-- The entries of a table while a document is put together. -/
abbrev Entries := List (String × Item)

/-! ## Putting a document together -/

/-- Change what is under a path of keys by which a header can go. -/
def underHeader (change : Entries → Option Entries) : List String → Entries → Option Entries
  | [], entries => change entries
  | key :: keys, entries =>
    match entry? key entries with
    | none =>
      (underHeader change keys []).map fun below => putEntry key (.table .byPassage below) entries
    | some (.value _) => none
    | some (.table opened below) =>
      (underHeader change keys below).map fun below => putEntry key (.table opened below) entries
    | some (.tables elements) =>
      match elements.getLast? with
      | none => none
      | some last => (underHeader change keys last).map fun last =>
        putEntry key (.tables (elements.dropLast ++ [last])) entries

/-- Put a value under a path of keys in a table. -/
def putPair (value : Datum) : (opened : Opened) → List String → Entries → Option Entries
  | _, [], _ => none
  | opened, [key], entries =>
    match opened, entry? key entries with
    | .byPassage, _ => none
    | _, some _ => none
    | _, none => some (putEntry key (.value value) entries)
  | _, key :: keys, entries =>
    match entry? key entries with
    | none => (putPair value .byDots keys []).map fun below =>
      putEntry key (.table .byDots below) entries
    | some (.value _) | some (.table .byHeader _) => none
    | some (.table opened below) => (putPair value opened keys below).map fun below =>
      putEntry key (.table opened below) entries
    | some (.tables elements) =>
      match elements.getLast?, keys with
      | none, _ | _, [_] => none
      | some last, keys => (putPair value .byHeader keys last).map fun last =>
        putEntry key (.tables (elements.dropLast ++ [last])) entries

/-- Define a table by its header. -/
def defineTable (key : String) (entries : Entries) : Option Entries :=
  match entry? key entries with
  | none => some (putEntry key (.table .byHeader []) entries)
  | some (.table .byPassage below) => some (putEntry key (.table .byHeader below) entries)
  | some _ => none

/-- Add one more table to an array. -/
def addTable (key : String) (entries : Entries) : Option Entries :=
  match entry? key entries with
  | none => some (putEntry key (.tables [[]]) entries)
  | some (.tables elements) => some (putEntry key (.tables (elements ++ [[]])) entries)
  | some _ => none

/-- A document while it is put together: its contents and the header in force. -/
structure Draft where
  /-- the contents of the document -/
  root : Entries := []
  /-- the path of the last header -/
  current : List String := []

/-- Add one line. -/
def Draft.add (d : Draft) : Line → Option Draft
  | .pair keys value => do
    let root ← underHeader (putPair value .byHeader keys) d.current d.root
    some { d with root := root }
  | .header keys => do
    let root ← underHeader (defineTable (keys.getLastD "")) keys.dropLast d.root
    some ⟨root, keys⟩
  | .arrayHeader keys => do
    let root ← underHeader (addTable (keys.getLastD "")) keys.dropLast d.root
    some ⟨root, keys⟩

mutual

/-- The value that stands under a key. -/
def Item.datum : Item → Datum
  | .value d => d
  | .table _ entries => .map (entriesData entries)
  | .tables elements => .list (elementsData elements)

/-- The values of a table. -/
def entriesData : List (String × Item) → List (String × Datum)
  | [] => []
  | (k, v) :: rest => (k, v.datum) :: entriesData rest

/-- The tables of an array. -/
def elementsData : List (List (String × Item)) → List Datum
  | [] => []
  | e :: rest => .map (entriesData e) :: elementsData rest

end

/-! ## Reading the lines -/

/-- The rest after the end of a line: blanks, perhaps a comment, and a line break or the
end. -/
def lineEnd? (cs : List Char) : Option (List Char) :=
  let rest := cs.dropWhile isBlank
  let rest := match rest with
    | '#' :: more => more.dropWhile isPlainChar
    | _ => rest
  match rest with
  | [] => some []
  | _ => lineBreak? rest

/-- One line that holds something, up to its end. -/
def line? : List Char → Option (Line × List Char)
  | '[' :: '[' :: rest => do
    let (keys, rest) ← keys? rest
    let rest ← expect? ']' rest
    let rest ← expect? ']' rest
    some (.arrayHeader keys, ← lineEnd? rest)
  | '[' :: rest => do
    let (keys, rest) ← keys? rest
    let rest ← expect? ']' rest
    some (.header keys, ← lineEnd? rest)
  | cs => do
    let (keys, rest) ← keys? cs
    let rest ← expect? '=' rest
    let (value, rest) ← value? (maxDepth - 1) (rest.dropWhile isBlank)
    some (.pair keys value, ← lineEnd? rest)

/-- The lines of a text that hold something; `fuel` bounds the number of lines. -/
def lines? : Nat → List Char → Option (List Line)
  | 0, _ => none
  | fuel + 1, cs =>
    match cs.dropWhile isBlank with
    | [] => some []
    | '#' :: more => do lines? fuel (← lineEnd? ('#' :: more))
    | '\n' :: rest => lines? fuel rest
    | '\r' :: rest => do lines? fuel (← lineBreak? ('\r' :: rest))
    | rest => do
      let (first, rest) ← line? rest
      let others ← lines? fuel rest
      some (first :: others)

/-- The lines of a document. A byte order mark may come first. -/
def documentLines? (text : String) : Option (List Line) :=
  let cs := text.toList
  let cs := match cs with
    | '\uFEFF' :: rest => rest
    | _ => cs
  lines? (cs.length + 1) cs

/-- The contents of a document, if the text is one. -/
def readToml? (text : String) : Option (List (String × Datum)) := do
  let lines ← documentLines? text
  let draft ← lines.foldlM Draft.add {}
  some (entriesData draft.root)

end ImportOrder.Toml

import ImportOrder.Datum

/-!
# Tagged values

Two keys are reserved in settings files. A table with `valueKey` stands for the value
under that key, and `tagKey` would mark it with a number for internal use. No file can
hold such a number, so a table that has the key is refused. The outermost table is a
list of settings and not a value: there both keys are like any other.
-/

namespace ImportOrder

/-- The key of a tag. -/
def tagKey : String := "___figment_value_id"

/-- The key of the value that a table stands for. -/
def valueKey : String := "___figment_value_value"

namespace Datum

mutual

/-- The value with every table replaced that stands for another value. There is none if
a table has a tag. -/
def untagged? : Datum → Option Datum
  | .map entries =>
    match untaggedEntries? entries with
    | none => none
    | some entries =>
      match entry? tagKey entries, entry? valueKey entries with
      | some _, _ => none
      | none, some d => some d
      | none, none => some (.map entries)
  | .list items => (untaggedItems? items).map .list
  | d => some d

/-- The items of a list, each on its own. -/
def untaggedItems? : List Datum → Option (List Datum)
  | [] => some []
  | d :: rest =>
    match untagged? d, untaggedItems? rest with
    | some d, some rest => some (d :: rest)
    | _, _ => none

/-- The entries of a table, each on its own. -/
def untaggedEntries? : List (String × Datum) → Option (List (String × Datum))
  | [] => some []
  | (k, d) :: rest =>
    match untagged? d, untaggedEntries? rest with
    | some d, some rest => some ((k, d) :: rest)
    | _, _ => none

end

end Datum

end ImportOrder

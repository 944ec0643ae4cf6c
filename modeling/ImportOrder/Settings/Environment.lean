import ImportOrder.Datum.Inline
import ImportOrder.Datum.Overlay
import ImportOrder.Text.Lowercase

/-!
# Settings from the environment

A variable whose name starts with `IS_`, in any case, sets a value. The rest of the
name, in lower case, is the path of the value: two underscores, like a dot, separate its
keys, and a single underscore is part of a key. The variables are taken in order of
their names, each over those before it.
-/

namespace ImportOrder

/-- The variables of a process. -/
abbrev Environment := List (String × String)

/-- Two underscores, from left to right, become a dot. -/
def dotted : List Char → List Char
  | '_' :: '_' :: rest => '.' :: dotted rest
  | c :: rest => c :: dotted rest
  | [] => []

/-- The rest of a name that starts with `IS_`. -/
def settingName? : List Char → Option (List Char)
  | i :: s :: '_' :: rest => if i.toLower == 'i' && s.toLower == 's' then some rest else none
  | _ => none

/-- The path that a variable sets, if its name is that of a setting. No key in it is
empty. -/
def variablePath? (name : String) : Option (List String) := do
  let rest ← settingName? (trimmed name.toList)
  let text := trimmed (dotted (lowercase (String.ofList rest)).toList)
  let path := (String.ofList text).splitOn "."
  if path.contains "" then none else some path

/-- What a variable sets, if anything. -/
def variableDatum (v : String × String) : Except Fault (Option Datum) :=
  match variablePath? v.1 with
  | none => .ok none
  | some path => (inlineDatum v.2).map fun d => some (Datum.nested path d)

/-- What the environment sets. -/
def environmentDatum (env : Environment) : Except Fault Datum := do
  let layers ← (sortedByKey env).mapM variableDatum
  return (layers.filterMap id).foldl (fun below d => d.over below) (.map [])

end ImportOrder

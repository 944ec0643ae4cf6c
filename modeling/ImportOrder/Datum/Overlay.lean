import ImportOrder.Datum

/-!
# One datum over another

Settings come in layers. `Datum.over` puts a later layer over an earlier one: maps are
joined entry by entry, all the way down, and whatever else the later layer has replaces
what was there. A sequence is replaced as a whole.
-/

namespace ImportOrder

mutual

/-- A datum put over another one. -/
def Datum.over : (later earlier : Datum) → Datum
  | .map entries, .map below => .map (entriesOver entries below)
  | later, _ => later

/-- Entries put over other entries. -/
def entriesOver : (later earlier : List (String × Datum)) → List (String × Datum)
  | [], earlier => earlier
  | (key, value) :: rest, earlier =>
    entriesOver rest (putEntry key
      (match entry? key earlier with
      | some below => value.over below
      | none => value) earlier)

end

/-- A value below a path of keys. -/
def Datum.nested : List String → Datum → Datum
  | [], d => d
  | key :: path, d => .map [(key, nested path d)]

@[simp] theorem entriesOver_nil (earlier : List (String × Datum)) :
    entriesOver [] earlier = earlier := by
  simp [entriesOver]

end ImportOrder

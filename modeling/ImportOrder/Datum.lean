/-!
# Data

A `Datum` is a value whose shape is known only once it has been read: a JSON document, a
settings file, a value from the environment. Three notations are read into it and two
are written from it, and the settings are decoded from it.

A map keeps its entries in the order in which they were put; where an order by key
matters, `sortedByKey` supplies it. Keys are compared by code point, which is also the
order of their UTF-8 bytes.
-/

namespace ImportOrder

/-- A value of unknown shape. -/
inductive Datum where
  /-- the absent value -/
  | null
  /-- a truth value -/
  | bool (value : Bool)
  /-- a whole number -/
  | int (value : Int)
  /-- a whole number that was read as one without sign -/
  | nat (value : Nat)
  /-- a binary number with a fraction -/
  | float (value : Float)
  /-- a text -/
  | str (value : String)
  /-- a text of one character that was read as such -/
  | char (value : Char)
  /-- a sequence of values -/
  | list (items : List Datum)
  /-- named values, each name once -/
  | map (entries : List (String × Datum))
deriving Inhabited, Repr, BEq

/-- Signed whole numbers of 64 bits are below this bound, `2 ^ 63`. -/
def signedBound : Nat := 0x8000000000000000

/-- Unsigned whole numbers of 64 bits are below this bound, `2 ^ 64`. -/
def unsignedBound : Nat := UInt64.size

/-- Put a value under a key: in its old place if the key is there, else at the end. -/
def putEntry {α : Type} (key : String) (value : α) : List (String × α) → List (String × α)
  | [] => [(key, value)]
  | (k, v) :: rest => if k = key then (k, value) :: rest else (k, v) :: putEntry key value rest

/-- The value under a key. -/
def entry? {α : Type} (key : String) : List (String × α) → Option α
  | [] => none
  | (k, v) :: rest => if k = key then some v else entry? key rest

/-- The entries in order of their keys. -/
def sortedByKey {α : Type} (entries : List (String × α)) : List (String × α) :=
  entries.mergeSort fun a b => decide (a.1 ≤ b.1)

namespace Datum

/-- The value under a key of a map. -/
def get? (key : String) : Datum → Option Datum
  | .map entries => entry? key entries
  | _ => none

/-- The value at one step of a path: under a key of a map, or at a place in a
sequence. -/
def step? (key : String) : Datum → Option Datum
  | .map entries => entry? key entries
  | .list items => (items.zipIdx.find? fun (_, i) => toString i = key).map (·.1)
  | _ => none

/-- The value at the end of a path. -/
def at? : List String → Datum → Option Datum
  | [], d => some d
  | key :: path, d => (d.step? key).bind (at? path)

end Datum

end ImportOrder

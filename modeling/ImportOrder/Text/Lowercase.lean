import ImportOrder.Text.CaseData

/-!
# Lower-casing

The full, locale-free lower-casing of a text:

* every character goes to its simple lower-case form, if it has one;
* `İ` (U+0130) becomes two characters, `i` and a combining dot above;
* `Σ` becomes the final form `ς` at the end of a word and `σ` elsewhere. A word ends at
  a sigma that has a cased letter before it and none after it, where case-ignorable
  characters are looked through on both sides.

Only the last rule looks at neighbours, so `lowercaseFrom` carries the characters
already passed, the nearest first.
-/

namespace ImportOrder

/-- Membership of a code point in a list of closed intervals. -/
def inRanges (ranges : List (Nat × Nat)) (c : Char) : Bool :=
  ranges.any fun r => r.1 ≤ c.toNat && c.toNat ≤ r.2

/-- The character is a letter with case. -/
def isCased (c : Char) : Bool := inRanges casedRanges c

/-- The character is looked through when a case context is determined. -/
def isCaseIgnorable (c : Char) : Bool := inRanges ignorableRanges c

/-- Does the progression hold the code point? -/
def LowerRange.holds (r : LowerRange) (n : Nat) : Bool :=
  r.first ≤ n && n ≤ r.last && (n - r.first) % r.stride == 0

/-- The lower-case form of one character outside every context. -/
def lowerChar (c : Char) : List Char :=
  if c.toNat = 0x130 then ['i', Char.ofNat 0x307]
  else match lowerRanges.find? (·.holds c.toNat) with
    | some r => [Char.ofNat (c.toNat + r.offset).toNat]
    | none => [c]

/-- The first character that is not case-ignorable is a cased letter. -/
def meetsCased (cs : List Char) : Bool :=
  match cs.dropWhile isCaseIgnorable with
  | c :: _ => isCased c
  | [] => false

/-- Lower-case a text of which the characters `before` (nearest first) have been
passed. -/
def lowercaseFrom (before : List Char) : List Char → List Char
  | [] => []
  | c :: rest =>
    let lowered :=
      if c = 'Σ' then (if meetsCased before && !meetsCased rest then ['ς'] else ['σ'])
      else lowerChar c
    lowered ++ lowercaseFrom (c :: before) rest

/-- The lower-case form of a text. -/
def lowercase (s : String) : String :=
  String.ofList (lowercaseFrom [] s.toList)

end ImportOrder

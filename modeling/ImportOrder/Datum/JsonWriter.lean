import ImportOrder.Datum
import ImportOrder.Text.Braces
import ImportOrder.Text.Decimal

/-!
# Writing JSON

Two layouts of one document: `Datum.compactJson` on a single line without blanks, and
`Datum.prettyJson` with two blanks of indentation for each level, one element or entry
on a line, and `[]` and empty braces for what holds nothing.

In a string the quote, the backslash and the characters below U+0020 are escaped, five
of them by a letter and the others by four hexadecimal digits. Everything else stands
for itself.
-/

namespace ImportOrder

/-- A hexadecimal digit, lower case. -/
def hexDigit (n : Nat) : Char := Nat.digitChar n

/-- A number below 65536 as four hexadecimal digits. -/
def hex4 (n : Nat) : List Char :=
  [hexDigit (n / 4096 % 16), hexDigit (n / 256 % 16), hexDigit (n / 16 % 16), hexDigit (n % 16)]

/-- A character as it stands inside a JSON string. -/
def jsonChar (c : Char) : List Char :=
  if c = '"' then ['\\', '"']
  else if c = '\\' then ['\\', '\\']
  else if c = '\n' then ['\\', 'n']
  else if c = '\r' then ['\\', 'r']
  else if c = '\t' then ['\\', 't']
  else if c.toNat = 8 then ['\\', 'b']
  else if c.toNat = 12 then ['\\', 'f']
  else if c.toNat < 32 then '\\' :: 'u' :: hex4 c.toNat
  else [c]

/-- A quoted JSON string. -/
def jsonString (s : String) : String :=
  String.ofList ('"' :: s.toList.flatMap jsonChar ++ ['"'])

/-- A number with a fraction: positional with at least one place if its point stands
near its digits, else with an exponent that has its sign. Ties go to the even digit. -/
def jsonFloat (x : Float) : String :=
  if x.isNaN || x.isInf || x == 0 then plainDecimal x ++ (if x == 0 then ".0" else "")
  else
    let sign := if x < 0 then "-" else ""
    let (d, e) := (Binary.ofBits x.toBits).shortest .even
    let digits := Nat.toDigits 10 d
    let point : Int := digits.length + e
    if -5 < point ∧ point ≤ 16 then
      sign ++ positional d e ++ (if 0 ≤ e then ".0" else "")
    else
      let fraction := if digits.length = 1 then [] else '.' :: digits.drop 1
      let exponent := (if 0 < point then "+" else "") ++ toString (point - 1)
      sign ++ String.ofList (digits.take 1 ++ fraction) ++ "e" ++ exponent

namespace Datum

mutual

/-- The document on one line. -/
def compactJson : Datum → String
  | .null => "null"
  | .bool b => if b then "true" else "false"
  | .int i => toString i
  | .nat n => toString n
  | .float x => jsonFloat x
  | .str s => jsonString s
  | .char c => jsonString c.toString
  | .list items => "[" ++ String.intercalate "," (compactItems items) ++ "]"
  | .map entries => braced (String.intercalate "," (compactEntries entries))

/-- The elements of a sequence, each on its own. -/
def compactItems : List Datum → List String
  | [] => []
  | d :: rest => compactJson d :: compactItems rest

/-- The entries of a map, each on its own. -/
def compactEntries : List (String × Datum) → List String
  | [] => []
  | (k, d) :: rest => (jsonString k ++ ":" ++ compactJson d) :: compactEntries rest

end

/-- The blanks of a level of indentation. -/
def indent (level : Nat) : String := String.ofList (List.replicate (2 * level) ' ')

/-- Lines between two brackets, one level further in. -/
def block (level : Nat) (opening closing : String) (lines : List String) : String :=
  if lines.isEmpty then opening ++ closing
  else opening ++ "\n" ++ String.intercalate ",\n" (lines.map (indent (level + 1) ++ ·)) ++ "\n"
    ++ indent level ++ closing

mutual

/-- The document over several lines, at a level of indentation. -/
def prettyJsonAt (level : Nat) : Datum → String
  | .null => "null"
  | .bool b => if b then "true" else "false"
  | .int i => toString i
  | .nat n => toString n
  | .float x => jsonFloat x
  | .str s => jsonString s
  | .char c => jsonString c.toString
  | .list items => block level "[" "]" (prettyItems (level + 1) items)
  | .map entries => block level openBrace closeBrace (prettyEntries (level + 1) entries)

/-- The elements of a sequence, each over its own lines. -/
def prettyItems (level : Nat) : List Datum → List String
  | [] => []
  | d :: rest => prettyJsonAt level d :: prettyItems level rest

/-- The entries of a map, each over its own lines. -/
def prettyEntries (level : Nat) : List (String × Datum) → List String
  | [] => []
  | (k, d) :: rest => (jsonString k ++ ": " ++ prettyJsonAt level d) :: prettyEntries level rest

end

/-- The document over several lines. -/
def prettyJson (d : Datum) : String := prettyJsonAt 0 d

end Datum

end ImportOrder

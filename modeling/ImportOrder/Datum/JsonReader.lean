import ImportOrder.Datum
import ImportOrder.Text.Decimal

/-!
# Reading JSON

`readJson?` reads one document, with blanks around it and nothing else. Each reader
takes the characters that are left and returns what it read together with the rest.

* A number without fraction and exponent is a whole number as long as 64 bits hold it,
  with or without sign; every other number is a binary one, and so is `-0`.
* A string may write any character as `\u` and four digits, with two such groups for a
  character above U+FFFF. Half of such a pair on its own is refused.
* If a key occurs twice, the later value counts.

The nesting depth cannot exceed the number of characters, which is the fuel of the
mutual readers.
-/

namespace ImportOrder

/-- JSON's blanks. -/
def isJsonBlank (c : Char) : Bool := c == ' ' || c == '\n' || c == '\r' || c == '\t'

/-- The value of a hexadecimal digit of either case. -/
def hexValue? (c : Char) : Option Nat :=
  if '0' ≤ c ∧ c ≤ '9' then some (c.toNat - '0'.toNat)
  else if 'a' ≤ c ∧ c ≤ 'f' then some (c.toNat - 'a'.toNat + 10)
  else if 'A' ≤ c ∧ c ≤ 'F' then some (c.toNat - 'A'.toNat + 10)
  else none

/-- The number that hexadecimal digits spell. -/
def hexNumber? (digits : List Char) : Option Nat :=
  digits.foldlM (fun n c => (hexValue? c).map (16 * n + ·)) 0

/-- The number that decimal digits spell. -/
def decimalNumber (digits : List Char) : Nat :=
  digits.foldl (fun n c => 10 * n + (c.toNat - '0'.toNat)) 0

/-- The character with a code point, unless that is half of a surrogate pair or out of
range. -/
def scalar? (n : Nat) : Option Char :=
  if h : n.isValidChar then some (Char.ofNatAux n h) else none

/-- The rest of a string after its opening quote; `done` holds the characters read, last
first. -/
def readJsonString (done : List Char) : List Char → Option (String × List Char)
  | '"' :: rest => some (String.ofList done.reverse, rest)
  | '\\' :: '"' :: rest => readJsonString ('"' :: done) rest
  | '\\' :: '\\' :: rest => readJsonString ('\\' :: done) rest
  | '\\' :: '/' :: rest => readJsonString ('/' :: done) rest
  | '\\' :: 'b' :: rest => readJsonString ('\x08' :: done) rest
  | '\\' :: 'f' :: rest => readJsonString ('\x0c' :: done) rest
  | '\\' :: 'n' :: rest => readJsonString ('\n' :: done) rest
  | '\\' :: 'r' :: rest => readJsonString ('\r' :: done) rest
  | '\\' :: 't' :: rest => readJsonString ('\t' :: done) rest
  | '\\' :: 'u' :: a :: b :: c :: d :: rest => do
    let unit ← hexNumber? [a, b, c, d]
    if 0xD800 ≤ unit ∧ unit < 0xDC00 then
      match rest with
      | '\\' :: 'u' :: e :: f :: g :: h :: rest' =>
        let low ← hexNumber? [e, f, g, h]
        if 0xDC00 ≤ low ∧ low < 0xE000 then
          let char ← scalar? (0x10000 + (unit - 0xD800) * 0x400 + (low - 0xDC00))
          readJsonString (char :: done) rest'
        else none
      | _ => none
    else
      let char ← scalar? unit
      readJsonString (char :: done) rest
  | c :: rest => if c == '\\' || c.toNat < 32 then none else readJsonString (c :: done) rest
  | [] => none

/-- A whole number that 64 bits hold stays one; any other is a binary number. -/
def jsonWhole (negative : Bool) (n : Nat) : Datum :=
  if negative then
    if n == 0 then .float (-0.0)
    else if n ≤ signedBound then .int (-n)
    else .float (-(decimalFloat n 0))
  else if n < unsignedBound then .int n
  else .float (decimalFloat n 0)

/-- A binary number from its sign, digits before and after the point, and exponent. -/
def jsonReal (negative : Bool) (whole fraction : List Char) (exponent : Int) : Datum :=
  let x := decimalFloat (decimalNumber (whole ++ fraction)) (exponent - fraction.length)
  .float (if negative then -x else x)

/-- The exponent part of a number, if there is one: its value and the rest. -/
def readExponent : List Char → Option (Option Int × List Char)
  | c :: rest =>
    if c == 'e' || c == 'E' then
      let (negative, rest) := match rest with
        | '-' :: r => (true, r)
        | '+' :: r => (false, r)
        | r => (false, r)
      let digits := rest.takeWhile Char.isDigit
      if digits.isEmpty then none
      else
        let n : Int := decimalNumber digits
        some (some (if negative then -n else n), rest.dropWhile Char.isDigit)
    else some (none, c :: rest)
  | [] => some (none, [])

/-- A number without its sign. -/
def readMagnitude (negative : Bool) (cs : List Char) : Option (Datum × List Char) := do
  let whole := cs.takeWhile Char.isDigit
  let rest := cs.dropWhile Char.isDigit
  if whole.isEmpty || (whole.length > 1 && whole.head? == some '0') then none
  else
    let (fraction, rest) ← match rest with
      | '.' :: r =>
        let digits := r.takeWhile Char.isDigit
        if digits.isEmpty then none else some (some digits, r.dropWhile Char.isDigit)
      | r => some (none, r)
    let (exponent, rest) ← readExponent rest
    match fraction, exponent with
    | none, none => some (jsonWhole negative (decimalNumber whole), rest)
    | f, e => some (jsonReal negative whole (f.getD []) (e.getD 0), rest)

mutual

/-- One value and what follows it; blanks may come first. -/
def readJsonValue : Nat → List Char → Option (Datum × List Char)
  | 0, _ => none
  | fuel + 1, cs =>
    match cs.dropWhile isJsonBlank with
    | 'n' :: 'u' :: 'l' :: 'l' :: rest => some (.null, rest)
    | 't' :: 'r' :: 'u' :: 'e' :: rest => some (.bool true, rest)
    | 'f' :: 'a' :: 'l' :: 's' :: 'e' :: rest => some (.bool false, rest)
    | '"' :: rest => (readJsonString [] rest).map fun (s, r) => (.str s, r)
    | '[' :: rest =>
      match rest.dropWhile isJsonBlank with
      | ']' :: rest => some (.list [], rest)
      | rest => (readJsonItems fuel rest []).map fun (items, r) => (.list items, r)
    | '{' :: rest =>
      match rest.dropWhile isJsonBlank with
      | '}' :: rest => some (.map [], rest)
      | rest => (readJsonEntries fuel rest []).map fun (entries, r) => (.map entries, r)
    | '-' :: rest => readMagnitude true rest
    | rest => readMagnitude false rest

/-- The elements of a sequence up to its closing bracket; `done` holds those read, last
first. -/
def readJsonItems : Nat → List Char → List Datum → Option (List Datum × List Char)
  | 0, _, _ => none
  | fuel + 1, cs, done => do
    let (d, rest) ← readJsonValue fuel cs
    match rest.dropWhile isJsonBlank with
    | ',' :: rest => readJsonItems fuel rest (d :: done)
    | ']' :: rest => some ((d :: done).reverse, rest)
    | _ => none

/-- The entries of a map up to its closing brace, added to those in `done`. -/
def readJsonEntries : Nat → List Char → List (String × Datum) →
    Option (List (String × Datum) × List Char)
  | 0, _, _ => none
  | fuel + 1, cs, done => do
    match cs.dropWhile isJsonBlank with
    | '"' :: rest =>
      let (key, rest) ← readJsonString [] rest
      match rest.dropWhile isJsonBlank with
      | ':' :: rest =>
        let (d, rest) ← readJsonValue fuel rest
        let done := putEntry key d done
        match rest.dropWhile isJsonBlank with
        | ',' :: rest => readJsonEntries fuel rest done
        | '}' :: rest => some (done, rest)
        | _ => none
      | _ => none
    | _ => none

end

/-- The document that a text spells, if it spells one. -/
def readJson? (text : String) : Option Datum := do
  let cs := text.toList
  let (d, rest) ← readJsonValue (2 * cs.length + 2) cs
  if (rest.dropWhile isJsonBlank).isEmpty then some d else none

end ImportOrder

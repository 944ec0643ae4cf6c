import ImportOrder.Fault
import ImportOrder.Text.Cut
import ImportOrder.Text.Space
import ImportOrder.Toml.Value

/-!
# Values on one line

The notation in which a value is given in a single line of text: truth values, numbers,
quoted texts, sequences in brackets, maps in braces with `=` between key and value, and
texts without quotes, which run up to a comma, bracket or brace. A text that does not
read as one value stands for itself.

The readers take the characters that are left and return the value with the rest. No
value is nested deeper than its text is long, and the length is the fuel.

A quoted text with escapes measures what stands before the first of them in characters
and cuts it there in bytes. The cut may fall inside a character, which is a fault and
not just a text that does not read.
-/

namespace ImportOrder

/-- A reading that may find no value, or meet a fault. -/
abbrev Inline (α : Type) := OptionT (Except Fault) α

/-- A reading without faults. -/
def Inline.ofOption {α : Type} (found : Option α) : Inline α := OptionT.mk (.ok found)

/-- A reading that ends with a fault. -/
def Inline.fault {α : Type} (cause : Fault) : Inline α := OptionT.mk (.error cause)

/-- Blanks around values. -/
def isInlineBlank (c : Char) : Bool :=
  c == ' ' || c == '\t' || c == '\n' || c == '\x0c' || c == '\r'

/-- A character that ends a text without quotes. -/
def isSeparator (c : Char) : Bool :=
  c == ',' || c == '{' || c == '}' || c == '[' || c == ']'

/-- A sign and the rest. -/
def splitSign : List Char → Bool × List Char
  | '-' :: rest => (true, rest)
  | '+' :: rest => (false, rest)
  | cs => (false, cs)

/-- The exponent of a number, which must end there. -/
def inlineExponent? : List Char → Option Int
  | [] => some 0
  | c :: rest =>
    let (negative, digits) := splitSign rest
    if (c == 'e' || c == 'E') && !digits.isEmpty && digits.all Char.isDigit then
      some (if negative then -(decimalNumber digits : Int) else decimalNumber digits)
    else none

/-- A number with a point. There has to be a digit on one side of it. -/
def inlineFloat? (cs : List Char) : Option Float := do
  let (negative, cs) := splitSign cs
  let whole := cs.takeWhile Char.isDigit
  let rest ← Toml.expect? '.' (cs.dropWhile Char.isDigit)
  let places := rest.takeWhile Char.isDigit
  let exponent ← inlineExponent? (rest.dropWhile Char.isDigit)
  if whole.isEmpty && places.isEmpty then none
  else
    let x := decimalFloat (decimalNumber (whole ++ places)) (exponent - places.length)
    some (if negative then -x else x)

/-- A whole number that 64 bits hold; one with a minus counts as signed, also zero. -/
def inlineWhole? (cs : List Char) : Option Datum :=
  let (negative, digits) := splitSign cs
  if digits.isEmpty || !digits.all Char.isDigit then none
  else
    let n := decimalNumber digits
    if negative then (if n ≤ signedBound then some (.int (-n)) else none)
    else if n < unsignedBound then some (.nat n) else none

/-- The value of a text without quotes. -/
def bareDatum (cs : List Char) : Datum :=
  match (if cs.contains '.' then inlineFloat? cs else none) with
  | some x => .float x
  | none => (inlineWhole? cs).getD (.str (String.ofList cs))

/-- What stands before the closing quote, and the rest. A backslash takes the next
character along. -/
def untilQuote? (done : List Char) : List Char → Option (List Char × List Char)
  | [] => none
  | '"' :: rest => some (done.reverse, rest)
  | '\\' :: c :: rest => untilQuote? (c :: '\\' :: done) rest
  | c :: rest => untilQuote? (c :: done) rest

/-- The front of a text, as many bytes of it as it has characters. -/
def frontBytes (cs : List Char) : Inline (List Char) :=
  match cut? cs.length cs with
  | some (front, _) => pure front
  | none => Inline.fault (.badSlice 0 cs.length)

/-- A quoted text with its escapes replaced. -/
def unescaped (inner : List Char) : Inline String := do
  let plain := inner.takeWhile (· != '\\')
  let escaped := inner.dropWhile (· != '\\')
  if !plain.all Toml.isPlainChar then failure
  else if escaped.isEmpty then return String.ofList plain
  else
    let front ← frontBytes plain
    let (rest, _) ← Inline.ofOption (Toml.basicString [] (escaped ++ ['"']))
    return String.ofList front ++ rest

/-- A quoted text after its opening quote. -/
def inlineQuoted (cs : List Char) : Inline (String × List Char) := do
  let (inner, rest) ← Inline.ofOption (untilQuote? [] cs)
  return (← unescaped inner, rest)

/-- A key: letters, digits, underscores and dashes, or a quoted text. -/
def inlineKey (cs : List Char) : Inline (String × List Char) :=
  match cs with
  | '"' :: rest => inlineQuoted rest
  | _ =>
    let name := cs.takeWhile Toml.isBareKeyChar
    if name.isEmpty then failure else pure (String.ofList name, cs.dropWhile Toml.isBareKeyChar)

/-- The items of a sequence or map after the opening bracket; the last one may have a
comma after it. -/
def inlineItems {α : Type} (item : List Char → Inline (α × List Char)) (closing : Char) :
    Nat → List Char → Inline (List α × List Char)
  | 0, _ => failure
  | fuel + 1, cs =>
    match Toml.expect? closing cs with
    | some rest => pure ([], rest)
    | none => do
      let (first, rest) ← item cs
      match rest with
      | ',' :: rest =>
        let (others, rest) ← inlineItems item closing fuel rest
        return (first :: others, rest)
      | _ =>
        let rest ← Inline.ofOption (Toml.expect? closing rest)
        return ([first], rest)

/-- An entry of a map. -/
def inlineEntry (value : List Char → Inline (Datum × List Char)) (cs : List Char) :
    Inline ((String × Datum) × List Char) := do
  let (key, rest) ← inlineKey (cs.dropWhile isInlineBlank)
  let rest ← Inline.ofOption (Toml.expect? '=' (rest.dropWhile isInlineBlank))
  let (d, rest) ← value rest
  return ((key, d), rest)

/-- One value with the blanks around it. -/
def inlineValue : Nat → List Char → Inline (Datum × List Char)
  | 0, _ => failure
  | fuel + 1, cs => do
    let (d, rest) ← match cs.dropWhile isInlineBlank with
      | 't' :: 'r' :: 'u' :: 'e' :: rest => pure (Datum.bool true, rest)
      | 'f' :: 'a' :: 'l' :: 's' :: 'e' :: rest => pure (Datum.bool false, rest)
      | '{' :: rest => do
        let (entries, rest) ←
          inlineItems (inlineEntry (inlineValue fuel)) '}' (rest.length + 1) rest
        pure (Datum.map (entries.foldl (fun es (k, d) => putEntry k d es) []), rest)
      | '[' :: rest => do
        let (items, rest) ← inlineItems (inlineValue fuel) ']' (rest.length + 1) rest
        pure (Datum.list items, rest)
      | '"' :: rest => do
        let (text, rest) ← inlineQuoted rest
        pure (Datum.str text, rest)
      | '\'' :: c :: '\'' :: rest => pure (Datum.char c, rest)
      | '\'' :: _ => failure
      | rest =>
        let text := rest.takeWhile fun c => !isSeparator c
        pure (bareDatum (trimmed text), rest.drop text.length)
    return (d, rest.dropWhile isInlineBlank)

/-- The value that a line of text stands for. -/
def inlineDatum (text : String) : Except Fault Datum := do
  match ← (inlineValue (text.length + 1) text.toList).run with
  | some (d, []) => return d
  | _ => return .str text

end ImportOrder

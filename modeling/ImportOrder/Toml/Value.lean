import ImportOrder.Datum.JsonReader

/-!
# TOML values

Reading the values of a TOML document: strings of four kinds, numbers in four bases,
dates and times, arrays and inline tables. Every reader takes the characters that are
left and returns the value with the rest, or nothing if the text is no TOML.

Arrays and inline tables may be nested less than `maxDepth` deep, and the readers
recurse on what is left of that depth. A date is a map with a single entry, so that it
can be told from every other value.
-/

namespace ImportOrder.Toml

/-- The depth that nested values, and paths of keys, stay below. -/
def maxDepth : Nat := 80

/-! ## Characters -/

/-- A blank within a line. -/
def isBlank (c : Char) : Bool := c == ' ' || c == '\t'

/-- A character that may stand in a comment, and in a string, quotes apart. -/
def isPlainChar (c : Char) : Bool := c == '\t' || (0x20 ≤ c.toNat && c.toNat != 0x7F)

/-- A character of a key without quotes. -/
def isBareKeyChar (c : Char) : Bool := c.isAlphanum || c == '_' || c == '-'

/-- The rest after a line break, if one is there. -/
def lineBreak? : List Char → Option (List Char)
  | '\n' :: rest => some rest
  | '\r' :: '\n' :: rest => some rest
  | _ => none

/-- Skip blanks, line breaks and comments. A comment has to end with its line. -/
def skipTrivia (inComment : Bool) : List Char → Option (List Char)
  | [] => if inComment then none else some []
  | '\n' :: rest => skipTrivia false rest
  | '\r' :: '\n' :: rest => skipTrivia false rest
  | c :: rest =>
    if inComment then (if isPlainChar c then skipTrivia true rest else none)
    else if isBlank c then skipTrivia false rest
    else if c == '#' then skipTrivia true rest
    else if c == '\r' then none
    else some (c :: rest)

/-! ## Strings -/

/-- The rest of a basic string after its opening quote; `done` holds what was read, last
first. -/
def basicString (done : List Char) : List Char → Option (String × List Char)
  | '"' :: rest => some (String.ofList done.reverse, rest)
  | '\\' :: 'b' :: rest => basicString ('\x08' :: done) rest
  | '\\' :: 't' :: rest => basicString ('\t' :: done) rest
  | '\\' :: 'n' :: rest => basicString ('\n' :: done) rest
  | '\\' :: 'f' :: rest => basicString ('\x0c' :: done) rest
  | '\\' :: 'r' :: rest => basicString ('\r' :: done) rest
  | '\\' :: '"' :: rest => basicString ('"' :: done) rest
  | '\\' :: '\\' :: rest => basicString ('\\' :: done) rest
  | '\\' :: 'u' :: a :: b :: c :: d :: rest => do
    let char ← (← hexNumber? [a, b, c, d]) |> scalar?
    basicString (char :: done) rest
  | '\\' :: 'U' :: a :: b :: c :: d :: e :: f :: g :: h :: rest => do
    let char ← (← hexNumber? [a, b, c, d, e, f, g, h]) |> scalar?
    basicString (char :: done) rest
  | c :: rest => if c != '\\' && isPlainChar c then basicString (c :: done) rest else none
  | [] => none

/-- The rest of a basic string over several lines. After a backslash at the end of a
line, blanks and line breaks are dropped; `trim` says that this is going on. -/
def multilineBasic (trim : Bool) (done : List Char) : List Char → Option (String × List Char)
  | '"' :: '"' :: '"' :: '"' :: '"' :: rest =>
    some (String.ofList ('"' :: '"' :: done).reverse, rest)
  | '"' :: '"' :: '"' :: '"' :: rest => some (String.ofList ('"' :: done).reverse, rest)
  | '"' :: '"' :: '"' :: rest => some (String.ofList done.reverse, rest)
  | '\\' :: 'b' :: rest => multilineBasic false ('\x08' :: done) rest
  | '\\' :: 't' :: rest => multilineBasic false ('\t' :: done) rest
  | '\\' :: 'n' :: rest => multilineBasic false ('\n' :: done) rest
  | '\\' :: 'f' :: rest => multilineBasic false ('\x0c' :: done) rest
  | '\\' :: 'r' :: rest => multilineBasic false ('\r' :: done) rest
  | '\\' :: '"' :: rest => multilineBasic false ('"' :: done) rest
  | '\\' :: '\\' :: rest => multilineBasic false ('\\' :: done) rest
  | '\\' :: 'u' :: a :: b :: c :: d :: rest => do
    let char ← (← hexNumber? [a, b, c, d]) |> scalar?
    multilineBasic false (char :: done) rest
  | '\\' :: 'U' :: a :: b :: c :: d :: e :: f :: g :: h :: rest => do
    let char ← (← hexNumber? [a, b, c, d, e, f, g, h]) |> scalar?
    multilineBasic false (char :: done) rest
  | '\r' :: '\n' :: rest =>
    if trim then multilineBasic true done rest else multilineBasic false ('\n' :: done) rest
  | c :: rest =>
    if trim && (isBlank c || c == '\n') then multilineBasic true done rest
    else if c == '\\' then
      if (lineBreak? (rest.dropWhile isBlank)).isSome then multilineBasic true done rest else none
    else if c == '\n' || isPlainChar c then multilineBasic false (c :: done) rest
    else none
  | [] => none

/-- Three quotes close the string if no other one follows. -/
theorem multilineBasic_close {rest : List Char} (hrest : ∀ tail, rest ≠ '"' :: tail)
    (done : List Char) :
    multilineBasic false done ('"' :: '"' :: '"' :: rest) =
      some (String.ofList done.reverse, rest) := by
  rw [multilineBasic]
  all_goals simp_all

/-- The rest of a literal string after its opening quote. -/
def literalString (done : List Char) : List Char → Option (String × List Char)
  | '\'' :: rest => some (String.ofList done.reverse, rest)
  | c :: rest => if isPlainChar c then literalString (c :: done) rest else none
  | [] => none

/-- The rest of a literal string over several lines. -/
def multilineLiteral (done : List Char) : List Char → Option (String × List Char)
  | '\'' :: '\'' :: '\'' :: '\'' :: '\'' :: rest =>
    some (String.ofList ('\'' :: '\'' :: done).reverse, rest)
  | '\'' :: '\'' :: '\'' :: '\'' :: rest => some (String.ofList ('\'' :: done).reverse, rest)
  | '\'' :: '\'' :: '\'' :: rest => some (String.ofList done.reverse, rest)
  | '\r' :: '\n' :: rest => multilineLiteral ('\n' :: done) rest
  | c :: rest => if c == '\n' || isPlainChar c then multilineLiteral (c :: done) rest else none
  | [] => none

/-- Three quotes close the string if no other one follows. -/
theorem multilineLiteral_close {rest : List Char} (hrest : ∀ tail, rest ≠ '\'' :: tail)
    (done : List Char) :
    multilineLiteral done ('\'' :: '\'' :: '\'' :: rest) =
      some (String.ofList done.reverse, rest) := by
  rw [multilineLiteral]
  all_goals simp_all

/-- The rest after a line break that directly follows an opening delimiter. -/
def afterFirstBreak (cs : List Char) : List Char := (lineBreak? cs).getD cs

/-- A string of any kind. -/
def string? : List Char → Option (String × List Char)
  | '"' :: '"' :: '"' :: rest => multilineBasic false [] (afterFirstBreak rest)
  | '"' :: rest => basicString [] rest
  | '\'' :: '\'' :: '\'' :: rest => multilineLiteral [] (afterFirstBreak rest)
  | '\'' :: rest => literalString [] rest
  | _ => none

/-! ## Keys -/

/-- One key: bare, or a string on one line. -/
def simpleKey? : List Char → Option (String × List Char)
  | '"' :: rest => basicString [] rest
  | '\'' :: rest => literalString [] rest
  | cs =>
    let name := cs.takeWhile isBareKeyChar
    if name.isEmpty then none else some (String.ofList name, cs.dropWhile isBareKeyChar)

/-- Keys with dots between them and blanks around them; `fuel` bounds their number. -/
def keyPath? : Nat → List Char → Option (List String × List Char)
  | 0, _ => none
  | fuel + 1, cs => do
    let (key, rest) ← simpleKey? (cs.dropWhile isBlank)
    match rest.dropWhile isBlank with
    | '.' :: rest =>
      let (keys, rest) ← keyPath? fuel rest
      some (key :: keys, rest)
    | rest => some ([key], rest)

/-- A path of keys. -/
def keys? (cs : List Char) : Option (List String × List Char) := keyPath? (maxDepth - 1) cs

/-! ## Numbers and dates -/

/-- Digits of some base with single underscores between them; the digits and the
rest. -/
def digits? (isDigit : Char → Bool) : List Char → Option (List Char × List Char)
  | c :: rest =>
    if isDigit c then
      match rest with
      | '_' :: d :: more =>
        match digits? isDigit (d :: more) with
        | some (ds, rest') => some (c :: ds, rest')
        | none => none
      | d :: more =>
        if isDigit d then
          match digits? isDigit (d :: more) with
          | some (ds, rest') => some (c :: ds, rest')
          | none => none
        else if d == '_' then none
        else some ([c], d :: more)
      | [] => some ([c], [])
    else none
  | [] => none

/-- The digits of a decimal whole number, which has no leading zero. -/
def wholeDigits? : List Char → Option (List Char × List Char)
  | '0' :: rest => some (['0'], rest)
  | cs => digits? Char.isDigit cs

/-- A whole number in a base other than ten. -/
def based? (base : Nat) (cs : List Char) : Option (Datum × List Char) := do
  let (ds, rest) ← digits? (fun c => (hexValue? c).any (· < base)) cs
  let n := ds.foldl (fun n c => base * n + (hexValue? c).getD 0) 0
  if n < signedBound then some (.int n, rest) else none

/-- The fraction of a number: the digits after the point. -/
def fraction? : List Char → Option (Option (List Char) × List Char)
  | '.' :: rest => (digits? Char.isDigit rest).map fun (ds, r) => (some ds, r)
  | cs => some (none, cs)

/-- The exponent of a number. -/
def exponent? : List Char → Option (Option Int × List Char)
  | c :: rest =>
    if c == 'e' || c == 'E' then
      let (negative, rest) := match rest with
        | '-' :: r => (true, r)
        | '+' :: r => (false, r)
        | r => (false, r)
      (digits? Char.isDigit rest).map fun (ds, r) =>
        let n : Int := decimalNumber ds
        (some (if negative then -n else n), r)
    else some (none, c :: rest)
  | [] => some (none, [])

/-- A decimal number after its sign. A number with a fraction must not be too large. -/
def decimal? (negative : Bool) (cs : List Char) : Option (Datum × List Char) := do
  let (whole, rest) ← wholeDigits? cs
  let (fraction, rest) ← fraction? rest
  let (exponent, rest) ← exponent? rest
  match fraction, exponent with
  | none, none =>
    let n := decimalNumber whole
    if negative then (if n ≤ signedBound then some (.int (-n), rest) else none)
    else if n < signedBound then some (.int n, rest) else none
  | f, e =>
    let places := f.getD []
    let x := decimalFloat (decimalNumber (whole ++ places)) (e.getD 0 - places.length)
    if negative then some (.float (-x), rest)
    else if x.isInf then none
    else some (.float x, rest)

/-- A number after its sign. -/
def signed? (negative : Bool) : List Char → Option (Datum × List Char)
  | 'i' :: 'n' :: 'f' :: rest =>
    some (.float (if negative then -(1.0 / 0.0) else 1.0 / 0.0), rest)
  | 'n' :: 'a' :: 'n' :: rest => some (.float (0.0 / 0.0), rest)
  | cs => decimal? negative cs

/-- Two digits that stand for a number in a range. -/
def twoDigits? (low high : Nat) : List Char → Option (Nat × List Char)
  | a :: b :: rest =>
    if a.isDigit && b.isDigit then
      let n := decimalNumber [a, b]
      if low ≤ n ∧ n ≤ high then some (n, rest) else none
    else none
  | _ => none

/-- The rest after an expected character. -/
def expect? (c : Char) : List Char → Option (List Char)
  | d :: rest => if d == c then some rest else none
  | [] => none

/-- The number of days of a month. -/
def daysIn (year month : Nat) : Nat :=
  if month == 2 then
    if year % 4 == 0 && (year % 100 != 0 || year % 400 == 0) then 29 else 28
  else if month == 4 || month == 6 || month == 9 || month == 11 then 30
  else 31

/-- The rest after a time of day: hours, minutes, seconds, and perhaps a fraction of a
second. -/
def time? (cs : List Char) : Option (List Char) := do
  let (_, rest) ← twoDigits? 0 23 cs
  let rest ← expect? ':' rest
  let (_, rest) ← twoDigits? 0 59 rest
  let rest ← expect? ':' rest
  let (_, rest) ← twoDigits? 0 60 rest
  match rest with
  | '.' :: more =>
    if (more.takeWhile Char.isDigit).isEmpty then some rest else some (more.dropWhile Char.isDigit)
  | _ => some rest

/-- The rest after the offset of a time from universal time, if there is one. -/
def offset? : List Char → Option (List Char)
  | 'Z' :: rest | 'z' :: rest => some rest
  | c :: rest =>
    if c == '+' || c == '-' then do
      let (_, rest) ← twoDigits? 0 23 rest
      let rest ← expect? ':' rest
      let (_, rest) ← twoDigits? 0 59 rest
      some rest
    else some (c :: rest)
  | [] => some []

/-- The text looks like the beginning of a time: two digits and a colon. -/
def looksLikeTime : List Char → Bool
  | a :: b :: ':' :: _ => (twoDigits? 0 23 [a, b]).isSome
  | _ => false

/-- The rest after the time that may follow a date. -/
def timeAfterDate? : List Char → Option (List Char)
  | c :: rest =>
    if (c == 'T' || c == 't' || c == ' ') && looksLikeTime rest then (time? rest).bind offset?
    else some (c :: rest)
  | [] => some []

/-- The key under which a date is kept. -/
def dateKey : String := "$__toml_private_datetime"

/-- A date or time that takes the characters up to `rest`. -/
def dateDatum (cs rest : List Char) : Datum :=
  .map [(dateKey, .str (String.ofList (cs.take (cs.length - rest.length))))]

/-- A date or a time, if the text looks like one. The outer answer says whether it
does. -/
def date? (cs : List Char) : Option (Option (Datum × List Char)) :=
  match cs with
  | a :: b :: c :: d :: '-' :: rest =>
    if [a, b, c, d].all Char.isDigit then
      some do
        let year := decimalNumber [a, b, c, d]
        let (month, rest) ← twoDigits? 1 12 rest
        let rest ← expect? '-' rest
        let (_, rest) ← twoDigits? 1 (daysIn year month) rest
        let rest ← timeAfterDate? rest
        some (dateDatum cs rest, rest)
    else none
  | _ =>
    if looksLikeTime cs then some ((time? cs).map fun rest => (dateDatum cs rest, rest)) else none

/-- A number, a date or a time. -/
def number? (cs : List Char) : Option (Datum × List Char) :=
  match date? cs with
  | some result => result
  | none => match cs with
    | '0' :: 'x' :: rest => based? 16 rest
    | '0' :: 'o' :: rest => based? 8 rest
    | '0' :: 'b' :: rest => based? 2 rest
    | '+' :: rest => signed? false rest
    | '-' :: rest => signed? true rest
    | _ => decimal? false cs

/-! ## Arrays and inline tables -/

/-- The elements of an array after its opening bracket; `item` reads one, `done` holds
those read. -/
def arrayItems (item : List Char → Option (Datum × List Char)) :
    Nat → List Datum → List Char → Option (List Datum × List Char)
  | 0, _, _ => none
  | fuel + 1, done, cs => do
    match ← skipTrivia false cs with
    | ']' :: rest => some (done.reverse, rest)
    | cs =>
      let (d, rest) ← item cs
      match ← skipTrivia false rest with
      | ',' :: rest => arrayItems item fuel (d :: done) rest
      | ']' :: rest => some ((d :: done).reverse, rest)
      | _ => none

/-- A table written in one line, while it is read. A table made by a path of keys stays
open for more keys; one that was written as a value is closed. -/
inductive Inline where
  /-- any value that can no longer change -/
  | closed (value : Datum)
  /-- a table that a path of keys has made -/
  | opened (entries : List (String × Inline))

/-- Put a value under a path of keys, none of which may be taken. -/
def putInline (value : Datum) :
    List String → List (String × Inline) → Option (List (String × Inline))
  | [], _ => none
  | [key], entries =>
    match entry? key entries with
    | some _ => none
    | none => some (putEntry key (.closed value) entries)
  | key :: keys, entries =>
    match entry? key entries with
    | none => (putInline value keys []).map fun below => putEntry key (.opened below) entries
    | some (.opened below) =>
      (putInline value keys below).map fun below => putEntry key (.opened below) entries
    | some (.closed _) => none

mutual

/-- The value of an inline table or of what is in it. -/
def Inline.datum : Inline → Datum
  | .closed d => d
  | .opened entries => .map (inlineData entries)

/-- The entries of an inline table. -/
def inlineData : List (String × Inline) → List (String × Datum)
  | [] => []
  | (k, v) :: rest => (k, v.datum) :: inlineData rest

end

/-- The entries of an inline table after its opening brace. -/
def inlineEntries (item : List Char → Option (Datum × List Char)) :
    Nat → List (String × Inline) → List Char → Option (List (String × Inline) × List Char)
  | 0, _, _ => none
  | fuel + 1, done, cs => do
    let (keys, rest) ← keys? cs
    let rest ← expect? '=' rest
    let (d, rest) ← item (rest.dropWhile isBlank)
    let done ← putInline d keys done
    match rest.dropWhile isBlank with
    | ',' :: rest => inlineEntries item fuel done rest
    | '}' :: rest => some (done, rest)
    | _ => none

/-- A value inside as many more arrays and inline tables as the depth allows. -/
def value? : Nat → List Char → Option (Datum × List Char)
  | depth, cs =>
    match cs with
    | '"' :: _ | '\'' :: _ => (string? cs).map fun (s, r) => (.str s, r)
    | 't' :: 'r' :: 'u' :: 'e' :: rest => some (.bool true, rest)
    | 'f' :: 'a' :: 'l' :: 's' :: 'e' :: rest => some (.bool false, rest)
    | 'i' :: _ | 'n' :: _ => signed? false cs
    | '[' :: rest =>
      match depth with
      | 0 => none
      | depth + 1 =>
        (arrayItems (value? depth) (rest.length + 1) [] rest).map fun (items, r) => (.list items, r)
    | '{' :: rest =>
      match depth with
      | 0 => none
      | depth + 1 =>
        match rest.dropWhile isBlank with
        | '}' :: rest => some (.map [], rest)
        | rest =>
          (inlineEntries (value? depth) (rest.length + 1) [] rest).map fun (entries, r) =>
            (.map (inlineData entries), r)
    | _ => number? cs

end ImportOrder.Toml

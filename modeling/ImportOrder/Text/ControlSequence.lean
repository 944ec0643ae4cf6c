import ImportOrder.Text.Quoted

/-!
# Control sequences

A terminal acts on some characters instead of showing them. An escape character begins a
sequence that ends with a certain letter, or a text of any length that ends with the
next escape character or a bell.

* `emphasized` — a text with the sequences around it that colour it;
* `withoutControls` — what is left of a text on a stream that is no terminal: sequences
  and control characters are dropped and white space is kept;
* `controlsEscaped` — a text in which the characters that a terminal would act on can be
  seen.

White space inside a sequence is kept too, and after it characters are shown again,
until the next one that is dropped. There the sequence goes on.
-/

namespace ImportOrder

/-- What a terminal is in the middle of. -/
inductive TerminalState where
  /-- nothing -/
  | ground
  /-- a sequence of which only the escape character is there -/
  | escape
  /-- a sequence that ends with its next character that is not a sign -/
  | short
  /-- a sequence with numbers, which ends with a letter -/
  | numbers
  /-- the front of a text for a device -/
  | device
  /-- numbers in the front of a text for a device -/
  | deviceNumbers
  /-- signs in the front of a text for a device -/
  | deviceSigns
  /-- a text that is not shown -/
  | body
  /-- a text that is not shown and that a bell ends -/
  | title
deriving DecidableEq, Repr

/-- White space that is kept. -/
def isKeptSpace (c : Char) : Bool := c == ' ' || c == '\t' || c == '\n' || c == '\x0c' || c == '\r'

/-- A code point is in a range. -/
def codeIn (c : Char) (first last : Nat) : Bool := first ≤ c.toNat && c.toNat ≤ last

/-- The last byte of a text that is not shown. -/
def stringTerminator : UInt8 := 0x9C

namespace TerminalState

/-- The character is shown. -/
def shows (s : TerminalState) (c : Char) : Bool :=
  match s with
  | .ground => isKeptSpace c || codeIn c 0x21 0x7E || 0x80 ≤ c.toNat
  | .escape | .short | .numbers => isKeptSpace c && c != ' '
  | _ => false

/-- The state after a character that is not shown. -/
def after (s : TerminalState) (c : Char) : TerminalState :=
  if c == '\x1b' then .escape
  else if c == '\x18' || c == '\x1a' then .ground
  else match s with
    | .ground => .ground
    | .escape =>
      if codeIn c 0x20 0x2F then .short
      else if c == '[' then .numbers
      else if c == ']' then .title
      else if c == 'P' then .device
      else if c == 'X' || c == '^' || c == '_' then .body
      else if codeIn c 0x30 0x7E then .ground
      else .escape
    | .short => if codeIn c 0x30 0x7E then .ground else .short
    | .numbers => if codeIn c 0x40 0x7E then .ground else .numbers
    | .device =>
      if codeIn c 0x20 0x2F then .deviceSigns
      else if codeIn c 0x30 0x3F then .deviceNumbers
      else if codeIn c 0x40 0x7E then .body
      else .device
    | .deviceNumbers =>
      if codeIn c 0x20 0x2F then .deviceSigns
      else if codeIn c 0x3C 0x7E then .body
      else .deviceNumbers
    | .deviceSigns => if codeIn c 0x30 0x7E then .body else .deviceSigns
    | .body => if c.toString.toUTF8.toList.contains stringTerminator then .ground else .body
    | .title => if c == '\x07' then .ground else .title

end TerminalState

/-- The characters that are shown. `showing` says that the one before was; then the
state `s` waits until one is not. -/
def shownFrom (showing : Bool) (s : TerminalState) : List Char → List Char
  | [] => []
  | c :: rest =>
    if (if showing then TerminalState.ground else s).shows c then
      c :: shownFrom true (if 0x80 ≤ c.toNat then .ground else s) rest
    else shownFrom false (s.after c) rest

/-- A text without control sequences and control characters. -/
def withoutControls (text : String) : String := String.ofList (shownFrom false .ground text.toList)

/-- A text in another colour. -/
def emphasized (text : String) : String := "\x1b[33m" ++ text ++ "\x1b[0m"

/-- A character in such a way that no terminal acts on it. -/
def escapedControl (c : Char) : List Char :=
  if c == '\x1b' then ['\\', 'x', '1', 'b']
  else if c == '\x07' then ['\\', 'x', '0', '7']
  else if c == '\x08' then ['\\', 'x', '0', '8']
  else if c == '\x0c' then ['\\', 'x', '0', 'c']
  else if c == '\x7f' then ['\\', 'x', '7', 'f']
  else if codeIn c 0x80 0x9F then ['\\', 'u', '{'] ++ hexDigits c.toNat ++ ['}']
  else [c]

/-- A text that no terminal acts on. -/
def controlsEscaped (text : String) : String := String.ofList (text.toList.flatMap escapedControl)

end ImportOrder

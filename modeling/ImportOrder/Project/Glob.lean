import ImportOrder.Text.Braces

/-!
# Path patterns

A pattern describes paths: `?` and `*` stand for one or any number of bytes within a
name, `[a-z]` for one byte of a class, `{a,b}` for either of two patterns, and `**`
between slashes for any number of directories. A backslash takes the next character as
it is.

* `readGlob` — the parts of a pattern, or why it is none;
* `globMatches` — does a pattern describe a path? Paths are compared byte by byte, so
  that `?` stands for one byte of a character, not for the whole of it.
-/

namespace ImportOrder

/-- One part of a pattern. -/
inductive GlobPart where
  /-- a character that stands for itself -/
  | literal (c : Char)
  /-- any byte but a slash -/
  | anyByte
  /-- any bytes but slashes -/
  | withinName
  /-- any directories at the front -/
  | anyFront
  /-- anything below a directory -/
  | anyBelow
  /-- any directories between two others -/
  | anyBetween
  /-- one byte that is in some of the ranges, or in none of them -/
  | oneOf (negated : Bool) (ranges : List (Char × Char))
  /-- one of several patterns -/
  | choice (branches : List (List GlobPart))
deriving Repr, Inhabited

/-- A pattern. -/
abbrev Glob := List GlobPart

/-- Why a text is not a pattern. -/
inductive GlobError where
  /-- a class of characters does not end -/
  | unclosedClass
  /-- the ends of a range are in the wrong order -/
  | invalidRange (low high : Char)
  /-- a group of alternatives ends that has not begun -/
  | unopenedAlternates
  /-- a group of alternatives does not end -/
  | unclosedAlternates
  /-- a backslash at the end -/
  | danglingEscape
deriving DecidableEq, Repr

/-- The text shown to the user. -/
def GlobError.message : GlobError → String
  | .unclosedClass => "unclosed character class; missing ']'"
  | .invalidRange low high => s!"invalid range; '{low}' > '{high}'"
  | .unopenedAlternates =>
    s!"unopened alternate group; missing '{openBrace}' " ++
      s!"(maybe escape '{closeBrace}' with '[{closeBrace}]'?)"
  | .unclosedAlternates =>
    s!"unclosed alternate group; missing '{closeBrace}' " ++
      s!"(maybe escape '{openBrace}' with '[{openBrace}]'?)"
  | .danglingEscape => "dangling '\\'"

/-! ## Reading patterns -/

/-- The rest of a class after its bracket and its negation. `ranges` holds what was
read, last first; `first` says that nothing was read yet, and `waiting` that the last
range waits for its end. -/
def readClass (ranges : List (Char × Char)) (first waiting : Bool) :
    List Char → Except GlobError (List (Char × Char) × List Char)
  | [] => .error .unclosedClass
  | c :: rest =>
    if c == ']' && !first then
      .ok ((if waiting then ('-', '-') :: ranges else ranges).reverse, rest)
    else if c == '-' && !first && !waiting then readClass ranges false true rest
    else
      match waiting, ranges with
      | true, (low, _) :: others =>
        if c < low then .error (.invalidRange low c)
        else readClass ((low, c) :: others) false false rest
      | _, _ => readClass ((c, c) :: ranges) false false rest

/-- A group of alternatives while it is read: those that are done and the one that is
not, last first. -/
structure OpenChoice where
  /-- the branches that are done -/
  done : List Glob := []
  /-- the parts of the branch that is being read -/
  current : Glob := []

/-- A pattern while it is read: the groups around the place that is being read,
innermost first, and the parts outside of all groups, last first. -/
structure GlobDraft where
  /-- the groups that are open -/
  groups : List OpenChoice := []
  /-- the parts outside of all groups -/
  outer : Glob := []

namespace GlobDraft

/-- The parts of the innermost branch, last first. -/
def current (d : GlobDraft) : Glob :=
  match d.groups with
  | [] => d.outer
  | g :: _ => g.current

/-- Replace the parts of the innermost branch. -/
def withCurrent (d : GlobDraft) (parts : Glob) : GlobDraft :=
  match d.groups with
  | [] => { d with outer := parts }
  | g :: rest => { d with groups := { g with current := parts } :: rest }

/-- Add a part. -/
def push (d : GlobDraft) (part : GlobPart) : GlobDraft := d.withCurrent (part :: d.current)

/-- Something is read inside a group. -/
def inside (d : GlobDraft) : Bool := !d.groups.isEmpty

/-- Begin a group. -/
def openGroup (d : GlobDraft) : GlobDraft := { d with groups := {} :: d.groups }

/-- Begin the next branch of the innermost group. -/
def nextBranch (d : GlobDraft) : GlobDraft :=
  match d.groups with
  | [] => d
  | g :: rest => { d with groups := { done := g.current.reverse :: g.done } :: rest }

/-- End the innermost group. -/
def closeGroup (d : GlobDraft) : Except GlobError GlobDraft :=
  match d.groups with
  | [] => .error .unopenedAlternates
  | g :: rest =>
    .ok ({ d with groups := rest }.push (.choice (g.current.reverse :: g.done).reverse))

/-- Two stars after the character `before`, with `rest` after them; the draft and what
is left to read. A row of stars that is not a whole name between slashes has no special
meaning. -/
def twoStars (d : GlobDraft) (before : Option Char) (rest : List Char) : GlobDraft × List Char :=
  let plain := ((d.push .withinName).push .withinName, rest)
  match d.current with
  | [] => match rest with
    | [] => (d.push .anyFront, [])
    | '/' :: more => (d.push .anyFront, more)
    | _ => plain
  | last :: others =>
    if before != some '/' && !(d.inside && (before == some ',' || before == some '{')) then plain
    else
      let replace (part : GlobPart) : GlobDraft := d.withCurrent ((match last with
        | .anyFront => .anyFront
        | .anyBelow => .anyBelow
        | _ => part) :: others)
      match rest with
      | [] => (replace .anyBelow, [])
      | '/' :: more => (replace .anyBetween, more)
      | c :: _ => if d.inside && (c == ',' || c == '}') then (replace .anyBelow, rest) else plain

end GlobDraft

/-- Read the rest of a pattern. `literalClass` says that an unclosed class has been met,
after which brackets stand for themselves; `lenient` allows this. Each step takes at
least one character, so the number of characters is fuel enough. -/
def readGlobFrom (lenient : Bool) :
    Nat → (literalClass : Bool) → (before : Option Char) → GlobDraft → List Char →
      Except GlobError GlobDraft
  | 0, _, _, d, _ => .ok d
  | _ + 1, _, _, d, [] => .ok d
  | fuel + 1, literalClass, before, d, c :: rest =>
    let next (d : GlobDraft) (rest : List Char) :=
      readGlobFrom lenient fuel literalClass (some c) d rest
    match c with
    | '?' => next (d.push .anyByte) rest
    | '*' => match rest with
      | '*' :: more =>
        let (d, left) := d.twoStars before more
        let last := if left.length < more.length then '/' else '*'
        readGlobFrom lenient fuel literalClass (some last) d left
      | _ => next (d.push .withinName) rest
    | '[' =>
      if literalClass then next (d.push (.literal '[')) rest
      else
        let (negated, inner) := match rest with
          | '!' :: more | '^' :: more => (true, more)
          | _ => (false, rest)
        match readClass [] true false inner with
        | .ok (ranges, left) =>
          readGlobFrom lenient fuel literalClass (some ']') (d.push (.oneOf negated ranges)) left
        | .error .unclosedClass =>
          if lenient then readGlobFrom lenient fuel true (some '[') (d.push (.literal '[')) rest
          else .error .unclosedClass
        | .error e => .error e
    | '{' => next d.openGroup rest
    | '}' => do next (← d.closeGroup) rest
    | ',' => next (if d.inside then d.nextBranch else d.push (.literal ',')) rest
    | '\\' => match rest with
      | [] => .error .danglingEscape
      | e :: more => readGlobFrom lenient fuel literalClass (some e) (d.push (.literal e)) more
    | _ => next (d.push (.literal c)) rest

/-- Read a pattern. A lenient reader takes a bracket without its partner as it is. -/
def readGlob (lenient : Bool) (text : String) : Except GlobError Glob := do
  let cs := text.toList
  let d ← readGlobFrom lenient cs.length false none {} cs
  if d.inside then .error .unclosedAlternates else .ok d.outer.reverse

/-! ## Matching -/

/-- The bytes of a character. -/
def charBytes (c : Char) : List UInt8 := c.toString.toUTF8.toList

/-- The slash that separates names. -/
def slash : UInt8 := 47

/-- The ranges of bytes that a range of characters stands for. -/
def byteRanges : Char × Char → List (UInt8 × UInt8)
  | (low, high) =>
    if low = high then (charBytes low).map fun b => (b, b)
    else
      let front := (charBytes low).dropLast
      let rest := (charBytes high).drop 1
      front.map (fun b => (b, b)) ++ [((charBytes low).getLastD 0, (charBytes high).headD 0)]
        ++ rest.map (fun b => (b, b))

/-- A byte is in one of the ranges. -/
def inByteRanges (ranges : List (Char × Char)) (b : UInt8) : Bool :=
  (ranges.flatMap byteRanges).any fun (low, high) => low ≤ b && b ≤ high

/-- The places in a path that the parts of a pattern can end at: a mark for each byte
and one for the end. All places are followed at once, so the work is bounded by the
lengths of the pattern and the path. -/
abbrev Marks := List Bool

/-- The marks of a path of which nothing is described yet. -/
def Marks.start (path : List UInt8) : Marks := true :: path.map fun _ => false

/-- The places that are marked on one side at least. -/
def Marks.union : Marks → Marks → Marks := List.zipWith (· || ·)

/-- The places after one more byte, of a certain kind. -/
def Marks.afterByte (marks : Marks) (kind : UInt8 → Bool) (path : List UInt8) : Marks :=
  false :: List.zipWith (fun mark b => mark && kind b) marks path

/-- The places after any number of bytes of a certain kind. `before` says that the place
before this one is such a place and that the byte between them is of the kind. -/
def Marks.afterBytes (kind : UInt8 → Bool) (before : Bool) : Marks → List UInt8 → Marks
  | [], _ => []
  | mark :: _, [] => [mark || before]
  | mark :: marks, b :: path =>
    (mark || before) :: afterBytes kind ((mark || before) && kind b) marks path

/-- The places after any bytes. -/
def Marks.onward (marks : Marks) (path : List UInt8) : Marks :=
  afterBytes (fun _ => true) false marks path

/-- The places after the next slash. -/
def Marks.afterSlash (marks : Marks) (path : List UInt8) : Marks :=
  marks.afterByte (· == slash) path

/-- The places after any number of directories. -/
def Marks.afterDirectories (marks : Marks) (path : List UInt8) : Marks :=
  marks.union ((marks.onward path).afterSlash path)

mutual

/-- A part that describes nothing at all: a choice whose branches are all empty. -/
def GlobPart.isVoid : GlobPart → Bool
  | .choice branches => allVoid branches
  | _ => false

/-- A branch without anything in it. -/
def branchIsVoid : List GlobPart → Bool
  | [] => true
  | part :: parts => part.isVoid && branchIsVoid parts

/-- All branches are empty. -/
def allVoid : List (List GlobPart) → Bool
  | [] => true
  | branch :: branches => branchIsVoid branch && allVoid branches

end

mutual

/-- The places after a part. -/
def matchPart (path : List UInt8) : GlobPart → Marks → Marks
  | .literal c, marks => (charBytes c).foldl (fun marks b => marks.afterByte (· == b) path) marks
  | .anyByte, marks => marks.afterByte (· != slash) path
  | .withinName, marks => Marks.afterBytes (· != slash) false marks path
  | .anyFront, marks => marks.afterDirectories path
  | .anyBelow, marks => (marks.afterSlash path).onward path
  | .anyBetween, marks => (marks.afterSlash path).afterDirectories path
  | .oneOf negated ranges, marks => marks.afterByte (fun b => inByteRanges ranges b != negated) path
  | .choice branches, marks => if allVoid branches then marks else matchBranches path branches marks

/-- The places after parts that follow one another. -/
def matchParts (path : List UInt8) : List GlobPart → Marks → Marks
  | [], marks => marks
  | part :: parts, marks => matchParts path parts (matchPart path part marks)

/-- The places after some branch that is not empty. -/
def matchBranches (path : List UInt8) : List (List GlobPart) → Marks → Marks
  | [], marks => marks.map fun _ => false
  | branch :: branches, marks =>
    let others := matchBranches path branches marks
    if branchIsVoid branch then others else (matchParts path branch marks).union others

end

/-- A pattern describes a path: the end of the path is a place after the pattern. Two
stars on their own describe every path. -/
def globMatches (g : Glob) (path : String) : Bool :=
  match g with
  | [.anyFront] => true
  | _ =>
    let bytes := path.toUTF8.toList
    (matchParts bytes g (Marks.start bytes)).getLastD false

end ImportOrder

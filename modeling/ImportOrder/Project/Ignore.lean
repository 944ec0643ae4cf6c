import ImportOrder.Project.Files
import ImportOrder.Project.Glob
import ImportOrder.Text.Space

/-!
# Ignore files

A directory can hold files that say what below it is to be left alone. Such a file has a
pattern on each line. A pattern that contains a slash, other than at its end, is
followed from the directory of the file; any other pattern describes names at any depth.
A slash at the end restricts a pattern to directories, and an exclamation mark at the
front takes back what earlier patterns left out: the last pattern that describes a path
decides.

The patterns of a directory are a `PatternSet`: they know how their directory is
written, and a path is shown to them without that front. This is a matter of texts. A
path that is written in another way than its directory, with a dot too many, is shown to
the patterns as a whole.
-/

namespace ImportOrder

/-- A line of an ignore file. -/
structure IgnorePattern where
  /-- the paths that it describes -/
  glob : Glob
  /-- what it describes is not left out -/
  allows : Bool
  /-- it describes only directories -/
  directoriesOnly : Bool
deriving Repr, Inhabited

/-- A line that is not a pattern. -/
structure PatternError where
  /-- the line, without the white space at its end -/
  line : String
  /-- what is wrong with it -/
  cause : GlobError
deriving DecidableEq, Repr

/-- The text shown to the user. -/
def PatternError.message (e : PatternError) : String :=
  s!"error parsing glob '{e.line}': {e.cause.message}"

/-- A line without the white space at its end, unless a backslash protects it. -/
def lineWithoutTail (line : List Char) : List Char :=
  match line.reverse with
  | ' ' :: '\\' :: _ => line
  | _ => trimmedEnd line

/-- The text of a pattern as a glob: it may start at any depth unless it is anchored,
and if it ends with two stars they stand for what is below a directory, not for the
directory. -/
def globText (anchored : Bool) (cs : List Char) : List Char :=
  let free := !anchored && !cs.contains '/' && cs != ['*', '*']
  let cs := if free then ['*', '*', '/'] ++ cs else cs
  if ['*', '*', '/'].isPrefixOf cs.reverse then cs ++ ['/', '*'] else cs

/-- Read a line. A comment or an empty line has no pattern. -/
def readPattern (lenient : Bool) (line : String) : Except PatternError (Option IgnorePattern) :=
  let cs := lineWithoutTail line.toList
  match cs with
  | [] | '#' :: _ => .ok none
  | _ =>
    let (allows, anchored, body) := match cs with
      | '\\' :: '!' :: _ | '\\' :: '#' :: _ => (false, false, cs.drop 1)
      | '!' :: '/' :: rest => (true, true, rest)
      | '!' :: rest => (true, false, rest)
      | '/' :: rest => (false, true, rest)
      | _ => (false, false, cs)
    let (directoriesOnly, body) := match body.reverse with
      | '/' :: '\\' :: rest => (true, rest.reverse)
      | '/' :: rest => (true, rest.reverse)
      | _ => (false, body)
    match readGlob lenient (String.ofList (globText anchored body)) with
    | .ok glob => .ok (some ⟨glob, allows, directoriesOnly⟩)
    | .error cause => .error ⟨String.ofList cs, cause⟩

/-- What patterns say about a path. -/
inductive Verdict where
  /-- nothing -/
  | silent
  /-- it is left out -/
  | ignored
  /-- it is not left out -/
  | allowed
deriving DecidableEq, Repr

/-- The first verdict that is not silent. -/
def Verdict.or (first second : Verdict) : Verdict := if first = .silent then second else first

/-- A pattern describes a path. -/
def IgnorePattern.describes (p : IgnorePattern) (path : String) (isDirectory : Bool) : Bool :=
  (!p.directoriesOnly || isDirectory) && globMatches p.glob path

/-! ## Patterns of a directory -/

/-- The rest of a text after a front, or the whole text if it starts in another way. -/
def withoutFront (front text : String) : String :=
  if front.toList.isPrefixOf text.toList then String.ofList (text.toList.drop front.length)
  else text

/-- A path without a dot and a slash at its front. -/
def withoutDot (path : String) : String := withoutFront "./" path

/-- Patterns with the directory that they are followed from. -/
structure PatternSet where
  /-- how the directory is written, without a dot and a slash at its front -/
  base : String
  /-- the patterns, later ones over earlier ones -/
  patterns : List IgnorePattern
deriving Repr

namespace PatternSet

/-- Patterns that are followed from a directory. -/
def under (directory : String) (patterns : List IgnorePattern) : PatternSet :=
  ⟨withoutDot directory, patterns⟩

/-- A path as the patterns see it: without the front that it shares with their
directory. A name on its own is left as it is, and so is every path below a directory
that is written as a dot. -/
def view (s : PatternSet) (path : String) : String :=
  let path := withoutDot path
  if pathParts s.base = [.here] || !path.toList.contains '/' then path
  else if s.base.toList.isPrefixOf path.toList then withoutFront "/" (withoutFront s.base path)
  else path

/-- The verdict of the last pattern that describes a path. -/
def verdict (s : PatternSet) (path : String) (isDirectory : Bool) : Verdict :=
  match s.patterns.reverse.find? (·.describes (s.view path) isDirectory) with
  | none => .silent
  | some p => if p.allows then .allowed else .ignored

/-- Some pattern describes a path. -/
def describes (s : PatternSet) (path : String) (isDirectory : Bool) : Bool :=
  s.patterns.any (·.describes (s.view path) isDirectory)

end PatternSet

/-! ## Ignore files -/

/-- The bytes of lines, without their line breaks. -/
def byteLines (line : List UInt8) : List UInt8 → List (List UInt8)
  | [] => if line.isEmpty then [] else [line.reverse]
  | b :: rest =>
    if b == 10 then
      (match line with
      | 13 :: before => before.reverse
      | _ => line.reverse) :: byteLines [] rest
    else byteLines (b :: line) rest

/-- The lines of a file up to the first that is not a text. -/
def contentLines (c : Content) : List String :=
  ((byteLines [] c.bytes).map fun l => String.fromUTF8? ⟨l.toArray⟩).takeWhile Option.isSome
    |>.filterMap id

/-- The patterns of an ignore file. A byte order mark at its front and lines that are no
patterns count for nothing. -/
def patternsOf (c : Content) : List IgnorePattern :=
  let lines := match contentLines c with
    | first :: rest => String.ofList (first.toList.dropWhile (· == '\uFEFF')) :: rest
    | [] => []
  lines.filterMap fun l => match readPattern true l with
    | .ok p => p
    | .error _ => none

/-- The patterns of a file. Where there is no file there are none. -/
def nodePatterns : Option Node → List IgnorePattern
  | some (.file c) => patternsOf c
  | _ => []

end ImportOrder

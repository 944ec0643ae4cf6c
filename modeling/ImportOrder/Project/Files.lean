import ImportOrder.Project.Path

/-!
# Files

A `Project` is a tree of files and directories with a working directory in it. A file or
directory sits at a *location*, the list of names that lead to it from the root; the
root itself is always there. Paths are followed from the working directory, and every
step that a path takes has to be a step inside a directory.

The tree is a value: writing a file gives a new project, and what is not written stays
as it was.
-/

namespace ImportOrder

/-- Why a file or directory could not be read or written. -/
inductive FileError where
  /-- nothing is there -/
  | notFound
  /-- something is there already -/
  | alreadyExists
  /-- a file is there where a directory is needed -/
  | notDirectory
  /-- a directory is there where a file is needed -/
  | isDirectory
  /-- the bytes are not a text -/
  | invalidText
  /-- a name, or the path as a whole, is longer than any can be -/
  | nameTooLong
  /-- the path cannot name anything -/
  | nulInName
  /-- the file may not be opened -/
  | permissionDenied
  /-- the device that has the file does not answer -/
  | deviceFailure
deriving DecidableEq, Repr

/-- The text shown to the user. -/
def FileError.message : FileError → String
  | .notFound => "No such file or directory (os error 2)"
  | .alreadyExists => "File exists (os error 17)"
  | .notDirectory => "Not a directory (os error 20)"
  | .isDirectory => "Is a directory (os error 21)"
  | .nameTooLong => "File name too long (os error 36)"
  | .invalidText => "stream did not contain valid UTF-8"
  | .nulInName => "file name contained an unexpected NUL byte"
  | .permissionDenied => "Permission denied (os error 13)"
  | .deviceFailure => "Input/output error (os error 5)"

/-- What a file holds: a text, bytes that are none, or something that cannot be had. -/
inductive Content where
  /-- a text -/
  | text (value : String)
  /-- bytes that are not valid UTF-8 -/
  | raw (bytes : List UInt8)
  /-- something that can be neither read nor replaced, and why -/
  | locked (cause : FileError)
deriving DecidableEq, Repr, Inhabited

namespace Content

/-- What the bytes of a file hold. -/
def ofBytes (bytes : List UInt8) : Content :=
  match String.fromUTF8? ⟨bytes.toArray⟩ with
  | some s => .text s
  | none => .raw bytes

/-- The bytes of a file, as far as they can be had. -/
def bytes : Content → List UInt8
  | .text s => s.toUTF8.toList
  | .raw bytes => bytes
  | .locked _ => []

/-- The text of a file, or why there is none. -/
def text? : Content → Except FileError String
  | .text s => .ok s
  | .raw _ => .error .invalidText
  | .locked cause => .error cause

end Content

/-- What can be found at a location. -/
inductive Node where
  /-- a directory -/
  | directory
  /-- a file -/
  | file (content : Content)
deriving DecidableEq, Repr

/-- The names that lead from the root to a file or directory. -/
abbrev Location := List String

/-- A location as it is written from the root. -/
def writtenFromRoot (loc : Location) : String := "/" ++ "/".intercalate loc

/-- A tree of files and directories with a working directory. -/
structure Project where
  /-- what is in the tree apart from its root, each location once -/
  nodes : List (Location × Node) := []
  /-- the location of the working directory -/
  cwd : Location := []
deriving Repr, Inhabited

namespace Project

/-- What is at a location. -/
def node? (p : Project) (loc : Location) : Option Node :=
  if loc = [] then some .directory else (p.nodes.find? (·.1 = loc)).map (·.2)

/-- There is a directory at the location. -/
def hasDirectory (p : Project) (loc : Location) : Bool := p.node? loc == some .directory

/-- Put something at a location, in place of what was there. -/
def put (p : Project) (loc : Location) (n : Node) : Project :=
  { p with nodes := p.nodes.filter (·.1 ≠ loc) ++ [(loc, n)] }

/-- Put something at a location and make the directories above it that are missing. -/
def plant (p : Project) (loc : Location) (n : Node) : Project :=
  let parents := (List.range loc.length).map loc.take
  let grown := parents.foldl (fun q l => if (q.node? l).isSome then q else q.put l .directory) p
  if loc = [] then grown else grown.put loc n

/-- The names in a directory, in order. -/
def children (p : Project) (loc : Location) : List String :=
  let below := p.nodes.filterMap fun (l, _) => if l.dropLast = loc then l.getLast? else none
  below.mergeSort fun a b => decide (a ≤ b)

/-- The files of the project with their contents. -/
def files (p : Project) : List (Location × Content) :=
  p.nodes.filterMap fun (l, n) => match n with
    | .file c => some (l, c)
    | .directory => none

/-- The number of bytes that a name can have. -/
def maxName : Nat := 255

/-- The number of bytes that a path stays below. -/
def maxPath : Nat := 4096

/-- Take the steps of a path from a location. The last step may lead to nothing. -/
def follow (p : Project) : Location → List PathPart → Except FileError Location
  | loc, [] => .ok loc
  | loc, part :: rest =>
    match p.node? loc with
    | none => .error .notFound
    | some (.file _) => .error .notDirectory
    | some .directory =>
      match part with
      | .root => p.follow [] rest
      | .here => p.follow loc rest
      | .up => p.follow loc.dropLast rest
      | .name s =>
        if maxName < s.utf8ByteSize then .error .nameTooLong else p.follow (loc ++ [s]) rest

/-- The location that a path leads to. Nothing has to be there. -/
def locate (p : Project) (path : String) : Except FileError Location :=
  if path.toList.contains '\x00' then .error .nulInName
  else if path = "" then .error .notFound
  else if maxPath ≤ path.utf8ByteSize then .error .nameTooLong
  else p.follow p.cwd (pathSteps path)

/-- What a path leads to. -/
def lookup (p : Project) (path : String) : Except FileError (Location × Node) := do
  let loc ← p.locate path
  match p.node? loc with
  | none => .error .notFound
  | some (.file c) => if endsWithSlash path then .error .notDirectory else .ok (loc, .file c)
  | some .directory => .ok (loc, .directory)

/-- A path leads to a directory. -/
def isDirectory (p : Project) (path : String) : Bool :=
  match p.lookup path with
  | .ok (_, .directory) => true
  | _ => false

/-- A path leads to a file. -/
def isFile (p : Project) (path : String) : Bool :=
  match p.lookup path with
  | .ok (_, .file _) => true
  | _ => false

/-- A path leads to something. -/
def has (p : Project) (path : String) : Bool := p.isDirectory path || p.isFile path

/-- The text of a file. -/
def readText (p : Project) (path : String) : Except FileError String := do
  match ← p.lookup path with
  | (_, .directory) => .error .isDirectory
  | (_, .file c) => c.text?

/-- The path ends with a name, so that something can be made there. -/
def endsWithName (path : String) : Bool :=
  match (pathSteps path).getLast? with
  | some (.name _) => true
  | _ => false

/-- Write a text to a file, which is made if it is not there. Its directory has to be
there. A slash after the name asks for a directory, which cannot be written, whatever is
there. -/
def writeText (p : Project) (path : String) (text : String) : Except FileError Project := do
  let loc ← p.locate path
  if !endsWithName path || endsWithSlash path || p.hasDirectory loc then .error .isDirectory
  else match p.node? loc with
    | some (.file (.locked cause)) => .error cause
    | _ => .ok (p.put loc (.file (.text text)))

/-- Make one directory, whose parent has to be there. -/
def makeDirectory (p : Project) (path : String) : Except FileError Project := do
  let loc ← p.locate path
  if (p.node? loc).isSome then .error .alreadyExists else return p.put loc .directory

/-- Make a directory and those above it; `fuel` bounds the number of parents. What has
been made before an error stays. -/
def makeDirectoriesFrom (p : Project) : Nat → String → Except FileError Unit × Project
  | 0, _ => (.ok (), p)
  | fuel + 1, path =>
    if path = "" then (.ok (), p)
    else match p.makeDirectory path with
      | .ok q => (.ok (), q)
      | .error .notFound =>
        match parentPath? path with
        | none => (.error .notFound, p)
        | some parent =>
          match p.makeDirectoriesFrom fuel parent with
          | (.error e, q) => (.error e, q)
          | (.ok (), q) =>
            match q.makeDirectory path with
            | .ok r => (.ok (), r)
            | .error e => (if q.isDirectory path then .ok () else .error e, q)
      | .error e => (if p.isDirectory path then .ok () else .error e, p)

/-- Make a directory and those above it, as far as they are missing. -/
def makeDirectories (p : Project) (path : String) : Except FileError Unit × Project :=
  p.makeDirectoriesFrom (path.length + 1) path

end Project

end ImportOrder

/-!
# Paths

A path is a text with slashes. What it names is decided by its parts: empty parts count
for nothing, and neither does a single dot, except as the very first part, where it is
kept. Two paths with the same parts are the same path, and paths are ordered part by
part.

To follow a path is to take its steps, and there a dot counts wherever it stands: it
leads nowhere, but only a directory has one.
-/

namespace ImportOrder

/-- One part of a path. -/
inductive PathPart where
  /-- the slash at the front of an absolute path -/
  | root
  /-- a single dot at the front of a relative path -/
  | here
  /-- two dots -/
  | up
  /-- the name of a file or directory -/
  | name (text : String)
deriving DecidableEq, Repr

/-- The place of the four kinds of part in their order. -/
def PathPart.rank : PathPart → Nat
  | .root => 0
  | .here => 1
  | .up => 2
  | .name _ => 3

/-- Compare two parts: by kind, and names by code point. -/
def PathPart.compare (a b : PathPart) : Ordering :=
  match a, b with
  | .name s, .name t => Ord.compare s t
  | _, _ => Ord.compare a.rank b.rank

/-- The characters of a text between its slashes. -/
def betweenSlashes : List Char → List (List Char)
  | [] => [[]]
  | '/' :: cs => [] :: betweenSlashes cs
  | c :: cs =>
    match betweenSlashes cs with
    | [] => [[c]]
    | first :: rest => (c :: first) :: rest

/-- The pieces of a path, some of which may be empty. -/
def pathPieces (path : String) : List String := (betweenSlashes path.toList).map String.ofList

/-- The path has a slash at its front. -/
def isAbsolute (path : String) : Bool := path.toList.head? == some '/'

/-- The path has a slash at its end. -/
def endsWithSlash (path : String) : Bool := path.toList.getLast? == some '/'

/-- A part that is not at the front. -/
def innerPart? (piece : String) : Option PathPart :=
  if piece = "" || piece = "." then none
  else if piece = ".." then some .up
  else some (.name piece)

/-- The parts of a path. -/
def pathParts (path : String) : List PathPart :=
  match pathPieces path with
  | [] => []
  | "" :: rest => (if path = "" then [] else [.root]) ++ rest.filterMap innerPart?
  | "." :: rest => .here :: rest.filterMap innerPart?
  | pieces => pieces.filterMap innerPart?

/-- The step that a piece of a path asks for. -/
def step? (piece : String) : Option PathPart :=
  if piece = "." then some .here else innerPart? piece

/-- The steps that a path asks for. -/
def pathSteps (path : String) : List PathPart :=
  (if isAbsolute path then [.root] else []) ++ (pathPieces path).filterMap step?

/-- Compare two lists of parts, the first difference deciding. -/
def compareParts : List PathPart → List PathPart → Ordering
  | [], [] => .eq
  | [], _ :: _ => .lt
  | _ :: _, [] => .gt
  | a :: as, b :: bs => (a.compare b).then (compareParts as bs)

/-- Compare two paths. -/
def comparePathNames (a b : String) : Ordering := compareParts (pathParts a) (pathParts b)

/-- The name of the file that a path leads to. -/
def fileName? (path : String) : Option String :=
  match (pathParts path).getLast? with
  | some (.name s) => some s
  | _ => none

/-- The text after the last dot of a file name. A name whose only dot is at its front
has none. -/
def nameExtension? (name : String) : Option String :=
  let reversed := name.toList.reverse
  let after := reversed.takeWhile (· != '.')
  match reversed.drop after.length with
  | _ :: [] => none
  | _ :: _ => some (String.ofList after.reverse)
  | [] => none

/-- The extension of a path. -/
def extension? (path : String) : Option String := (fileName? path).bind nameExtension?

/-- Parts written as a path again. -/
def renderParts : List PathPart → String
  | .root :: rest => "/" ++ "/".intercalate (rest.map text)
  | parts => "/".intercalate (parts.map text)
where
  /-- One part as it is written. -/
  text : PathPart → String
    | .root => ""
    | .here => "."
    | .up => ".."
    | .name s => s

/-- The path without its last part; the root and the empty path have no parent. -/
def parentPath? (path : String) : Option String :=
  match (pathParts path).getLast? with
  | none | some .root => none
  | some _ => some (renderParts (pathParts path).dropLast)

/-- A path written below a directory. -/
def joinPath (directory path : String) : String :=
  if isAbsolute path then path
  else if directory = "" || endsWithSlash directory then directory ++ path
  else directory ++ "/" ++ path

end ImportOrder

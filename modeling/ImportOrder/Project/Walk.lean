import ImportOrder.Project.UserPatterns
import ImportOrder.Settings.Store

/-!
# Walking directories

Which files a check is about. A path that leads to a file stands for that file; a path
that leads to a directory stands for the files below it that have one of the wanted
extensions. Left out are

* what matches one of the ignore patterns of the settings, which are followed from the
  walked directory;
* what the ignore files in the directories above, or the patterns of the user, say is to
  be left out;
* hidden files and directories, unless an ignore file allows them.

The directories from the walked one downwards are written as the walk was asked for;
those above it are written from the root.

What is left out is not entered either. A path that leads nowhere stands for no file.
The files are sorted by path, and each path is listed once.
-/

namespace ImportOrder

/-- A pattern of the settings that is none. -/
structure ExclusionError where
  /-- the pattern as it was set -/
  pattern : String
  /-- what is wrong with it -/
  cause : PatternError
deriving DecidableEq, Repr

/-- The text shown to the user. -/
def ExclusionError.message (e : ExclusionError) : String :=
  s!"invalid ignore pattern '{e.pattern}': {e.cause.message}"

/-- The patterns of the settings. Each is read behind an exclamation mark: one at its
own front is part of the name that it describes. -/
def readExclusions : List String → Except ExclusionError (List IgnorePattern)
  | [] => .ok []
  | pattern :: rest => do
    match readPattern false ("!" ++ pattern) with
    | .error cause => .error ⟨pattern, cause⟩
    | .ok p =>
      let others ← readExclusions rest
      return p.toList ++ others

/-- The name is that of a hidden file or directory. -/
def isHidden (name : String) : Bool := name.toList.head? == some '.'

/-- What stays the same along a walk. -/
structure WalkPlan where
  /-- how the walked directory is written -/
  top : String
  /-- how it is written from the root -/
  place : String
  /-- the ignore patterns of the settings -/
  exclusions : PatternSet
  /-- the rules of the directories above it, nearest first -/
  above : List DirectoryRules
  /-- the patterns of the user -/
  ofUser : PatternSet

/-- A path below the walked directory, written from the root. -/
def WalkPlan.fromRoot (w : WalkPlan) (path : String) : String :=
  joinPath w.place (if pathParts w.top = [.here] then path
    else withoutFront "/" (withoutFront (withoutDot w.top) path))

/-- What a walk finds under a path is left out. `near` holds the rules of the
directories from the one it is in up to the walked one. -/
def WalkPlan.leavesOut (w : WalkPlan) (near : List DirectoryRules) (found name : String)
    (isDirectory : Bool) : Bool :=
  let path := withoutDot found
  let consulted := near.map (⟨·, path⟩) ++ w.above.map (⟨·, w.fromRoot path⟩)
  w.exclusions.describes path isDirectory ||
    match (directoryVerdict consulted isDirectory).or (w.ofUser.verdict path isDirectory) with
    | .ignored => true
    | .allowed => false
    | .silent => isHidden name

/-- The paths of the files below a directory. `near` holds the rules of the directory
and of those up to the walked one, and `path` is how the directory is written. The depth
of the tree bounds `fuel`. -/
def walkFrom (p : Project) (w : WalkPlan) :
    Nat → List DirectoryRules → Location → String → List String
  | 0, _, _, _ => []
  | fuel + 1, near, loc, path =>
    (p.children loc).flatMap fun name =>
      let below := loc ++ [name]
      let found := joinPath path name
      match p.node? below with
      | none => []
      | some (.file _) => if w.leavesOut near found name false then [] else [found]
      | some .directory =>
        if w.leavesOut near found name true then []
        else walkFrom p w fuel (p.rulesAt below found :: near) below found

/-- The plan of a walk through the directory at a location. -/
def Project.walkPlan (p : Project) (env : Environment) (exclusions : List IgnorePattern)
    (loc : Location) (path : String) : WalkPlan where
  top := path
  place := writtenFromRoot loc
  exclusions := .under path exclusions
  above := ((ancestors loc).drop 1).map fun l => p.rulesAt l (writtenFromRoot l)
  ofUser := p.userPatterns env

/-- The paths of the files below a directory. -/
def walkDirectory (p : Project) (env : Environment) (exclusions : List IgnorePattern)
    (loc : Location) (path : String) : List String :=
  walkFrom p (p.walkPlan env exclusions loc path) (p.nodes.length + 1) [p.rulesAt loc path] loc path

/-- The file has one of the extensions. -/
def hasExtension (extensions : List String) (path : String) : Bool :=
  match extension? path with
  | some e => extensions.contains e
  | none => false

/-- The files that a path stands for. A single dash never stands for a directory. -/
def filesUnder (p : Project) (env : Environment) (settings : FileSettings) (path : String) :
    Except ExclusionError (List String) :=
  if p.isFile path then .ok [path]
  else do
    let exclusions ← readExclusions settings.ignorePatterns
    match p.lookup path with
    | .ok (loc, .directory) =>
      if pathParts path = [.name "-"] then return []
      else
        return (walkDirectory p env exclusions loc path).filter (hasExtension settings.extensions)
    | _ => return []

/-- Leave out each path that is the same as the one before it. -/
def dropRepeated : List String → List String
  | a :: b :: rest =>
    if comparePathNames a b = .eq then dropRepeated (a :: rest) else a :: dropRepeated (b :: rest)
  | paths => paths
termination_by paths => paths.length

/-- The files that paths stand for, sorted and each once. -/
def collectFiles (p : Project) (env : Environment) (settings : FileSettings) (paths : List String) :
    Except ExclusionError (List String) := do
  let found ← paths.mapM (filesUnder p env settings)
  return dropRepeated (found.flatten.mergeSort fun a b => comparePathNames a b != .gt)

end ImportOrder

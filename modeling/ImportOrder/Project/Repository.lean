import ImportOrder.Project.Ignore

/-!
# Directories and repositories

What a directory says about the paths below it: in its files `.ignore` and `.gitignore`,
and in the exclusions of the repository that it is the root of.

A repository is usually the directory `.git`. If `.git` is a file, its first line names
the directory of one of several working trees, and a file `commondir` in there names the
directory that they share. These paths are followed from the working directory.

Of the directories above a path, the nearest one that has something to say decides. All
`.ignore` files come before all `.gitignore` files, those before the exclusions of
repositories, and those before the patterns that a user has for every directory.
-/

namespace ImportOrder

/-- What a directory says about the paths below it. -/
structure DirectoryRules where
  /-- the patterns of its `.ignore` -/
  ignore : PatternSet
  /-- the patterns of its `.gitignore` -/
  gitignore : PatternSet
  /-- the exclusions of the repository that it is the root of -/
  exclude : PatternSet
deriving Repr

namespace Project

/-- The file that a path leads to. -/
def content? (p : Project) (path : String) : Option Content :=
  match p.lookup path with
  | .ok (_, .file c) => some c
  | _ => none

/-- The first line of the file that a path leads to. -/
def firstLine? (p : Project) (path : String) : Option String :=
  (p.content? path).bind fun c => (contentLines c).head?

/-- The directory that the working trees of a repository share, found from the file
`.git` of one. -/
def sharedDirectory? (p : Project) (dotGit : Content) : Option String := do
  let line ← (contentLines dotGit).head?
  if !line.startsWith "gitdir: " then none
  else
    let tree := withoutFront "gitdir: " line
    let shared ← p.firstLine? (joinPath tree "commondir")
    return if shared.startsWith "." then joinPath tree shared else shared

/-- The exclusions of the repository in a directory. -/
def exclusionsAt (p : Project) (loc : Location) : List IgnorePattern :=
  match p.node? (loc ++ [".git"]) with
  | some (.file c) =>
    match p.sharedDirectory? c with
    | some shared => nodePatterns ((p.content? (joinPath shared "info/exclude")).map .file)
    | none => []
  | _ => nodePatterns (p.node? (loc ++ [".git", "info", "exclude"]))

/-- The rules of a directory that is written in some way. -/
def rulesAt (p : Project) (loc : Location) (written : String) : DirectoryRules where
  ignore := .under written (nodePatterns (p.node? (loc ++ [".ignore"])))
  gitignore := .under written (nodePatterns (p.node? (loc ++ [".gitignore"])))
  exclude := .under written (p.exclusionsAt loc)

end Project

/-- Rules with a path as it is written for them. -/
structure Consulted where
  /-- the rules of a directory -/
  rules : DirectoryRules
  /-- the path that they are asked about -/
  path : String

/-- The verdict of the nearest rules that are not silent; the nearest rules come
first. -/
def nearestVerdict (pick : DirectoryRules → PatternSet) (isDirectory : Bool) :
    List Consulted → Verdict
  | [] => .silent
  | c :: rest =>
    ((pick c.rules).verdict c.path isDirectory).or (nearestVerdict pick isDirectory rest)

/-- What the rules of directories say. -/
def directoryVerdict (consulted : List Consulted) (isDirectory : Bool) : Verdict :=
  ((nearestVerdict DirectoryRules.ignore isDirectory consulted).or
    (nearestVerdict DirectoryRules.gitignore isDirectory consulted)).or
    (nearestVerdict DirectoryRules.exclude isDirectory consulted)

end ImportOrder

import ImportOrder.Project.Repository
import ImportOrder.Settings.Environment

/-!
# Ignore patterns of a user

A user can have ignore patterns for every directory. The file that holds them is named
in a configuration file, on a line such as `excludesFile = ~/skip.txt`; the first of
these files that has such a line decides:

* the file that the variable `GIT_CONFIG_GLOBAL` names, or else `.gitconfig` in the home
  directory and `git/config` in the directory for configuration;
* the file that `GIT_CONFIG_SYSTEM` names, or else `/etc/gitconfig`.

Without such a line the file is `git/ignore` in the directory for configuration.
-/

namespace ImportOrder

/-- The value of a variable that is set to something. -/
def Environment.get? (env : Environment) (name : String) : Option String :=
  (env.lookup name).filter (· != "")

/-- The directory for configuration. -/
def configurationHome? (env : Environment) : Option String :=
  (env.get? "XDG_CONFIG_HOME").or ((env.get? "HOME").map (joinPath · ".config"))

/-- The configuration files, in the order in which they are asked. -/
def configurationFiles (env : Environment) : List String :=
  let ofUser := match env.get? "GIT_CONFIG_GLOBAL" with
    | some path => [path]
    | none => ((env.get? "HOME").map (joinPath · ".gitconfig")).toList
      ++ ((configurationHome? env).map (joinPath · "git/config")).toList
  ofUser ++ [(env.get? "GIT_CONFIG_SYSTEM").getD "/etc/gitconfig"]

/-! ## The line of a configuration file -/

/-- A byte that separates words. -/
def isSpaceByte (b : UInt8) : Bool := b == 32 || (9 ≤ b && b ≤ 13)

/-- A byte as a small letter. -/
def lowerByte (b : UInt8) : UInt8 := if 65 ≤ b && b ≤ 90 then b + 32 else b

/-- Only white space is left before the end of a line. -/
def atLineEnd (bytes : List UInt8) : Bool :=
  (bytes.takeWhile isSpaceByte).contains 10 || (bytes.dropWhile isSpaceByte).isEmpty

/-- The end of a value: white space, with or without a closing quote. -/
def atValueEnd (bytes : List UInt8) : Bool :=
  atLineEnd bytes || match bytes.dropWhile isSpaceByte with
    | 34 :: rest => atLineEnd rest
    | _ => false

/-- The shortest value at the front that is followed by the end of one; `done` holds
what was read, last first. -/
def shortestValue? (done : List UInt8) : List UInt8 → Option (List UInt8)
  | [] => none
  | b :: rest =>
    if isSpaceByte b then none
    else if atValueEnd rest then some (b :: done).reverse
    else shortestValue? (b :: done) rest

/-- The name of the setting. -/
def excludesFileName : List UInt8 := "excludesfile".toUTF8.toList

/-- The value of the setting, if a line starts here that gives it. -/
def excludesFileHere? (bytes : List UInt8) : Option (List UInt8) :=
  let line := bytes.dropWhile isSpaceByte
  let name := line.take excludesFileName.length
  if name.map lowerByte != excludesFileName then none
  else match (line.drop name.length).dropWhile isSpaceByte with
    | 61 :: rest =>
      let value := rest.dropWhile isSpaceByte
      match value with
      | 34 :: inner =>
        (shortestValue? [] (inner.dropWhile isSpaceByte)).or (shortestValue? [] value)
      | _ => shortestValue? [] value
    | _ => none

/-- The value of the setting on the first line that gives it. `atStart` says that a line
starts here. -/
def excludesFile? (atStart : Bool) (bytes : List UInt8) : Option (List UInt8) :=
  let here := if atStart then excludesFileHere? bytes else none
  match bytes with
  | [] => here
  | b :: rest => here.or (excludesFile? (b == 10) rest)

/-! ## The patterns -/

/-- A path with the home directory in place of each tilde. -/
def withHome (home : Option String) (path : String) : String :=
  match home with
  | some home => path.replace "~" home
  | none => path

/-- The path that a configuration file names. -/
def Project.namedPatterns? (p : Project) (env : Environment) (file : String) : Option String := do
  let content ← p.content? file
  let bytes ← excludesFile? true content.bytes
  let path ← String.fromUTF8? ⟨bytes.toArray⟩
  return withHome (env.get? "HOME") path

/-- The path of the file with the user's patterns. -/
def Project.userPatternsPath? (p : Project) (env : Environment) : Option String :=
  ((configurationFiles env).findSome? (p.namedPatterns? env)).or
    ((configurationHome? env).map (joinPath · "git/ignore"))

/-- The user's patterns. They are followed from the working directory. -/
def Project.userPatterns (p : Project) (env : Environment) : PatternSet :=
  .under (writtenFromRoot p.cwd)
    (nodePatterns (((p.userPatternsPath? env).bind p.content?).map .file))

end ImportOrder

import ImportOrder.Rule

/-!
# Settings

Everything that a user can set: the options of the rule, which files are looked at, and
whether progress is logged. `Settings` has a default for every field.
-/

namespace ImportOrder

/-- Which files are picked up when a directory is walked. -/
structure FileSettings where
  /-- the extensions of the files that are checked -/
  extensions : List String := ["js", "jsx", "mjs", "cjs", "ts", "tsx", "mts", "cts"]
  /-- patterns of files and directories that are left out -/
  ignorePatterns : List String := ["node_modules/**", "dist/**", "*.min.js"]
deriving DecidableEq, Repr, Inhabited

/-- What a user can set. -/
structure Settings where
  /-- the version of the form of the settings -/
  version : UInt32 := 1
  /-- progress is logged -/
  debug : Bool := false
  /-- the options of the rule -/
  rule : RuleOptions := {}
  /-- which files are picked up -/
  files : FileSettings := {}
deriving DecidableEq, Repr, Inhabited

/-- The options that a rule was made from. -/
def Rule.options (r : Rule) : RuleOptions where
  importsAtStart := r.importsAtStart
  sortOrder := r.sortOrder.categories
  enforceBlankLine := r.enforceBlankLine
  enforceTrailingLine := r.enforceTrailingLine
  ignoreCase := r.ignoreCase

end ImportOrder

import ImportOrder.Settings.Fields
import ImportOrder.Text.Braces
import ImportOrder.Text.Space

/-!
# Settings as text

`Settings.toml` is the content of a settings file that holds given settings,
`Settings.display` the same text as it is shown, without white space at its end.
`settingsTemplate` is the commented file that a new project starts with; it holds the
defaults.
-/

namespace ImportOrder

/-- The content of a settings file. -/
def Settings.toml (s : Settings) : String := s.document.write

/-- The settings as they are shown. -/
def Settings.display (s : Settings) : String := String.ofList (trimmedEnd s.toml.toList)

/-- The settings file of a new project. -/
def settingsTemplate : String :=
s!"# importsort configuration file

# Version of the configuration schema
version = 1

# Global debug mode
debug = false

[rule]
# All imports must come before any other statement
imports_at_start = true

# Order of import categories:
#   \"type\"    - import type {openBrace}A{closeBrace} from \"a\"
#   \"named\"   - imports binding values, e.g. import a from \"a\"
#   \"unnamed\" - side-effect imports such as import \"./polyfill\"
sort_order = [\"type\", \"named\", \"unnamed\"]

# Require a blank line between imports of different categories
enforce_blank_line = false

# Require a blank line after the last import of a group
enforce_trailing_line = false

# Compare paths and specifier names case-insensitively
ignore_case = true

[files]
extensions = [\"js\", \"jsx\", \"mjs\", \"cjs\", \"ts\", \"tsx\", \"mts\", \"cts\"]

# Additional patterns to skip (gitignore syntax)
ignore_patterns = [\"node_modules/**\", \"dist/**\", \"*.min.js\"]
"

end ImportOrder

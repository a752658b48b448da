import Lintscope.Text.Cut

/-!
# Paths

A path is relative to the root of a repository. Tools spell the same path in
several ways, with backslashes and with leading `./`; its *canonical* form has
neither, and paths are compared in that form only.
-/

namespace Lintscope.Path

/-- A character of a path, with a slash for a backslash. -/
def slash (c : Char) : Char := if c = '\\' then '/' else c

/-- A path without the `./` steps it starts with. -/
def dropDotSteps : List Char → List Char
  | '.' :: '/' :: s => dropDotSteps s
  | s => s

/-- The characters of the canonical form of a path. -/
def canonicalChars (s : List Char) : List Char := dropDotSteps (s.map slash)

/-- The canonical form of a path. -/
def canonical (path : String) : String := .ofList (canonicalChars path.toList)

end Lintscope.Path

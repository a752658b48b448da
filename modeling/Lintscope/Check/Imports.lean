import Lintscope.Check
import Lintscope.Text.Blank
import Lintscope.Text.Lines

/-!
# The check of imports

A module of a package should import its neighbours by relative names. So a
statement that imports from the package by name is reported, except for that
of the version, and except in the file that makes the package.
-/

namespace Lintscope.Check.Imports

open Text

/-- Whether a statement imports from a package by name. -/
def isWrong (package : String) (statement : List Char) : Bool :=
  let start := ("from " ++ package ++ " import ").toList
  startsWith start statement && statement ≠ start ++ "__version__".toList

/-- The messages about a line with its number. -/
def ofLine (packages : List String) (path : String) (number : Nat) (line : List Char) :
    List Message :=
  (packages.filter (isWrong · (trim line))).map fun package =>
    Message.about path (some number) ("Wrong import from " ++ package)

/-- The messages about a text. -/
def ofText (packages : List String) (path content : String) : List Message :=
  ((lines content.toList).zipIdx 1).flatMap fun (line, number) => ofLine packages path number line

/-- Whether a file makes a package. -/
def makesPackage (path : String) : Bool :=
  path = "__init__.py" || endsWith "/__init__.py".toList path.toList

/-- The messages about some files; without packages there is nothing to do. -/
def run (w : World) (root : String) (packages names : List String) :
    Except Failure (List Message) :=
  if packages = [] then .ok []
  else files w (names.filter (!makesPackage ·)) fun name =>
    ofContent (plainText w root name) (ofText packages name)

end Lintscope.Check.Imports

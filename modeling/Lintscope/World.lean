import Lintscope.Text.Cut
import Lintscope.Text.Utf8
import Lintscope.World.Tree

/-!
# The world of a run

All that a run depends on besides its settings: the file tree, the directory
that it is in, the programs that go by a name, and whether it has been asked
to stop. The world stays as it is while a run lasts.
-/

namespace Lintscope

/-- The world of a run. -/
structure World where
  /-- The files. -/
  tree : World.Tree
  /-- The place of the working directory. -/
  workplace : List String := []
  /-- The program that goes by a name. -/
  program? : String → Option World.Program
  /-- Whether all work is to stop. -/
  cancelled : Bool := false
  /-- The number of processors. -/
  processors : Nat := 1

/-- A path from a directory; an absolute path leads past it. -/
def Path.join (directory path : String) : String :=
  if directory = "" ∨ Text.startsWith ['/'] path.toList then path
  else if Text.endsWith ['/'] directory.toList then directory ++ path
  else directory ++ "/" ++ path

namespace World

variable (w : World)

/-- The names that a path is made of. -/
def names (path : String) : List String := (path.toList.splitOn '/').map String.ofList

/-- Where a path leads to from a place, and what stands there. -/
def find (place : List String) (path : String) : Except Error (List String × Item) :=
  if path = "" then .error .notFound
  else w.tree.follow (if Text.startsWith ['/'] path.toList then [] else place) (names path)

/-! ## Files -/

/-- The content of a file. -/
def read (path : String) : Except Error (List UInt8) :=
  if path.toList.contains '\x00' then .error .nullInPath
  else
    match w.find w.workplace path with
    | .ok (_, .file octets) => .ok octets
    | .ok (_, .program _) => .ok []
    | .ok (_, .directory) => .error .isDirectory
    | .error e => .error e

/-- The content of a file that is a text. -/
def readText (path : String) : Except Error String := do
  match Utf8.decode (← w.read path) with
  | .ok s => return .ofList s
  | .error _ => .error .notText

/-- Whether a path leads to a file. -/
def isFile (path : String) : Bool := (w.read path).isOk

/-! ## Programs -/

/-- The program of a call from a place: one that goes by the name, or the one
    that the path leads to. -/
def programFrom (place : List String) (program : String) : Except Error Program :=
  if program.toList.contains '/' then
    match w.find place program with
    | .ok (_, .program p) => .ok p
    | .ok _ => .error .denied
    | .error e => .error e
  else
    match w.program? program with
    | some p => .ok p
    | none => .error .notFound

/-- What comes of a call in a directory. -/
def call (directory : String) (c : Call) : Except Error Behaviour :=
  if (directory :: c.program :: c.args).any fun s => s.toList.contains '\x00' then
    .error .nullInArgument
  else
    match w.find w.workplace directory with
    | .error e => .error e
    | .ok (place, .directory) => do return (← w.programFrom place c.program) c.args c.input
    | .ok _ => .error .notDirectory

/-- The attempt of a call in a directory. -/
def launch (directory : String) (c : Call) : Launch := ⟨c, w.call directory c⟩

end World

end Lintscope

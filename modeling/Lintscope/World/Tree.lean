import Lintscope.World.Program

/-!
# File trees

What the file system holds. A place is the list of the names that lead to it
from the top; a directory is there if anything stands below it. A path is
followed name by name: a dot stays, two dots go up, and only a directory can
be passed.
-/

namespace Lintscope.World

/-- What can stand at a place. -/
inductive Item where
  /-- A file. -/
  | file (octets : List UInt8)
  /-- A file that can be run. -/
  | program (p : Program)
  /-- A directory. -/
  | directory

/-- What stands where. -/
structure Tree where
  /-- The places that are known, each with what stands there. -/
  items : List (List String × Item)

namespace Tree

variable (t : Tree)

/-- What stands at a place, if there is anything. -/
def item? (place : List String) : Option Item :=
  match t.items.lookup place with
  | some item => some item
  | none =>
    if place = [] ∨ t.items.any fun (p, _) => place.isPrefixOf p then some .directory else none

/-- What stands where some names lead to from a place. -/
def follow (place : List String) : List String → Except Error (List String × Item)
  | [] =>
    match t.item? place with
    | some item => .ok (place, item)
    | none => .error .notFound
  | name :: names =>
    match t.item? place with
    | none => .error .notFound
    | some .directory =>
      if name = "" ∨ name = "." then follow place names
      else if name = ".." then follow place.dropLast names
      else follow (place ++ [name]) names
    | some _ => .error .notDirectory

end Tree

end Lintscope.World

import Lintscope.Diff.Reader

/-!
# Change index

What a diff means for a path: the file is new, so that every line of it counts
as changed; it is gone; it is changed in certain lines, perhaps in none; or
the diff leaves it alone. A path that the new revision has is not gone,
whatever else the diff says of it, and a new file has no single changed lines.
-/

namespace Lintscope.Diff

/-- What a diff does to a path. -/
inductive Change where
  /-- The file is new. -/
  | new
  /-- The file is gone. -/
  | deleted
  /-- The file is changed in these lines. -/
  | changed (lines : List Nat)
  /-- The diff leaves the path alone. -/
  | untouched
  deriving DecidableEq, Repr

/-- The paths that a diff touches, in ascending order, each in one of the three
    lists. -/
structure Index where
  /-- The changed files with their changed lines, these ascending too. -/
  changed : List (String × List Nat)
  /-- The new files. -/
  added : List String
  /-- The files that are gone. -/
  deleted : List String
  deriving DecidableEq, Repr

/-- Some lines of a file that were changed. -/
structure Hunk where
  /-- The path of the file. -/
  path : String
  /-- The lines. -/
  lines : List Nat

namespace Index

/-- The index of new files, files that are gone, and changed lines, all paths
    being canonical. Lines of one path are put together. -/
def ofCanonical (added deleted : List String) (hunks : List Hunk) : Index :=
  let paths := (hunks.map Hunk.path).filter (· ∉ added)
  { changed := (Ascending.ofList paths).map fun path =>
      (path, Ascending.ofList ((hunks.filter (·.path = path)).flatMap Hunk.lines))
    added := Ascending.ofList added
    deleted := Ascending.ofList (deleted.filter fun path => path ∉ added ∧ path ∉ paths) }

/-- The index of new files, files that are gone, and changed lines. -/
def ofHunks (added deleted : List String) (hunks : List Hunk) : Index :=
  ofCanonical (added.map Path.canonical) (deleted.map Path.canonical)
    (hunks.map fun h => { h with path := Path.canonical h.path })

/-- The path of a file, if it is new. -/
def addedPath? (f : FileChange) : Option String :=
  if f.status = .added then some f.path else none

/-- The path that a file was at and is no more. -/
def leftPath? (f : FileChange) : Option String :=
  match f.status with
  | .deleted => some f.path
  | .renamed source => some source
  | .added | .modified => none

/-- The changed lines of a file that both revisions have. -/
def hunk? (f : FileChange) : Option Hunk :=
  match f.status with
  | .modified | .renamed _ => some ⟨f.path, f.addedLines⟩
  | .added | .deleted => none

/-- The index of the files of a diff. -/
def ofFiles (files : List FileChange) : Index :=
  ofCanonical (files.filterMap addedPath?) (files.filterMap leftPath?) (files.filterMap hunk?)

/-- The index of a diff. -/
def ofDiff (diff : String) : Except Error Index := ofFiles <$> parse diff

variable (i : Index)

/-- What the diff does to a path. -/
def lookup (path : String) : Change :=
  let path := Path.canonical path
  if path ∈ i.deleted then .deleted
  else if path ∈ i.added then .new
  else
    match i.changed.lookup path with
    | some lines => .changed lines
    | none => .untouched

/-- The changed lines of a file that both revisions have. -/
def changedLines (path : String) : Option (List Nat) := i.changed.lookup (Path.canonical path)

/-- Whether a file is new. -/
def isNew (path : String) : Bool := i.lookup path = .new

/-- Whether a file is gone. -/
def isDeleted (path : String) : Bool := i.lookup path = .deleted

/-- Whether the diff touches a file and leaves it there. -/
def isSelectable (path : String) : Bool :=
  match i.lookup path with
  | .new | .changed _ => true
  | .deleted | .untouched => false

/-- The paths that the diff touches and leaves there, in ascending order. -/
def selectablePaths : List String :=
  (i.added ++ i.changed.map Prod.fst).mergeSort fun p q => p ≤ q

/-- The number of paths that the diff touches. -/
def size : Nat := i.changed.length + i.added.length + i.deleted.length

end Index

end Lintscope.Diff

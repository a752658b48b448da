/-!
# Changed files

What a diff says of a file: how it changed, which lines of the new revision
were added, and which stretches of the old revision its hunks cover.
-/

namespace Lintscope.Diff

/-- How a file changed. -/
inductive Status where
  /-- It is not in the old revision. -/
  | added
  /-- It is not in the new revision. -/
  | deleted
  /-- Its content changed, or only its mode. -/
  | modified
  /-- It was moved from another path, its content changed or not. -/
  | renamed (source : String)
  deriving DecidableEq, Repr

/-- A stretch of the old revision. A stretch without lines is the place after
    line `start`. -/
structure Span where
  /-- The first line. -/
  start : Nat
  /-- The number of lines. -/
  length : Nat
  deriving DecidableEq, Repr

/-- A changed file. -/
structure FileChange where
  /-- The path in the new revision, or in the old one if the file is gone. -/
  path : String
  /-- How it changed. -/
  status : Status
  /-- The numbers of the added lines in the new revision, ascending. -/
  addedLines : List Nat
  /-- The stretches that the hunks cover in the old revision, in their order. -/
  oldSpans : List Span
  deriving DecidableEq, Repr

/-- Why a text is no diff. -/
inductive Error where
  /-- The line that begins a file names no path. -/
  | badFileHeader (line : String)
  /-- The line that begins a hunk gives no ranges. -/
  | badHunkHeader (line : String)
  /-- A hunk begins before any file. -/
  | hunkOutsideFile (line : String)
  deriving DecidableEq, Repr

/-- What is wrong with a diff. -/
def Error.message : Error → String
  | badFileHeader line => "malformed diff header: " ++ line
  | badHunkHeader line => "malformed hunk header: " ++ line
  | hunkOutsideFile line => "hunk outside of a file entry: " ++ line

end Lintscope.Diff

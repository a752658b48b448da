import Lintscope.Diff.Header
import Lintscope.Proofs.Text.Lines

/-!
# Patches

What version control writes about changed files, in the form that a diff is
read in. A file has a line that begins it, lines about what it is (new, gone,
moved, of another mode), and, if its content changed, the lines that name its
two sides and the hunks.

The content changes by an *edit script*: each line of either revision is kept,
removed or added. The script is cut into hunks, and kept lines between them
are left out; how many of them stay around a change is free, also from hunk to
hunk.
-/

namespace Lintscope.Diff.Patch

open Text

/-! ## Paths -/

/-- Whether a character is written as it is: no control character, no quote and
    no backslash. -/
def isPlain (c : Char) : Bool := 0x20 ≤ c.toNat && c.toNat ≠ 0x7F && c ≠ '"' && c ≠ '\\'

/-- A path that is written as it is, without quotes around it. -/
structure PlainPath where
  /-- Its characters. -/
  chars : List Char
  ne_nil : chars ≠ [] := by decide
  plain : chars.all isPlain = true := by decide
  /-- It has no `./` in front. -/
  no_step : ∀ s, chars ≠ '.' :: '/' :: s := by simp
  /-- It does not end with a blank. -/
  no_blank : chars.getLast?.any isBlank = false := by decide

/-! ## Edit scripts -/

/-- A text without a newline. -/
abbrev Line := { s : List Char // '\n' ∉ s }

/-- What becomes of a line. -/
inductive Fate where
  /-- It is in both revisions. -/
  | kept
  /-- It is in the old revision only. -/
  | removed
  /-- It is in the new revision only. -/
  | added
  deriving DecidableEq

/-- The sign before a line. -/
def Fate.sign : Fate → Char
  | kept => ' '
  | removed => '-'
  | added => '+'

/-- A line of an edit script. -/
structure Edit where
  /-- What becomes of it. -/
  fate : Fate
  /-- What it says. -/
  text : Line
  /-- Whether it is remarked that the line ends its file without a newline. -/
  unended : Bool := false

/-- The lines of the old revision that a script is about. -/
def oldSide (script : List Edit) : List Edit := script.filter (·.fate ≠ .added)

/-- The lines of the new revision that a script is about. -/
def newSide (script : List Edit) : List Edit := script.filter (·.fate ≠ .removed)

/-- The numbers of the added lines, the lines of the new revision being
    numbered from `first` on. -/
def addedLines (first : Nat) (script : List Edit) : List Nat :=
  ((newSide script).zipIdx first).filterMap fun (e, n) => if e.fate = .added then some n else none

/-- The remark behind a line that ends its file without a newline. -/
def unendedRemark : List Char := "\\ No newline at end of file".toList

/-- The lines that write a line of a script. -/
def Edit.lines (e : Edit) : List (List Char) :=
  (e.fate.sign :: e.text.1) :: if e.unended then [unendedRemark] else []

/-! ## Hunks -/

/-- A part of an edit script that is written, after kept lines that are not. -/
structure FileHunk where
  /-- The kept lines before it that are left out. -/
  skipped : List Line
  /-- The part that is written. -/
  edits : List Edit
  /-- The heading behind the ranges. -/
  heading : Line := ⟨[], by simp⟩
  /-- Whether an old length of one is left out. -/
  oldTerse : Bool := true
  /-- Whether a new length of one is left out. -/
  newTerse : Bool := true

/-- The lines of the edit script that are left out before a hunk. -/
def FileHunk.skippedEdits (h : FileHunk) : List Edit := h.skipped.map (⟨.kept, ·, false⟩)

/-- The part of the edit script that a hunk accounts for. -/
def FileHunk.part (h : FileHunk) : List Edit := h.skippedEdits ++ h.edits

/-- The edit script that hunks are cut from, as far as the last one reaches. -/
def script (hunks : List FileHunk) : List Edit := hunks.flatMap FileHunk.part

/-- A stretch of some lines after others. Without lines, it is the place after
    these. -/
def stretch (before length : Nat) : Span := ⟨if length = 0 then before else before + 1, length⟩

/-- A stretch as it is written; a length of one may be left out. -/
def writeSpan (terse : Bool) (s : Span) : List Char :=
  numeral s.start ++ if terse ∧ s.length = 1 then [] else ',' :: numeral s.length

/-- A heading as it is written behind the ranges of a hunk. -/
def writeHeading (heading : List Char) : List Char := if heading = [] then [] else ' ' :: heading

/-- What the line that begins a hunk starts with. -/
def hunkMark : List Char := "@@ -".toList

namespace FileHunk

variable (h : FileHunk)

/-- The number of lines that the hunk has of the old revision. -/
def oldLength : Nat := (oldSide h.edits).length

/-- The number of lines that the hunk has of the new revision. -/
def newLength : Nat := (newSide h.edits).length

/-- The line that begins the hunk, after `old` and `new` lines of the revisions. -/
def header (old new : Nat) : List Char :=
  hunkMark ++ writeSpan h.oldTerse (stretch old h.oldLength) ++ " +".toList ++
    writeSpan h.newTerse (stretch new h.newLength) ++ " @@".toList ++ writeHeading h.heading.1

/-- The lines of the hunk, after `old` and `new` lines of the revisions. -/
def lines (old new : Nat) : List (List Char) := h.header old new :: h.edits.flatMap Edit.lines

end FileHunk

/-- The lines of hunks, after `old` and `new` lines of the revisions. -/
def hunkLines : Nat → Nat → List FileHunk → List (List Char)
  | _, _, [] => []
  | old, new, h :: hs =>
    let old := old + h.skipped.length
    let new := new + h.skipped.length
    h.lines old new ++ hunkLines (old + h.oldLength) (new + h.newLength) hs

/-- The stretches that hunks cover in the old revision, after `old` lines of it. -/
def oldSpans : Nat → List FileHunk → List Span
  | _, [] => []
  | old, h :: hs =>
    let old := old + h.skipped.length
    stretch old h.oldLength :: oldSpans (old + h.oldLength) hs

/-! ## Files -/

/-- What a patch says that a file is. -/
inductive Kind where
  /-- A new file, with its mode. -/
  | added (mode : Line)
  /-- A file that is gone, with the mode that it had. -/
  | deleted (mode : Line)
  /-- A file that stays, with its modes if they differ. -/
  | modified (modes : Option (Line × Line))
  /-- A file that was moved, with its modes if they differ, and how much of it
      stayed. -/
  | renamed (source : PlainPath) (modes : Option (Line × Line)) (similarity : Line)

/-- What a patch says of the content of a file. -/
inductive Content where
  /-- Nothing, since it stays. -/
  | same
  /-- That it changes; it is no text. -/
  | binary (index : Line)
  /-- How it changes. A file that is new or gone may be empty and then has no
      hunks. -/
  | text (index : Line) (hunks : List FileHunk)

/-- A file in a patch. -/
structure FilePatch where
  /-- The path in the new revision, or in the old one if the file is gone. -/
  path : PlainPath
  /-- What the file is. -/
  kind : Kind
  /-- What happens to its content. -/
  content : Content

/-- The lines about modes that differ. -/
def modeLines : Option (Line × Line) → List (List Char)
  | none => []
  | some (old, new) => ["old mode ".toList ++ old.1, "new mode ".toList ++ new.1]

namespace Kind

/-- The path in the old revision of a file with a path in the new one. -/
def oldPath (path : PlainPath) : Kind → PlainPath
  | renamed source _ _ => source
  | _ => path

/-- How the file changed. -/
def status : Kind → Status
  | added _ => .added
  | deleted _ => .deleted
  | modified _ => .modified
  | renamed source _ _ => .renamed (.ofList source.chars)

/-- The lines about what the file with a path is. -/
def lines (path : PlainPath) : Kind → List (List Char)
  | added mode => ["new file mode ".toList ++ mode.1]
  | deleted mode => ["deleted file mode ".toList ++ mode.1]
  | modified modes => modeLines modes
  | renamed source modes similarity =>
    modeLines modes ++
      ["similarity index ".toList ++ similarity.1, "rename from ".toList ++ source.chars,
        "rename to ".toList ++ path.chars]

end Kind

/-- What the line that begins a file starts with. -/
def fileMark : List Char := "diff --git ".toList

/-- A line that names a side. A name with a space has a tab behind it. -/
def sideLine (marker side : List Char) : List Char :=
  marker ++ side ++ if ' ' ∈ side then ['\t'] else []

namespace FilePatch

variable (c : FilePatch)

/-- The name of the old side. -/
def oldSide : List Char :=
  match c.kind with
  | .added _ => nowhere
  | _ => "a/".toList ++ (c.kind.oldPath c.path).chars

/-- The name of the new side. -/
def newSide : List Char :=
  match c.kind with
  | .deleted _ => nowhere
  | _ => "b/".toList ++ c.path.chars

/-- The hunks of the file. -/
def hunks : List FileHunk :=
  match c.content with
  | .text _ hunks => hunks
  | _ => []

/-- The line that begins the file. -/
def header : List Char :=
  fileMark ++ ("a/".toList ++ (c.kind.oldPath c.path).chars ++ " b/".toList ++ c.path.chars)

/-- The lines that name the sides, and the hunks; an empty file has none. -/
def textLines : List (List Char) :=
  if c.hunks = [] then []
  else
    sideLine "--- ".toList c.oldSide :: sideLine "+++ ".toList c.newSide :: hunkLines 0 0 c.hunks

/-- The lines about the content. -/
def contentLines : List (List Char) :=
  match c.content with
  | .same => []
  | .binary index =>
    ["index ".toList ++ index.1,
      "Binary files ".toList ++ c.oldSide ++ " and ".toList ++ c.newSide ++ " differ".toList]
  | .text index _ => ("index ".toList ++ index.1) :: c.textLines

/-- The lines of the file. -/
def lines : List (List Char) := c.header :: (c.kind.lines c.path ++ c.contentLines)

/-- All lines of either revision have numbers of 32 bits, as far as the hunks
    reach. -/
def Fits : Prop :=
  (Patch.oldSide (script c.hunks)).length < limit32 ∧
    (Patch.newSide (script c.hunks)).length < limit32

instance : Decidable c.Fits := inferInstanceAs (Decidable (_ ∧ _))

/-- What the patch says of the file. -/
def file : FileChange :=
  { path := .ofList c.path.chars
    status := c.kind.status
    addedLines := addedLines 1 (script c.hunks)
    oldSpans := oldSpans 0 c.hunks }

end FilePatch

/-- The text of a patch. -/
def render (changes : List FilePatch) : String :=
  .ofList (written (changes.flatMap FilePatch.lines))

end Lintscope.Diff.Patch

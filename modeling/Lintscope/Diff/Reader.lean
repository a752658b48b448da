import Lintscope.Diff.Header
import Lintscope.Order.Ascending
import Lintscope.Text.Lines

/-!
# Reading diffs

A diff is read line by line. While a hunk owes lines of either revision, a
line is content if it looks like content; every other line is a header, or
says nothing. So a hunk ends with its last line, whatever that line says, and
a line that cannot be content ends it early.
-/

namespace Lintscope.Diff

open Text

/-- A file that is being read. -/
structure Draft where
  /-- The path, empty as long as there is none. -/
  path : String
  /-- How the file changed. -/
  status : Status := .modified
  /-- The numbers of the added lines, the last one first. -/
  added : List Nat := []
  /-- The stretches of the hunks, the last one first. -/
  spans : List Span := []
  /-- Whether a hunk has begun. -/
  inHunks : Bool := false

/-- The file that a draft describes. -/
def Draft.file (d : Draft) : FileChange :=
  ⟨d.path, d.status, Ascending.ofList d.added.reverse, d.spans.reverse⟩

/-- The lines that the hunk being read still owes. -/
structure Cursor where
  /-- The number of the next line of the new revision. -/
  newLine : Nat := 0
  /-- The lines of the old revision still to come. -/
  oldLeft : Nat := 0
  /-- The lines of the new revision still to come. -/
  newLeft : Nat := 0

/-- Whether the hunk still owes lines. -/
def Cursor.isOpen (c : Cursor) : Bool := 0 < c.oldLeft || 0 < c.newLeft

/-- The line after line `n`; the last line that 32 bits can number has none. -/
def nextLine (n : Nat) : Nat := min (n + 1) (limit32 - 1)

/-- The cursor and the draft after a line of content; none if the line is no
    content. An empty line is a kept line whose only blank was lost, and a
    backslash begins a remark. -/
def readContent? (c : Cursor) (d : Draft) : List Char → Option (Cursor × Draft)
  | [] => some (⟨nextLine c.newLine, c.oldLeft - 1, c.newLeft - 1⟩, d)
  | ' ' :: _ => some (⟨nextLine c.newLine, c.oldLeft - 1, c.newLeft - 1⟩, d)
  | '+' :: _ =>
    some (⟨nextLine c.newLine, c.oldLeft, c.newLeft - 1⟩, { d with added := c.newLine :: d.added })
  | '-' :: _ => some ({ c with oldLeft := c.oldLeft - 1 }, d)
  | '\\' :: _ => some (c, d)
  | _ => none

/-- What has been read of a diff. -/
structure Reader where
  /-- The files read, in their order. -/
  files : List FileChange := []
  /-- The file being read. -/
  draft : Option Draft := none
  /-- The hunk being read. -/
  cursor : Cursor := {}

namespace Reader

variable (r : Reader)

/-- All files, also the one being read; a file that never got a path is none. -/
def finish : List FileChange :=
  match r.draft with
  | some d => if d.path = "" then r.files else r.files ++ [d.file]
  | none => r.files

/-- The reader at the start of another file. -/
def begin (d : Draft) : Reader := { files := r.finish, draft := some d }

/-- The reader with a change to the file being read. -/
def update (f : Draft → Draft) : Reader := { r with draft := r.draft.map f, cursor := {} }

/-- The reader after a line that begins a file. -/
def readFileHeader (line rest : List Char) : Except Error Reader :=
  match filePath? rest with
  | some path => .ok (r.begin { path })
  | none => .error (.badFileHeader (.ofList line))

/-- The reader after a line that names the old side. Such a line begins a file
    when there is none, or when hunks of one have been read. -/
def readOldSide (rest : List Char) : Reader :=
  let path := sidePath? "a/".toList rest
  let r := if r.draft.all Draft.inHunks then r.begin { path := path.getD "" } else r
  if path = none then r.update fun d => { d with status := .added } else r.update id

/-- The reader after a line that names the new side. -/
def readNewSide (rest : List Char) : Reader :=
  match sidePath? "b/".toList rest with
  | some path => r.update fun d => { d with path }
  | none => r.update fun d => { d with status := .deleted }

/-- The reader after a line that begins a hunk. -/
def readHunkHeader (line : List Char) : Except Error Reader :=
  match hunkRange? line, r.draft with
  | none, _ => .error (.badHunkHeader (.ofList line))
  | some _, none => .error (.hunkOutsideFile (.ofList line))
  | some range, some d =>
    .ok { r with
      draft := some { d with spans := range.old :: d.spans, inHunks := true }
      cursor := ⟨range.new.start, range.old.length, range.new.length⟩ }

/-- The reader after a line that is no content. -/
def readHeader (line : List Char) : Except Error Reader :=
  if let some rest := dropLead? "diff --git ".toList line then r.readFileHeader line rest
  else if let some rest := dropLead? "--- ".toList line then .ok (r.readOldSide rest)
  else if let some rest := dropLead? "+++ ".toList line then .ok (r.readNewSide rest)
  else if startsWith "@@".toList line then r.readHunkHeader line
  else if startsWith "new file mode".toList line then
    .ok (r.update fun d => { d with status := .added })
  else if startsWith "deleted file mode".toList line then
    .ok (r.update fun d => { d with status := .deleted })
  else if let some source := dropLead? "rename from ".toList line then
    .ok (r.update fun d => { d with status := .renamed (canonicalPath source) })
  else if let some path := dropLead? "rename to ".toList line then
    .ok (r.update fun d => { d with path := canonicalPath path })
  else .ok (r.update id)

/-- The reader after a line. -/
def readLine (line : List Char) : Except Error Reader :=
  match r.draft with
  | some d =>
    if r.cursor.isOpen then
      match readContent? r.cursor d line with
      | some (cursor, d) => .ok { r with draft := some d, cursor }
      | none => r.readHeader line
    else r.readHeader line
  | none => r.readHeader line

end Reader

/-- The files of a diff, in their order. -/
def parse (diff : String) : Except Error (List FileChange) :=
  Reader.finish <$> (lines diff.toList).foldlM Reader.readLine {}

end Lintscope.Diff

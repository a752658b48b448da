import Lintscope.Diff.File
import Lintscope.Path
import Lintscope.Text.Blank
import Lintscope.Text.Numeral
import Lintscope.Text.Utf8

/-!
# Headers of a diff

The paths and the ranges in the lines of a diff that are not content: the line
that begins a file (`diff --git a/old b/new`), the lines that name its two
sides (`--- a/old`, `+++ b/new`) and the line that begins a hunk
(`@@ -1,2 +3,4 @@`).
-/

namespace Lintscope.Diff

open Text

/-- The name that the side of a file that does not exist goes by. -/
def nowhere : List Char := "/dev/null".toList

/-- A text with a quote for each escaped quote. -/
def unescapeQuotes : List Char → List Char
  | [] => []
  | '\\' :: '"' :: s => '"' :: unescapeQuotes s
  | c :: s => c :: unescapeQuotes s

/-- A text with a backslash for each pair of them. -/
def unescapeBackslashes : List Char → List Char
  | [] => []
  | '\\' :: '\\' :: s => '\\' :: unescapeBackslashes s
  | c :: s => c :: unescapeBackslashes s

/-- A path without the quotes around it and the escapes inside it. -/
def unquote (s : List Char) : List Char :=
  let inner := ((dropLead? ['"'] s).bind (dropTail? ['"'])).getD s
  unescapeBackslashes (unescapeQuotes inner)

/-- A path in canonical form. -/
def canonicalPath (s : List Char) : String := .ofList (Path.canonicalChars s)

/-- The path `p` of a text `a/p b/p` that names the same path twice. -/
def samePath? (s : List Char) : Option (List Char) :=
  (dropLead? "a/".toList s).bind fun s =>
    let path := s.take ((s.length - 3) / 2)
    if s = path ++ " b/".toList ++ path then some path else none

/-- The new path of a line that begins a file, without `diff --git `. A text
    that ends in quotes holds the path in them; else the path is the half of
    the text if both halves agree, and what follows the last ` b/` if not. -/
def filePath? (rest : List Char) : Option String :=
  let s := trimEnd rest
  match (if endsWith ['"'] s then cutLast? " \"b/".toList s else none) with
  | some (_, after) => (dropLead? "b/".toList (unquote ("\"b/".toList ++ after))).map canonicalPath
  | none =>
    match samePath? s with
    | some path => some (canonicalPath path)
    | none => (cutLast? " b/".toList s).map fun (_, after) => canonicalPath after

/-- The path of a line that names a side, without its marker, and the directory
    that stands for the side; nothing if the side does not exist. A tab ends
    the path. -/
def sidePath? (side rest : List Char) : Option String :=
  let s := trimEnd (rest.takeWhile (· != '\t'))
  if s = nowhere then none
  else
    let path := dropLead side (unquote s)
    if path = [] then none else some (canonicalPath path)

/-- The ranges of a hunk. -/
structure HunkRange where
  /-- The stretch of the old revision. -/
  old : Span
  /-- The stretch of the new revision. -/
  new : Span
  deriving DecidableEq, Repr

/-- A stretch written as its first line and, unless it is one, its length. -/
def span? (s : List Char) : Option Span :=
  match cut? [','] s with
  | some (start, length) => do
    return ⟨← natOfNumeral? limit32 start, ← natOfNumeral? limit32 length⟩
  | none => do return ⟨← natOfNumeral? limit32 s, 1⟩

/-- The ranges of a line that begins a hunk; a heading may follow them. -/
def hunkRange? (line : List Char) : Option HunkRange := do
  let (ranges, _) ← cut? " @@".toList (← dropLead? "@@ ".toList line)
  match wordsBy isBlank ranges with
  | [old, new] => return ⟨← span? (← dropLead? ['-'] old), ← span? (← dropLead? ['+'] new)⟩
  | _ => none

end Lintscope.Diff

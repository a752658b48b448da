import Lintscope.Diff.Reader
import Lintscope.Message
import Lintscope.Text.Numeral
import Lintscope.Tool.Failure

/-!
# Diffs of formatters

A formatter that is not to touch any file writes the diff that it would apply.
Each hunk is a message about the lines that would be written anew, or about
the line before an insertion.
-/

namespace Lintscope.Output

open Text

/-- The first and the last line of a stretch; none if they do not fit 32 bits. -/
def stretch? (s : Diff.Span) : Option (Nat × Nat) :=
  if s.length = 0 then some (max s.start 1, max s.start 1)
  else if s.start + s.length < limit32 then some (s.start, s.start + s.length - 1)
  else none

/-- The message that lines would be written anew. -/
def reformatting (tool path : String) (first last : Nat) : Message :=
  (Message.about path (some first) (tool ++ " would reformat this code")).withLineEnd
    (if first < last then some last else none)

/-- The messages about a file of a diff. Only files that stay are formatted. -/
def reformatsOf (tool directory : String) (f : Diff.FileChange) :
    Except Failure (List Message) :=
  if f.status = .modified then
    let path := String.ofList (dropLead directory.toList f.path.toList)
    f.oldSpans.mapM fun span =>
      match stretch? span with
      | some (first, last) => .ok (reformatting tool path first last)
      | none => .error .hugePosition
  else .ok []

/-- The messages of a formatter that puts a directory before the new paths. -/
def reformats (tool directory : String) (diff : String) : Except Failure (List Message) := do
  let files ← (Diff.parse diff).mapError fun e => .unreadable (.diff e)
  return (← files.mapM (reformatsOf tool directory)).flatten

end Lintscope.Output

import Lintscope.Check
import Lintscope.Linter.Options
import Lintscope.Text.Blank
import Lintscope.Text.Lines

/-!
# The check of headers

A file should start with the header of the project, as comments: the first
line of a script if it is one, further lines, the text of the header and a
line that ends it. Empty files need none.
-/

namespace Lintscope.Check.Header

open Text

variable (o : HeaderOptions)

/-- The lines that a file should start with. -/
def expected (header : String) (isScript : Bool) : List (List Char) :=
  let comment := o.comment.toList
  let content := o.extra.map String.toList ++ lines header.toList
  (if isScript then (o.shebang.map String.toList).toList else []) ++
    content.map (fun line => trimEnd (comment ++ line)) ++ [comment ++ ['-', '-']]

/-- Whether a file is a script, going by its lines. -/
def isScript (found : List (List Char)) : Bool := found.head?.any (startsWith ['#', '!'] ·)

/-- The messages about lines that differ, from a number on. -/
def differences (path : String) : Nat → List (List Char) → List (List Char) → List Message
  | number, wanted :: ws, found :: fs =>
    let rest := differences path (number + 1) ws fs
    if wanted = found then rest
    else
      Message.about path (some number) ("Line should be: " ++ .ofList wanted) :: rest
  | _, _, _ => []

/-- The message that a file is too short for the header. -/
def tooShort (path : String) (wanted found : Nat) : Message :=
  .about path none ("file ends inside the header: expected " ++ toString wanted ++
    " header lines, found " ++ toString found)

/-- The messages about a text. -/
def ofText (header path content : String) : List Message :=
  if content = "" then []
  else
    let found := lines content.toList
    let wanted := expected o header (isScript found)
    differences path 1 wanted found ++
      if found.length < wanted.length then [tooShort path wanted.length found.length] else []

/-- The messages about some files. -/
def run (w : World) (root : String) (names : List String) : Except Failure (List Message) := do
  let path := Path.join root o.header
  let header ← (w.readText path).mapError (.noHeader path)
  files w names fun name => ofContent (text w root name) (ofText o header name)

end Lintscope.Check.Header

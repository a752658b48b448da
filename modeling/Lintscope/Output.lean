import Lintscope.Message
import Lintscope.Text.Lines
import Lintscope.Tool.Failure

/-!
# Outputs of tools

Most tools write a line for each message, among lines that are none: banners,
progress, sums. What is read of an output is its messages and its other lines,
blank ones aside. When a tool claims to have found something, and none of its
lines is a message, then it is the reading that has failed.
-/

namespace Lintscope

/-- What is read of an output. -/
structure Output where
  /-- The messages, in their order. -/
  messages : List Message := []
  /-- The lines that are no message, in their order. -/
  others : List String := []
  deriving DecidableEq, Repr

namespace Output

/-- The lines of an output that are not blank. -/
def lines (s : List Char) : List (List Char) := (Text.lines s).filter (!Text.allBlank ·)

/-- What is read of an output in which each message is a line. -/
def ofLines (read? : List Char → Option Message) (s : List Char) : Output :=
  { messages := (lines s).filterMap read?
    others := ((lines s).filter fun line => (read? line).isNone).map String.ofList }

variable (o : Output)

/-- The messages of a tool that may claim to have found something; it must not
    claim so in vain. -/
def require (claims : Bool) : Except Failure (List Message) :=
  match o.messages, o.others with
  | [], line :: _ => if claims then .error (.unreadable (.line line)) else .ok []
  | messages, _ => .ok messages

end Output

end Lintscope

import Lintscope.Linter.Options
import Lintscope.Output
import Lintscope.Text.Numeral

/-!
# Lines that match a pattern

The output of a custom linter is read by its own pattern: the named groups of
a match are the parts of the message. A match without a path is no message.
-/

namespace Lintscope.Output

open Text

/-- The trimmed part of a line that a group matched; empty if it matched none. -/
def part (m : Regex.Match) (group : String) : String :=
  .ofList (((m.group? group).map trim).getD [])

/-- The number that a group matched. -/
def partNumber? (m : Regex.Match) (group : String) : Option Nat :=
  (m.group? group).bind fun s => natOfNumeral? limit32 (trim s)

/-- The message of a match. -/
def ofMatch (m : Regex.Match) : Option Message := do
  let path := trim (← m.group? "path")
  guard (path ≠ [])
  let message := (((Message.about (.ofList path) (partNumber? m "line") (part m "text")).withLineEnd
    (partNumber? m "line_end")).withColumn (partNumber? m "column")).withCode (part m "code")
  match m.group? "severity" with
  | some label => return message.withSeverity (Severity.ofLabel (.ofList label))
  | none => return message

/-- What is read of an output by a pattern. -/
def ofPattern (p : OutputPattern) : List Char → Output :=
  ofLines fun line => (p.regex.match? line).bind ofMatch

/-- The part of two outputs that holds the messages. -/
def chosen (stream : OutputStream) (stdout stderr : String) : String :=
  match stream with
  | .stdout => stdout
  | .stderr => stderr
  | .both => stdout ++ "\n" ++ stderr

end Lintscope.Output

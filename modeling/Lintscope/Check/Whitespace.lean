import Lintscope.Check
import Lintscope.Text.Blank
import Lintscope.Text.Lines

/-!
# The check of blanks

A file should have no tabs and no carriage returns, no blanks at the end of a
line, no blank line at its end, and a newline behind its last line. Of each
defect the first place in a line is told, as the number of the character.
-/

namespace Lintscope.Check.Whitespace

open Text

/-- What can be wrong with a line. -/
inductive Defect where
  | trailingEmptyLine
  | missingNewline
  | tab
  | carriageReturn
  | trailingBlanks
  deriving DecidableEq, Repr

/-- The text of the message about a defect. -/
def Defect.text : Defect → String
  | trailingEmptyLine => "trailing empty line"
  | missingNewline => "missing newline at end of file"
  | tab => "tab"
  | carriageReturn => "carriage return"
  | trailingBlanks => "trailing whitespace"

/-- A line without its newline and without its carriage returns. -/
def body (line : List Char) : List Char :=
  ((dropTail? ['\n'] line).getD line).filter (· ≠ '\r')

/-- The number of characters before the first `c` of a line, if it has one. -/
def before? (c : Char) (line : List Char) : Option Nat := line.findIdx? (· = c)

/-- The defects of a line with its number, counted from zero, and whether it is
    the last one; each with the characters before it. -/
def defects (number : Nat) (isLast : Bool) (line : List Char) : List (Defect × Option Nat) :=
  let at? (d : Defect) (column : Option Nat) : List (Defect × Option Nat) :=
    (column.map fun n => (d, some n)).toList
  let kept := trimEnd (body line)
  (if isLast ∧ 0 < number ∧ allBlank line then [(.trailingEmptyLine, none)] else []) ++
    (if isLast ∧ ¬ endsWith ['\n'] line then [(.missingNewline, some line.length)] else []) ++
    at? .tab (before? '\t' line) ++ at? .carriageReturn (before? '\r' line) ++
    (if kept.length < (body line).length then [(.trailingBlanks, some kept.length)] else [])

/-- The message about a defect of a line. -/
def message (path : String) (number : Nat) (d : Defect × Option Nat) : Message :=
  (Message.about path (some (number + 1)) d.1.text).withColumn (d.2.map (· + 1))

/-- The messages about lines from a number on. -/
def ofLines (path : String) : Nat → List (List Char) → List Message
  | _, [] => []
  | number, line :: rest =>
    (defects number rest.isEmpty line).map (message path number) ++ ofLines path (number + 1) rest

/-- The messages about a text. -/
def ofText (path content : String) : List Message :=
  ofLines path 0 (linesWithEnds content.toList)

/-- The messages about some files. -/
def run (w : World) (root : String) (names : List String) : Except Failure (List Message) :=
  files w names fun name => ofContent (text w root name) (ofText name)

end Lintscope.Check.Whitespace

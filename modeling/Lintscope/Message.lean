import Lintscope.Path
import Lintscope.Text.Blank

/-!
# Messages

A linter's finding in the form common to all linters: where it is, how severe
it is, and what it says. Lines and columns count from one, so a tool's zero
means that there is none.
-/

namespace Lintscope

/-- How grave a message is, from the least to the most. -/
inductive Severity where
  /-- A remark. -/
  | info
  /-- A doubt. -/
  | warning
  /-- A fault. -/
  | error
  deriving DecidableEq, Repr

namespace Severity

/-- The place of a severity in the order. -/
def rank : Severity → Nat
  | info => 0
  | warning => 1
  | error => 2

instance : LE Severity := ⟨fun a b => a.rank ≤ b.rank⟩

instance (a b : Severity) : Decidable (a ≤ b) := inferInstanceAs (Decidable (a.rank ≤ b.rank))

/-- The word for a severity. -/
def name : Severity → String
  | info => "info"
  | warning => "warning"
  | error => "error"

/-- The severity with a given name. -/
def ofName? : String → Option Severity
  | "info" => some info
  | "warning" => some warning
  | "error" => some error
  | _ => none

/-- The words of linters that mean a remark. -/
def infoLabels : List String :=
  ["info", "information", "note", "style", "convention", "refactor", "performance", "portability"]

/-- The words of linters that mean an error. -/
def errorLabels : List String := ["error", "fatal", "severe"]

/-- The severity that a linter's own word stands for, whatever its case and the
    blanks around it; an unknown word is a warning. -/
def ofLabel (label : String) : Severity :=
  let word := String.ofList ((Text.trim label.toList).map Char.toLower)
  if word ∈ infoLabels then info else if word ∈ errorLabels then error else warning

end Severity

/-- A finding of a linter. -/
structure Message where
  /-- The file it is about; none for a message about the linter's own run. -/
  path : Option String
  /-- The line; none for a message about the whole file. -/
  line : Option Nat
  /-- The last line of a message about several lines. -/
  lineEnd : Option Nat := none
  /-- The column. -/
  column : Option Nat := none
  /-- How grave it is. -/
  severity : Severity := .warning
  /-- The linter's name for the rule that is broken. -/
  code : Option String := none
  /-- What it says. -/
  text : String
  deriving DecidableEq, Repr

namespace Message

/-- A position, unless it is zero. -/
def positive? (n : Option Nat) : Option Nat := n.filter (0 < ·)

/-- A warning about a line of a file, or about the whole file. -/
def about (path : String) (line : Option Nat) (text : String) : Message :=
  { path := some (Path.canonical path), line := positive? line, text }

/-- A message about a linter's run. -/
def ofLinter (severity : Severity) (text : String) : Message :=
  { path := none, line := none, severity, text }

variable (m : Message)

/-- The message with a column, unless that is zero. -/
def withColumn (column : Option Nat) : Message := { m with column := positive? column }

/-- The message with a last line. -/
def withLineEnd (lineEnd : Option Nat) : Message := { m with lineEnd }

/-- The message with a severity. -/
def withSeverity (severity : Severity) : Message := { m with severity }

/-- The message with a code, unless that is empty. -/
def withCode (code : String) : Message := { m with code := if code = "" then none else some code }

/-- The message with another text. -/
def withText (text : String) : Message := { m with text }

/-- The first and the last line of the message, if it has a line. A last line
    before the first counts for nothing. -/
def lineRange : Option (Nat × Nat) :=
  m.line.map fun start => (start, max start (m.lineEnd.getD start))

end Message

end Lintscope

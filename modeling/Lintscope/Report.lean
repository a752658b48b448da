import Lintscope.Message

/-!
# Reports

What a run found: the messages of all linters, each with the linter it comes
from and with whether it is in scope. A message in scope whose severity
reaches the threshold of the report is *blocking*, and a report with a
blocking message fails.
-/

namespace Lintscope

/-- Which messages a report counts as in scope. -/
inductive ReportMode where
  /-- All of them. -/
  | full
  /-- Those on changed code. -/
  | changedLines
  deriving DecidableEq, Repr

/-- The name of a mode. -/
def ReportMode.name : ReportMode → String
  | full => "full"
  | changedLines => "changed_lines"

/-- A message in a report. -/
structure Entry where
  /-- The linter that it comes from. -/
  linter : String
  /-- Whether it is in scope. -/
  inScope : Bool
  /-- The message. -/
  message : Message
  deriving DecidableEq, Repr

namespace Entry

variable (e : Entry)

/-- The path of the entry for ordering; the empty path if there is none. -/
def path : String := e.message.path.getD ""

/-- The order of the entries of a report: by path, line, linter, column, code
    and text, what is absent before all else. -/
def compare (a b : Entry) : Ordering :=
  (Ord.compare a.path b.path).then <|
  (Ord.compare (a.message.line.getD 0) (b.message.line.getD 0)).then <|
  (Ord.compare a.linter b.linter).then <|
  (Ord.compare (a.message.column.getD 0) (b.message.column.getD 0)).then <|
  (Ord.compare (a.message.code.getD "") (b.message.code.getD "")).then <|
  Ord.compare a.message.text b.message.text

/-- Whether the entry makes a report with a threshold fail. -/
def blocks (failOn : Severity) : Bool := e.inScope && failOn ≤ e.message.severity

end Entry

/-- What a run found. -/
structure Report where
  /-- Which messages count as in scope. -/
  mode : ReportMode
  /-- The severity that fails the report. -/
  failOn : Severity
  /-- The linters that were chosen, in their order. -/
  linters : List String := []
  /-- Warnings about the run itself. -/
  warnings : List String := []
  /-- The number of messages that are not in the report. -/
  dropped : Nat := 0
  /-- The messages. -/
  entries : List Entry := []
  deriving DecidableEq, Repr

namespace Report

variable (r : Report)

/-- The report with its entries in order; entries that compare alike keep the
    order they have. -/
def sort : Report := { r with entries := r.entries.mergeSort fun a b => (a.compare b).isLE }

/-- The entries in scope. -/
def inScope : List Entry := r.entries.filter (·.inScope)

/-- The number of entries that are not in scope. -/
def suppressed : Nat := r.entries.countP (!·.inScope)

/-- The number of blocking entries. -/
def blocking : Nat := r.entries.countP (·.blocks r.failOn)

/-- The verdict as the exit code of a process: one if something blocks. -/
def exitCode : Nat := if 0 < r.blocking then 1 else 0

end Report

end Lintscope

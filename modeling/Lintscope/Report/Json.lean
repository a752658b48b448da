import Lintscope.Json.Printer
import Lintscope.Report

/-!
# Reports as JSON

The fields of a message stand beside the linter and the scope of its entry. A
last line, a column or a code that is absent is left out; a path or a line that
is absent is null.
-/

namespace Lintscope

/-- A value, or null. -/
def Json.ofOption {α : Type} (f : α → Json) : Option α → Json
  | some a => f a
  | none => .null

/-- A member, or none. -/
def Json.optional {α : Type} (name : String) (f : α → Json) : Option α → List (String × Json)
  | some a => [(name, f a)]
  | none => []

/-- A number as a value. -/
def Json.nat (n : Nat) : Json := .int n

/-- The fields of a message. -/
def Message.members (m : Message) : List (String × Json) :=
  [("path", Json.ofOption .str m.path), ("line", Json.ofOption .nat m.line)] ++
    Json.optional "line_end" .nat m.lineEnd ++
    Json.optional "column" .nat m.column ++
    [("severity", .str m.severity.name)] ++
    Json.optional "code" .str m.code ++
    [("text", .str m.text)]

/-- An entry as a value. -/
def Entry.toJson (e : Entry) : Json :=
  .obj ([("linter", .str e.linter), ("in_scope", .bool e.inScope)] ++ e.message.members)

/-- A report as a value. -/
def Report.toJson (r : Report) : Json :=
  .obj [
    ("mode", .str r.mode.name),
    ("fail_on", .str r.failOn.name),
    ("linters", .arr (r.linters.map .str)),
    ("warnings", .arr (r.warnings.map .str)),
    ("dropped", .nat r.dropped),
    ("entries", .arr (r.entries.map Entry.toJson))]

end Lintscope

import Lintscope.Report

/-!
# Reports to read

The entries in scope under a heading for each path, with an empty line before
every heading but the first, and a line that sums the report up.
-/

namespace Lintscope

/-- A text with blanks behind it up to a width. -/
def padded (width : Nat) (s : String) : String :=
  s ++ String.ofList (List.replicate (width - s.length) ' ')

/-- Where in its file a message is. -/
def Message.location (m : Message) : String :=
  match m.line, m.column with
  | some line, some column => toString line ++ ":" ++ toString column
  | some line, none => toString line
  | none, _ => "-"

/-- The line of an entry. -/
def Entry.line (e : Entry) : String :=
  "  " ++ padded 8 e.message.location ++ " " ++ padded 12 e.linter ++ " " ++
    e.message.severity.name ++ " " ++
    (match e.message.code with
      | some code => code ++ " "
      | none => "") ++
    e.message.text ++ "\n"

/-- The heading of the entries of a path. -/
def heading (path : Option String) : String := path.getD "(linter)" ++ "\n"

namespace Report

/-- The lines of entries, the last heading being that of `current`. -/
def entryLines (current : Option (Option String)) : List Entry → List String
  | [] => []
  | e :: es =>
    let path := e.message.path
    let lines := e.line :: entryLines (some path) es
    match current with
    | none => heading path :: lines
    | some last => if last = path then lines else "\n" :: heading path :: lines

variable (r : Report)

/-- The line that sums the report up. -/
def summary : String :=
  toString r.linters.length ++ " linter(s), " ++ toString r.inScope.length ++
    " message(s) in scope, " ++ toString r.blocking ++ " blocking at '" ++ r.failOn.name ++
    "' or above" ++
    (match r.mode with
      | .full => ""
      | .changedLines => ", " ++ toString r.suppressed ++ " on unchanged lines suppressed") ++
    "\n"

/-- The report as a text to read. -/
def renderText : String :=
  String.join (r.warnings.map fun w => "warning: " ++ w ++ "\n") ++
    String.join (entryLines none r.inScope) ++
    (if r.entries.isEmpty then "" else "\n") ++ r.summary

end Report

end Lintscope

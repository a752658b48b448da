import Lintscope.Json.Reader
import Lintscope.Message
import Lintscope.Text.Blank
import Lintscope.Tool.Failure

/-!
# Reports in JSON

Some tools write all their messages as one list of records. An empty output
is an empty list.
-/

namespace Lintscope.Output

open Json (Reader)

/-- The records of an output. -/
def records {α : Type} (record : Reader α) (output : String) : Except Failure (List α) :=
  if Text.allBlank output.toList then .ok []
  else ((Reader.list record).run output).mapError fun e => .unreadable (.report output e)

/-! ## Records of `pylint` -/

/-- A record of `pylint`. -/
structure PylintRecord where
  /-- The kind of message. -/
  kind : String := ""
  /-- The file. -/
  path : String := ""
  /-- The line. -/
  line : Nat := 0
  /-- The column, counted from zero. -/
  column : Nat := 0
  /-- The last line. -/
  lineEnd : Option Nat := none
  /-- The name of the check. -/
  symbol : String := ""
  /-- The text. -/
  text : String := ""
  /-- The number of the check. -/
  code : String := ""

namespace PylintRecord

/-- The fields of a record. -/
def fields : List (Reader.Field PylintRecord) :=
  [Reader.field "type" Reader.text fun a r => { r with kind := a },
    Reader.field "path" Reader.text fun a r => { r with path := a },
    Reader.field "line" Reader.natural32 fun a r => { r with line := a },
    Reader.field "column" Reader.natural32 fun a r => { r with column := a },
    { Reader.field "endLine" (Reader.optional Reader.natural32)
        fun a r => { r with lineEnd := a } with required := false },
    Reader.field "symbol" Reader.text fun a r => { r with symbol := a },
    Reader.field "message" Reader.text fun a r => { r with text := a },
    Reader.field "message-id" Reader.text fun a r => { r with code := a }]

/-- Reads a record. -/
def read : Reader PylintRecord := Reader.record "PylintRecord" fields {}

variable (r : PylintRecord)

/-- The message of a record. -/
def message : Except Failure Message :=
  if r.column + 1 < Text.limit32 then
    let m := Message.about r.path (some r.line) r.text
    let m := (m.withColumn (some (r.column + 1))).withLineEnd r.lineEnd
    .ok ((m.withSeverity (Severity.ofLabel r.kind)).withCode (r.code ++ "(" ++ r.symbol ++ ")"))
  else .error .hugePosition

end PylintRecord

/-- The messages of `pylint`. -/
def pylintMessages (output : String) : Except Failure (List Message) := do
  (← records PylintRecord.read output).mapM PylintRecord.message

/-! ## Records of `rst-lint` -/

/-- A record of `rst-lint`. -/
structure RstRecord where
  /-- The file. -/
  path : String := ""
  /-- The line. -/
  line : Option Nat := none
  /-- The kind of message. -/
  kind : String := ""
  /-- The text. -/
  text : String := ""

namespace RstRecord

/-- The fields of a record. -/
def fields : List (Reader.Field RstRecord) :=
  [Reader.field "source" Reader.text fun a r => { r with path := a },
    { Reader.field "line" (Reader.optional Reader.natural32) fun a r => { r with line := a } with
      required := false },
    Reader.field "type" Reader.text fun a r => { r with kind := a },
    Reader.field "message" Reader.text fun a r => { r with text := a }]

/-- Reads a record. -/
def read : Reader RstRecord := Reader.record "RstRecord" fields {}

variable (r : RstRecord)

/-- The message of a record. -/
def message : Message :=
  (Message.about r.path r.line r.text).withSeverity (Severity.ofLabel r.kind)

end RstRecord

/-- The messages of `rst-lint`. -/
def rstMessages (output : String) : Except Failure (List Message) := do
  return (← records RstRecord.read output).map RstRecord.message

end Lintscope.Output

import Lintscope.Output
import Lintscope.Text.Blank
import Lintscope.Text.Cut
import Lintscope.Text.Numeral
import Lintscope.Unicode.Digit

/-!
# Lines with a location

Many tools write `path:line: text` or `path:line:column: text`. The path has
no colon; a number is a run of digits of any script, but only one that is
written in ASCII digits and fits 32 bits is known.
-/

namespace Lintscope.Output

open Text

/-- A line that tells where something is. -/
structure Location where
  /-- The path. -/
  path : List Char
  /-- The line, if it is known. -/
  line : Option Nat
  /-- The column, if there is one and it is known. -/
  column : Option Nat := none
  /-- What is said about it, trimmed. -/
  rest : List Char

/-- The number before the first colon of a text, and what follows the colon. -/
def number? (s : List Char) : Option (Option Nat × List Char) := do
  let (digits, rest) ← cut? [':'] s
  guard (digits ≠ [] ∧ digits.all Unicode.isDigit)
  return (natOfNumeral? limit32 digits, rest)

namespace Location

/-- Reads a line that tells where something is. -/
def read? (s : List Char) : Option Location := do
  let (path, s) ← cut? [':'] s
  guard (path ≠ [])
  let (line, s) ← number? s
  match number? s with
  | some (column, s) => return { path, line, column, rest := trim s }
  | none => return { path, line, rest := trim s }

variable (l : Location)

/-- The message about a location, with a text yet to come. -/
def message : Message := (Message.about (.ofList l.path) l.line "").withColumn l.column

end Location

/-- What is read of an output with locations; `finish` puts what is said about
    a location into the message. -/
def ofLocations (finish : Message → List Char → Message) : List Char → Output :=
  ofLines fun line => (Location.read? line).map fun l => finish l.message l.rest

end Lintscope.Output

import Lintscope.Output.Location
import Lintscope.Unicode.Word

/-!
# Lines after a template

Some tools write their messages after a template that they are given. The one
given here puts a colon between the parts, and the text last, so that a text
may have colons itself.
-/

namespace Lintscope.Output

open Text

/-- The template. -/
def template : String :=
  "\x7bfile\x7d:\x7bline\x7d:\x7bseverity\x7d:\x7bid\x7d:\x7bmessage\x7d"

/-- The word before the first colon of a text, and what follows the colon. -/
def word? (s : List Char) : Option (List Char × List Char) := do
  let (word, rest) ← cut? [':'] s
  guard (word ≠ [] ∧ word.all Unicode.isWord)
  return (word, rest)

/-- Reads a line after the template. -/
def templated? (s : List Char) : Option Message := do
  let (path, s) ← cut? [':'] s
  guard (path ≠ [])
  let (line, s) ← number? s
  let (severity, s) ← word? s
  let (code, text) ← word? s
  let m := Message.about (.ofList path) line (.ofList (trim text))
  return (m.withSeverity (Severity.ofLabel (.ofList severity))).withCode (.ofList code)

/-- The messages of an output after the template. -/
def templatedMessages (s : List Char) : List Message := (Text.lines s).filterMap templated?

end Lintscope.Output

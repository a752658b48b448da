import Lintscope.Output.Location

/-!
# Messages of two lines

A tool may write the location of a message on one line, and `CODE: text` on
the next. Blank lines and warnings of the tool about itself can stand
anywhere. A location without a next line is no message.
-/

namespace Lintscope.Output

open Text

/-- The path and the line that a text starts with. -/
def heading? (s : List Char) : Option (List Char × Option Nat) := do
  let (path, s) ← cut? [':'] s
  guard (path.head?.any (!isBlank ·))
  let digits := s.takeWhile Unicode.isDigit
  guard (digits ≠ [])
  guard ((s.drop digits.length).head?.all fun c => isBlank c || c = ':')
  return (path, natOfNumeral? limit32 digits)

/-- A message whose location and text stand on lines of their own. -/
def ofPair (path : List Char) (line : Option Nat) (detail : List Char) : Message :=
  let detail := trim detail
  match cut? [':'] detail with
  | some (code, text) =>
    (Message.about (.ofList path) line (.ofList (trim text))).withCode (.ofList (trim code))
  | none => Message.about (.ofList path) line (.ofList detail)

/-- What is read of lines that come in pairs. -/
def ofPairs : List (List Char) → Output
  | [] => {}
  | first :: rest =>
    match heading? first, rest with
    | some (path, line), detail :: rest =>
      let o := ofPairs rest
      { o with messages := ofPair path line detail :: o.messages }
    | some _, [] => { others := [.ofList first] }
    | none, rest =>
      let o := ofPairs rest
      { o with others := .ofList first :: o.others }

/-- Whether a line is a warning of the tool about itself. -/
def isWarning (line : List Char) : Bool := contains "WARNING: ".toList line

/-- What is read of an output with messages of two lines. -/
def ofPairedLines (s : List Char) : Output := ofPairs ((lines s).filter (!isWarning ·))

end Lintscope.Output

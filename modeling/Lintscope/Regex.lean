import Lintscope.Regex.Parser
import Lintscope.Regex.Search
import Lintscope.Regex.Weight

/-!
# Regular expressions

A regular expression is a pattern with its program. Applied to a text it finds the
leftmost match, of several there the preferred one, and tells the stretches of the text
that the named groups matched.
-/

namespace Lintscope

/-- A regular expression. -/
structure Regex where
  /-- The text that it was written as. -/
  text : String
  /-- Its pattern. -/
  pattern : Regex.Pattern

namespace Regex

/-- The regular expression that a text writes. -/
def parse (text : String) : Except Error Regex := do
  return ⟨text, ← (← Pattern.parse text).bearable⟩

variable (r : Regex)

/-- The names of the groups. -/
def names : List String := r.pattern.names.map (·.1)

/-- What a match found in a text. -/
structure Match where
  /-- The named groups with their numbers. -/
  names : List (String × Nat)
  /-- The text. -/
  text : List Char
  /-- The places that were kept. -/
  slots : Slots

/-- The stretch of the text that a named group matched, if it took part in the match. -/
def Match.group? (m : Match) (name : String) : Option (List Char) := do
  let index ← m.names.lookup name
  let start ← m.slots.lookup (2 * index)
  let stop ← m.slots.lookup (2 * index + 1)
  return (m.text.take stop).drop start

/-- The leftmost match in a text. -/
def match? (text : List Char) : Option Match :=
  (search r.pattern.program text).map fun slots => ⟨r.pattern.names, text, slots⟩

end Regex

end Lintscope

import Lintscope.Regex.Error
import Lintscope.Regex.CharSet
import Lintscope.Text.Blank

/-!
# Reading along a pattern

A cursor holds the unread part of a pattern and how many characters come before it. In
the verbose style blanks and comments are read over, so most moves come in two kinds.
-/

namespace Lintscope.Regex

/-- The unread part of a pattern. -/
structure Cursor where
  /-- What is still to be read. -/
  rest : List Char
  /-- The number of characters before it. -/
  offset : Nat := 0

namespace Cursor

variable (c : Cursor)

/-- Whether all is read. -/
def atEnd : Bool := c.rest.isEmpty

/-- The next character. -/
def peek : Option Char := c.rest.head?

/-- Whether the next character is `x`. -/
def sees (x : Char) : Bool := c.peek == some x

/-- Moves over `n` characters. -/
def skip (n : Nat) : Cursor := ⟨c.rest.drop n, c.offset + min n c.rest.length⟩

/-- Moves over blanks and comments. -/
def overGap : Cursor :=
  go false c.rest c.offset
where
  go (inComment : Bool) : List Char → Nat → Cursor
    | [], n => ⟨[], n⟩
    | x :: rest, n =>
      if inComment then go (x ≠ '\n') rest (n + 1)
      else if x = '#' then go true rest (n + 1)
      else if Text.isBlank x then go false rest (n + 1)
      else ⟨x :: rest, n⟩

/-- Moves over blanks and comments in the verbose style. -/
def space (verbose : Bool) : Cursor := if verbose then c.overGap else c

/-- Moves over a character, and in the verbose style over the gap behind it. -/
def next (verbose : Bool) : Cursor := (c.skip 1).space verbose

/-- The character behind the next one, in the verbose style behind the gap as well. -/
def after (verbose : Bool) : Option Char := ((c.skip 1).space verbose).peek

/-- Moves over a text, if it is next. -/
def skip? (text : String) : Option Cursor :=
  if text.toList.isPrefixOf c.rest then some (c.skip text.length) else none

/-- The stretch of the next character. -/
def char : Stretch := ⟨c.offset, c.offset + 1⟩

/-- The empty stretch at the cursor. -/
def point : Stretch := ⟨c.offset, c.offset⟩

/-- The stretch from an offset to the cursor. -/
def since (start : Nat) : Stretch := ⟨start, c.offset⟩

end Cursor

/-- Stops with a problem. -/
def fail {α : Type} (problem : Problem) (stretch : Stretch) : Except Error α :=
  throw ⟨problem, stretch⟩

/-- How a part of a pattern is to be read. -/
structure Flags where
  /-- Case does not matter. -/
  anyCase : Bool := false
  /-- The assertions about the ends of a text hold at the ends of a line. -/
  multiLine : Bool := false
  /-- A dot stands for a line feed, too. -/
  dotAll : Bool := false
  /-- Repetitions take as few rounds as they can. -/
  lazy : Bool := false
  /-- Characters are those of Unicode. -/
  unicode : Bool := true
  /-- A carriage return ends a line, too. -/
  carriageReturn : Bool := false
  /-- Blanks and comments are read over. -/
  verbose : Bool := false

end Lintscope.Regex

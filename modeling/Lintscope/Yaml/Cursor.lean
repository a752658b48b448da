import Lintscope.Yaml.Error

/-!
# Reading along a text

A cursor holds the unread part of a text and the place where it starts. It moves
over a character within a line, or over a line break, which may be two characters
long: a carriage return with a line feed after it is one break.
-/

namespace Lintscope.Yaml

/-- Whether a character ends a line. -/
def isBreak (c : Char) : Bool :=
  c == '\r' || c == '\n' || c == '\u0085' || c == '\u2028' || c == '\u2029'

/-- Whether a character separates words within a line. -/
def isSpaceOrTab (c : Char) : Bool := c == ' ' || c == '\t'

/-- Whether a character may stand in the name of an anchor, a tag handle or a
    directive. -/
def isNameChar (c : Char) : Bool := c.isAlphanum || c == '_' || c == '-'

/-- The characters that a text may hold: no control characters but tabs and line
    breaks, and nothing that is no character at all. -/
def isAllowed (c : Char) : Bool :=
  let n := c.toNat
  n == 0x09 || n == 0x0A || n == 0x0D || (0x20 ≤ n && n ≤ 0x7E) || n == 0x85
    || (0xA0 ≤ n && n ≤ 0xD7FF) || (0xE000 ≤ n && n ≤ 0xFFFD) || 0x10000 ≤ n

/-- The value of a hexadecimal digit. -/
def hexValue? (c : Char) : Option Nat :=
  if c.isDigit then some (c.toNat - '0'.toNat)
  else if 'a' ≤ c && c ≤ 'f' then some (c.toNat - 'a'.toNat + 10)
  else if 'A' ≤ c && c ≤ 'F' then some (c.toNat - 'A'.toNat + 10)
  else none

/-- The unread part of a text and where it starts. -/
structure Cursor where
  /-- What is still to be read. -/
  rest : List Char
  /-- Where that starts. -/
  place : Place := {}

namespace Cursor

/-- The next character. -/
def peek (c : Cursor) : Option Char := c.rest.head?

/-- The character `n` after the next one. -/
def at? (c : Cursor) (n : Nat) : Option Char := (c.rest.drop n).head?

/-- Whether the next character is `x`. -/
def sees (c : Cursor) (x : Char) : Bool := c.peek == some x

/-- Whether there is a blank, a line break or the end of the text `n` characters on. -/
def gapAt (c : Cursor) (n : Nat) : Bool :=
  match c.at? n with
  | none => true
  | some x => isSpaceOrTab x || isBreak x

/-- Whether the line, or the text, ends here. -/
def atLineEnd (c : Cursor) : Bool :=
  match c.peek with
  | none => true
  | some x => isBreak x

/-- Moves over `n` characters of a line. -/
def advance (c : Cursor) (n : Nat) : Cursor :=
  { rest := c.rest.drop n,
    place := { c.place with index := c.place.index + n, column := c.place.column + n } }

/-- Moves over one character of a line. -/
def step (c : Cursor) : Cursor := c.advance 1

/-- Moves over a line break, if one is next; tells the character it stands for. -/
def lineBreak (c : Cursor) : List Char × Cursor :=
  let next (n : Nat) : Place :=
    { index := c.place.index + n, line := c.place.line + 1, column := 0 }
  match c.rest with
  | '\r' :: '\n' :: rest => (['\n'], ⟨rest, next 2⟩)
  | x :: rest =>
    if x = '\u2028' || x = '\u2029' then ([x], ⟨rest, next 1⟩)
    else if isBreak x then (['\n'], ⟨rest, next 1⟩)
    else ([], c)
  | [] => ([], c)

/-- Moves over the characters of a line that satisfy `p`. -/
def span (c : Cursor) (p : Char → Bool) : List Char × Cursor :=
  let found := c.rest.takeWhile p
  (found, c.advance found.length)

/-- Moves over blanks. -/
def skipBlanks (c : Cursor) : Cursor := (c.span isSpaceOrTab).2

/-- Moves over blanks and a comment. -/
def skipComment (c : Cursor) : Cursor :=
  let c := c.skipBlanks
  if c.sees '#' then (c.span (!isBreak ·)).2 else c

/-- Whether a line of its own that starts or ends a document is next. -/
def atDocumentIndicator (c : Cursor) : Bool :=
  c.place.column == 0 && c.gapAt 3
    && (c.rest.take 3 == ['-', '-', '-'] || c.rest.take 3 == ['.', '.', '.'])

/-- Stops with a fault at this place, inside of what began at `start`. -/
def fail {α : Type} (c : Cursor) (context : Context) (start : Place) (problem : Problem) :
    Except SyntaxError α :=
  throw (.inside context start problem c.place)

end Cursor

end Lintscope.Yaml

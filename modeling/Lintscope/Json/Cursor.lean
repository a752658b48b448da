import Lintscope.Json.Error
import Lintscope.Text.Utf8

/-!
# Reading along a JSON text

A cursor is the unread part of a text and the place where it starts. A reader
takes something off the text, or fails at a place: where the cursor is, or an
octet or more further on if it has looked at them.
-/

namespace Lintscope.Json

/-- The unread part of a text and where it starts. -/
structure Cursor where
  /-- What is still to be read. -/
  rest : List Char
  /-- Where that starts. -/
  place : Place := {}

/-- The place after a character. -/
def Place.after (p : Place) (c : Char) : Place :=
  if c = '\n' then ⟨p.line + 1, 0⟩ else ⟨p.line, p.column + c.utf8Size⟩

/-- The place some octets further on in a text, or its end. -/
def Place.further (p : Place) (octets : Nat) : List Char → Place
  | [] => p
  | c :: s =>
    if octets = 0 then p
    else if octets < c.utf8Size then ⟨p.line, p.column + octets⟩
    else (p.after c).further (octets - c.utf8Size) s

/-- A reader of a part of a text. -/
abbrev Reader := StateT Cursor (Except Error)

namespace Reader

variable {α : Type}

/-- Whether a character may stand between values. -/
def isSpace (c : Char) : Bool := c = ' ' || c = '\n' || c = '\t' || c = '\r'

/-- Fails some octets further on. -/
def fail (f : Flaw) (octets : Nat) : Reader α := do
  let c ← get
  throw ⟨.flaw f, c.place.further octets c.rest⟩

/-- Fails because of the next character, or because there is none. -/
def failAt (f : Flaw) : Reader α := fail f 1

/-- Complains about what has been read. -/
def mismatch (m : Mismatch) : Reader α := do throw ⟨.mismatch m, (← get).place⟩

/-- The next character. -/
def peek : Reader (Option Char) := do return (← get).rest.head?

/-- Passes the next character. -/
def skip : Reader Unit := modify fun c =>
  match c.rest with
  | [] => c
  | x :: rest => ⟨rest, c.place.after x⟩

/-- Passes some characters. -/
def skipAll (n : Nat) : Reader Unit := modify fun c =>
  ⟨c.rest.drop n, (c.rest.take n).foldl Place.after c.place⟩

/-- Passes the characters that satisfy `p`, and returns them. -/
def takeWhile (p : Char → Bool) : Reader (List Char) := do
  let taken := (← get).rest.takeWhile p
  skipAll taken.length
  return taken

/-- The next character that is no space. -/
def next : Reader (Option Char) := do
  let _ ← takeWhile isSpace
  peek

/-- Passes the rest of a word that has begun. -/
def word (rest : List Char) : Reader Unit :=
  rest.forM fun x => do
    match ← peek with
    | none => fail .endOfText 0
    | some y =>
      if x = y then skip else failAt .unknownWord

end Reader

end Lintscope.Json

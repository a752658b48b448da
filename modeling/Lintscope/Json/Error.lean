import Lintscope.Decode.Mismatch

/-!
# What is wrong with a JSON text

A text may be no JSON, or it may be JSON that does not say what is asked for.
Either way the place is told where that was noticed: its line, counted from
one, and the octets of the line before it.
-/

namespace Lintscope.Json

/-- A place in a text. -/
structure Place where
  /-- The line. -/
  line : Nat := 1
  /-- The octets of the line before the place. -/
  column : Nat := 0
  deriving DecidableEq, Repr

/-- Why a text is no JSON. -/
inductive Flaw where
  | endInList | endInObject | endInString | endOfText
  | noColon | noListEnd | noObjectEnd
  | unknownWord | noValue
  | badEscape | badNumber | largeNumber | controlCharacter | keyNotString
  | loneSurrogate | noSecondSurrogate
  | trailingComma | trailingText
  /-- Values are nested too deep. -/
  | tooDeep
  deriving DecidableEq, Repr

/-- The wording of a flaw. -/
def Flaw.message : Flaw → String
  | endInList => "EOF while parsing a list"
  | endInObject => "EOF while parsing an object"
  | endInString => "EOF while parsing a string"
  | endOfText => "EOF while parsing a value"
  | noColon => "expected \x60:\x60"
  | noListEnd => "expected \x60,\x60 or \x60]\x60"
  | noObjectEnd => "expected \x60,\x60 or \x60\x7d\x60"
  | unknownWord => "expected ident"
  | noValue => "expected value"
  | badEscape => "invalid escape"
  | badNumber => "invalid number"
  | largeNumber => "number out of range"
  | controlCharacter => "control character (\\u0000-\\u001F) found while parsing a string"
  | keyNotString => "key must be a string"
  | loneSurrogate => "lone leading surrogate in hex escape"
  | noSecondSurrogate => "unexpected end of hex escape"
  | trailingComma => "trailing comma"
  | trailingText => "trailing characters"
  | tooDeep => "recursion limit exceeded"

/-- The words in which complaints name the values of JSON. -/
def wording : Wording := { unit := "null", fraction := Double.scientific }

/-- What is wrong with a text. -/
inductive Cause where
  /-- It is no JSON. -/
  | flaw (f : Flaw)
  /-- It does not say what is asked for. -/
  | mismatch (m : Mismatch)

/-- The wording of a cause. -/
def Cause.message : Cause → String
  | flaw f => f.message
  | mismatch m => m.message wording

/-- What is wrong with a text, and where. -/
structure Error where
  /-- What is wrong. -/
  cause : Cause
  /-- Where that was noticed. -/
  place : Place

/-- The wording of an error, its place last. -/
def Error.message (e : Error) : String :=
  e.cause.message ++ " at line " ++ toString e.place.line ++ " column " ++ toString e.place.column

end Lintscope.Json

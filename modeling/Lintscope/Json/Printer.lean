import Lintscope.Json.Value
import Lintscope.Text.Numeral

/-!
# Printing JSON

A value is printed over several lines, each item and each member on a line of
its own, two blanks further in than what holds it. In a string the quote, the
backslash and the control characters are escaped, and nothing else is.
-/

namespace Lintscope.Json

open Text

/-- The hexadecimal digit of a number below sixteen. -/
def hexDigit (n : Nat) : Char := Nat.digitChar n

/-- A character as it stands in a string. -/
def escape (c : Char) : List Char :=
  if c = '"' then ['\\', '"']
  else if c = '\\' then ['\\', '\\']
  else if c = '\n' then ['\\', 'n']
  else if c = '\r' then ['\\', 'r']
  else if c = '\t' then ['\\', 't']
  else if c.toNat = 8 then ['\\', 'b']
  else if c.toNat = 12 then ['\\', 'f']
  else if c.toNat < 32 then
    ['\\', 'u', '0', '0', hexDigit (c.toNat / 16), hexDigit (c.toNat % 16)]
  else [c]

/-- A string with its quotes. -/
def quoted (s : String) : List Char := '"' :: s.toList.flatMap escape ++ ['"']

/-- A whole number. -/
def integer : Int → List Char
  | .ofNat n => numeral n
  | .negSucc n => '-' :: numeral (n + 1)

/-- A number that is not whole, with its power of ten. -/
def scientific (d : Decimal) : List Char :=
  (if d.negative then ['-'] else []) ++ numeral d.digits ++ 'e' :: integer d.exponent

/-- A new line, `depth` steps further in. -/
def newline (depth : Nat) : List Char := '\n' :: List.replicate (2 * depth) ' '

/-- A value that is not a list. -/
def scalar : Json → List Char
  | null => "null".toList
  | bool true => "true".toList
  | bool false => "false".toList
  | int n => integer n
  | decimal d => scientific d
  | str s => quoted s
  | arr _ => "[]".toList
  | obj _ => "\x7b\x7d".toList

mutual

/-- A value, the lines after its first one `depth` steps further in. -/
def chars (depth : Nat) : Json → List Char
  | arr (item :: items) =>
    '[' :: newline (depth + 1) ++ chars (depth + 1) item ++ itemChars (depth + 1) items ++
      newline depth ++ [']']
  | obj ((name, value) :: members) =>
    '\x7b' :: newline (depth + 1) ++ quoted name ++ ": ".toList ++ chars (depth + 1) value ++
      memberChars (depth + 1) members ++ newline depth ++ ['\x7d']
  | value => scalar value

/-- Further items of a list. -/
def itemChars (depth : Nat) : List Json → List Char
  | [] => []
  | item :: items => ',' :: newline depth ++ chars depth item ++ itemChars depth items

/-- Further members of a list with names. -/
def memberChars (depth : Nat) : List (String × Json) → List Char
  | [] => []
  | (name, value) :: members =>
    ',' :: newline depth ++ quoted name ++ ": ".toList ++ chars depth value ++
      memberChars depth members

end

/-- A value as a text. -/
def print (value : Json) : String := .ofList (chars 0 value)

end Lintscope.Json

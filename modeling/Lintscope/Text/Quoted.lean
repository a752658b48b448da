import Lintscope.Unicode.Printable

/-!
# Texts inside quotes

A complaint that cites a text shows it between double quotes, so that its ends are
seen. What would break the quotes or would not be seen itself is escaped: quotes and
backslashes, the usual control characters by a letter, and every other character
that is not printable, or that only extends the one before it, by its code point.
-/

namespace Lintscope.Text.Quoted

/-- The code point of a character in braces. -/
def codePoint (c : Char) : String :=
  "\\u\x7b" ++ String.ofList (Nat.toDigits 16 c.toNat) ++ "\x7d"

/-- A character as it stands between quotes. -/
def escape (c : Char) : String :=
  if c = '\x00' then "\\0"
  else if c = '\t' then "\\t"
  else if c = '\r' then "\\r"
  else if c = '\n' then "\\n"
  else if c = '\\' then "\\\\"
  else if c = '"' then "\\\""
  else if Unicode.extending.has c then codePoint c
  else if Unicode.isPrintable c then c.toString
  else codePoint c

/-- A text between double quotes. -/
def encode (text : String) : String :=
  "\"" ++ String.join (text.toList.map escape) ++ "\""

end Lintscope.Text.Quoted

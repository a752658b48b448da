import Lintscope.Text.Blank
import Lintscope.Text.Cut
import Lintscope.Text.Lines
import Lintscope.Text.Utf8

/-!
# The end of a text

Of a long output the end says most. It is kept to a number of lines, and then
to a number of octets, never cutting a character.
-/

namespace Lintscope.Text

/-- The last lines of a text, blanks at its end aside. -/
def lastLines (count : Nat) (s : List Char) : List Char :=
  let all := lines (trimEnd s)
  join ['\n'] (all.drop (all.length - count))

/-- A text without its first characters, as few as have that many octets. -/
def dropOctets : Nat → List Char → List Char
  | 0, s => s
  | _, [] => []
  | n, c :: s => dropOctets (n - c.utf8Size) s

/-- What stands for the part of a text that is left out. -/
def ellipsis : List Char := "...(truncated)...\n".toList

/-- The end of a text: some lines, and of these some octets. -/
def tail (lineCount octets : Nat) (s : List Char) : List Char :=
  let s := lastLines lineCount s
  if Utf8.size s ≤ octets then s else ellipsis ++ dropOctets (Utf8.size s - octets) s

end Lintscope.Text

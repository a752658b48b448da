/-!
# Lines of a text

A line ends with a newline, and the last one may lack it; so a text that ends
with a newline has no empty line after it. The end of a line is its newline
together with a carriage return right before it; a carriage return anywhere
else, also at the very end of a text, belongs to the line.
-/

namespace Lintscope.Text

/-- The lines of a text, each with its newline. -/
def linesWithEnds : List Char → List (List Char)
  | [] => []
  | c :: s =>
    if c = '\n' then ['\n'] :: linesWithEnds s
    else
      match linesWithEnds s with
      | [] => [[c]]
      | l :: ls => (c :: l) :: ls

/-- A line without its end. -/
def chomp (line : List Char) : List Char :=
  if line.getLast? = some '\n' then
    let body := line.dropLast
    if body.getLast? = some '\r' then body.dropLast else body
  else line

/-- The lines of a text, without their ends. -/
def lines (s : List Char) : List (List Char) := (linesWithEnds s).map chomp

theorem flatten_linesWithEnds (s : List Char) : (linesWithEnds s).flatten = s := by
  induction s with
  | nil => rfl
  | cons c s ih =>
    rw [linesWithEnds]
    split
    · simp_all
    · split <;> simp_all

end Lintscope.Text

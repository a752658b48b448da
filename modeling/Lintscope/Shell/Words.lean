/-!
# Words of a command

A command is a text of words with blanks between them, as in a shell but with
quoting only: single quotes keep everything, double quotes and a backslash
keep blanks and quotes, a backslash before a newline joins two lines, and a
number sign at the start of a word begins a remark up to the end of the line.
-/

namespace Lintscope.Shell

/-- Where the reading of a command stands. -/
inductive Mode where
  /-- Between words. -/
  | between
  /-- After a backslash between words. -/
  | betweenEscape
  /-- In a word, outside quotes. -/
  | word
  /-- After a backslash in a word, outside quotes. -/
  | wordEscape
  /-- In single quotes. -/
  | single
  /-- In double quotes. -/
  | double
  /-- After a backslash in double quotes. -/
  | doubleEscape
  /-- In a remark. -/
  | remark
  deriving DecidableEq, Repr

/-- What has been read of a command. -/
structure Reading where
  /-- Where the reading stands. -/
  mode : Mode := .between
  /-- The characters of the word being read, the last one first. -/
  current : List Char := []
  /-- The words read, the last one first. -/
  words : List (List Char) := []
  deriving DecidableEq, Repr

namespace Reading

variable (r : Reading)

/-- The reading in another mode. -/
def enter (mode : Mode) : Reading := { r with mode }

/-- The reading with `cs` at the end of the current word. -/
def add (mode : Mode) (cs : List Char) : Reading :=
  { r with mode, current := cs.reverse ++ r.current }

/-- The reading with the current word at its end. -/
def close : Reading := { mode := .between, words := r.current.reverse :: r.words }

/-- Whether a character separates words. -/
def separates (c : Char) : Bool := c = ' ' || c = '\t' || c = '\n'

/-- The reading after one more character. -/
def read (c : Char) : Reading :=
  match r.mode with
  | .between =>
    if c = '\'' then r.enter .single
    else if c = '"' then r.enter .double
    else if c = '\\' then r.enter .betweenEscape
    else if separates c then r
    else if c = '#' then r.enter .remark
    else r.add .word [c]
  | .betweenEscape => if c = '\n' then r.enter .between else r.add .word [c]
  | .word =>
    if c = '\'' then r.enter .single
    else if c = '"' then r.enter .double
    else if c = '\\' then r.enter .wordEscape
    else if separates c then r.close
    else r.add .word [c]
  | .wordEscape => if c = '\n' then r.enter .word else r.add .word [c]
  | .single => if c = '\'' then r.enter .word else r.add .single [c]
  | .double =>
    if c = '"' then r.enter .word
    else if c = '\\' then r.enter .doubleEscape
    else r.add .double [c]
  | .doubleEscape =>
    if c = '\n' then r.enter .double
    else if c = '$' ∨ c = '\x60' ∨ c = '"' ∨ c = '\\' then r.add .double [c]
    else r.add .double ['\\', c]
  | .remark => if c = '\n' then r.enter .between else r

/-- The words of a command that ends here; none if a quote is open. A last
    backslash stands for itself. -/
def finish? : Option (List (List Char)) :=
  match r.mode with
  | .between | .remark => some r.words.reverse
  | .word => some r.close.words.reverse
  | .betweenEscape | .wordEscape => some (r.add .word ['\\']).close.words.reverse
  | .single | .double | .doubleEscape => none

end Reading

/-- The words of a command; none if a quote is never closed. -/
def words? (command : List Char) : Option (List String) :=
  (command.foldl Reading.read {}).finish?.map fun ws => ws.map String.ofList

end Lintscope.Shell

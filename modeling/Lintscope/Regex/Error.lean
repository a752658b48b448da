import Lintscope.Text.Lines

/-!
# What is wrong with the text of a pattern

A fault is shown under the pattern itself: the pattern is written out, indented or with
its lines numbered, and carets mark the stretch at fault, and for a repetition also the
stretch that is repeated.
-/

namespace Lintscope.Regex

/-- A stretch of a pattern, by character offsets. -/
structure Stretch where
  /-- The characters before its first one. -/
  start : Nat
  /-- The characters up to its last one. -/
  stop : Nat
  deriving DecidableEq, Repr

/-- Why a text is no pattern. -/
inductive Problem where
  | classEscapeInvalid | classRangeInvalid | classRangeLiteral | classUnclosed
  | decimalInvalid
  | escapeHexEmpty | escapeHexInvalid | escapeHexInvalidDigit | escapeUnexpectedEnd
  | escapeUnrecognized
  | flagDanglingNegation | flagDuplicate (first : Stretch) | flagRepeatedNegation (first : Stretch)
  | flagUnexpectedEnd | flagUnrecognized
  | groupNameDuplicate (first : Stretch) | groupNameEmpty | groupNameInvalid
  | groupNameUnexpectedEnd | groupUnclosed | groupUnopened
  | repetitionCountInvalid | repetitionCountEmpty | repetitionCountUnclosed | repetitionMissing
  | wordBoundaryUnclosed | wordBoundaryUnrecognized | wordBoundaryUnexpectedEnd
  | propertyEscape | backreference | lookAround
  | unicodeNotAllowed | invalidUtf8 | propertyUnknown | propertyValueUnknown
  /-- Its program takes too much memory. -/
  | tooLarge

namespace Problem

/-- The wording of a problem. -/
def text : Problem → String
  | classEscapeInvalid => "invalid escape sequence found in character class"
  | classRangeInvalid => "invalid character class range, the start must be <= the end"
  | classRangeLiteral => "invalid range boundary, must be a literal"
  | classUnclosed => "unclosed character class"
  | decimalInvalid => "decimal literal invalid"
  | escapeHexEmpty => "hexadecimal literal empty"
  | escapeHexInvalid => "hexadecimal literal is not a Unicode scalar value"
  | escapeHexInvalidDigit => "invalid hexadecimal digit"
  | escapeUnexpectedEnd => "incomplete escape sequence, reached end of pattern prematurely"
  | escapeUnrecognized => "unrecognized escape sequence"
  | flagDanglingNegation => "dangling flag negation operator"
  | flagDuplicate _ => "duplicate flag"
  | flagRepeatedNegation _ => "flag negation operator repeated"
  | flagUnexpectedEnd => "expected flag but got end of regex"
  | flagUnrecognized => "unrecognized flag"
  | groupNameDuplicate _ => "duplicate capture group name"
  | groupNameEmpty => "empty capture group name"
  | groupNameInvalid => "invalid capture group character"
  | groupNameUnexpectedEnd => "unclosed capture group name"
  | groupUnclosed => "unclosed group"
  | groupUnopened => "unopened group"
  | repetitionCountInvalid => "invalid repetition count range, the start must be <= the end"
  | repetitionCountEmpty => "repetition quantifier expects a valid decimal"
  | repetitionCountUnclosed => "unclosed counted repetition"
  | repetitionMissing => "repetition operator missing expression"
  | wordBoundaryUnclosed =>
    "special word boundary assertion is either unclosed or contains an invalid character"
  | wordBoundaryUnrecognized =>
    "unrecognized special word boundary assertion, " ++
      "valid choices are: start, end, start-half or end-half"
  | wordBoundaryUnexpectedEnd =>
    "found either the beginning of a special word boundary or a bounded repetition on a " ++
      "\\b with an opening brace, but no closing brace"
  | propertyEscape => "invalid Unicode character class"
  | backreference => "backreferences are not supported"
  | lookAround => "look-around, including look-ahead and look-behind, is not supported"
  | unicodeNotAllowed => "Unicode not allowed here"
  | invalidUtf8 => "pattern can match invalid UTF-8"
  | propertyUnknown => "Unicode property not found"
  | propertyValueUnknown => "Unicode property value not found"
  | tooLarge => "Compiled regex exceeds size limit of 10485760 bytes."

/-- Another stretch that the problem is about. -/
def other? : Problem → Option Stretch
  | flagDuplicate first | flagRepeatedNegation first | groupNameDuplicate first => some first
  | _ => none

end Problem

/-- A problem and the stretch that has it. -/
structure Error where
  /-- The problem. -/
  problem : Problem
  /-- The stretch. -/
  stretch : Stretch

namespace Error

/-- A stretch within one line: its line and its columns, all counted from zero. -/
structure LineStretch where
  /-- Its line. -/
  line : Nat
  /-- Its first column. -/
  start : Nat
  /-- The column behind its last one. -/
  stop : Nat

/-- The line and the column of a character. -/
def spot (pattern : List Char) (offset : Nat) : Nat × Nat :=
  let before := pattern.take offset
  (before.count '\n', (before.reverse.takeWhile (· ≠ '\n')).length)

/-- The stretch as part of a line, unless it goes over several lines. -/
def oneLine? (pattern : List Char) (s : Stretch) : Option LineStretch :=
  let (line, start) := spot pattern s.start
  let (last, stop) := spot pattern s.stop
  if line = last then some ⟨line, start, stop⟩ else none

/-- The carets under stretches of a line, in their order. -/
def carets : Nat → List LineStretch → String
  | _, [] => ""
  | column, s :: rest =>
    let width := max 1 (s.stop - s.start)
    "".pushn ' ' (s.start - column) ++ "".pushn '^' width
      ++ carets (max column s.start + width) rest

/-- The pattern with its lines indented or numbered, and the carets under them. -/
def shown (pattern : List Char) (stretches : List LineStretch) : String :=
  let lines := Text.lines pattern
  let count := lines.length + (if pattern.getLast? = some '\n' then 1 else 0)
  let width := if count ≤ 1 then 0 else (toString count).length
  let margin := if width = 0 then 4 else width + 2
  String.join (lines.zipIdx.map fun (line, i) =>
    let label := toString (i + 1)
    let lead := if width = 0 then "    "
      else "".pushn ' ' (width - label.length) ++ label ++ ": "
    let marks := stretches.filter (·.line = i)
    lead ++ String.ofList line ++ "\n" ++
      (if marks.isEmpty then "" else "".pushn ' ' margin ++ carets 0 marks ++ "\n"))

/-- The order of stretches: by their lines, then by their columns. -/
def LineStretch.le (a b : LineStretch) : Bool :=
  a.line < b.line || (a.line = b.line &&
    (a.start < b.start || (a.start = b.start && a.stop ≤ b.stop)))

/-- The wording of a fault in how a pattern is written. -/
def shownMessage (e : Error) (pattern : String) : String :=
  let chars := pattern.toList
  let all := e.stretch :: e.problem.other?.toList
  let within := (all.filterMap (oneLine? chars)).mergeSort LineStretch.le
  let body := shown chars within
  let problem := "error: " ++ e.problem.text
  if chars.contains '\n' then
    let divider := "".pushn '~' 79 ++ "\n"
    let across := all.filter fun s => (oneLine? chars s).isNone
    let notes := across.map fun s =>
      let (line, column) := spot chars s.start
      let (last, stop) := spot chars s.stop
      "on line " ++ toString (line + 1) ++ " (column " ++ toString (column + 1) ++ ") through line "
        ++ toString (last + 1) ++ " (column " ++ toString stop ++ ")"
    "regex parse error:\n" ++ divider ++ body ++ divider
      ++ (if notes.isEmpty then "" else "\n".intercalate notes ++ "\n") ++ problem
  else "regex parse error:\n" ++ body ++ problem

/-- The wording of a fault in a pattern. -/
def message (e : Error) (pattern : String) : String :=
  match e.problem with
  | .tooLarge => e.problem.text
  | _ => e.shownMessage pattern

end Error

end Lintscope.Regex

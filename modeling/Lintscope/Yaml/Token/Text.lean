import Lintscope.Yaml.Cursor
import Lintscope.Yaml.Token

/-!
# Scalars

A scalar may run over several lines. In plain and quoted scalars the gap between two
words is either blanks, which stay as they are, or line breaks with the blanks around
them: one break is read as a space, and of more breaks the first is dropped. Block
scalars keep their lines: a literal one as they are, a folded one with the breaks
between lines of equal indentation read as spaces.

The number handed to the loops bounds the characters still to be read.
-/

namespace Lintscope.Yaml

/-- What lies between two words of a plain or quoted scalar: blanks, or line breaks,
    the first of which is told apart. -/
inductive Gap
  /-- Blanks within a line. -/
  | blanks (text : List Char)
  /-- The first line break and the others. -/
  | breaks (first more : List Char)

namespace Gap

/-- The text that a gap stands for. -/
def text : Gap → List Char
  | .blanks text => text
  | .breaks ['\n'] [] => [' ']
  | .breaks ['\n'] more => more
  | .breaks first more => first ++ more

/-- Whether a gap goes over a line break. -/
def hasBreak : Gap → Bool
  | .blanks _ => false
  | .breaks .. => true

/-- Another blank; after a break it counts for nothing. -/
def addBlank (x : Char) : Gap → Gap
  | .blanks text => .blanks (text ++ [x])
  | g => g

/-- Another line break; the blanks before it count for nothing. -/
def addBreak (b : List Char) : Gap → Gap
  | .blanks _ => .breaks b []
  | .breaks first more => .breaks first (more ++ b)

/-- Reads a gap on. Where an indentation is asked for, it must not be made of tabs. -/
def read (context : Context) (start : Place) (indent : Nat) :
    Nat → Cursor → Gap → Except SyntaxError (Gap × Cursor)
  | 0, c, g => return (g, c)
  | fuel + 1, c, g =>
    match c.peek with
    | none => return (g, c)
    | some x =>
      if isSpaceOrTab x then
        if g.hasBreak && c.place.column < indent && x == '\t' then c.fail context start .tabInText
        else read context start indent fuel c.step (g.addBlank x)
      else if isBreak x then
        let (b, c) := c.lineBreak
        read context start indent fuel c (g.addBreak b)
      else return (g, c)

end Gap

/-! ## Plain scalars -/

/-- Whether a plain scalar ends before the next character. -/
def endsPlain (inFlow : Bool) (c : Cursor) : Bool :=
  match c.peek with
  | none => true
  | some x =>
    isSpaceOrTab x || isBreak x || (x == ':' && c.gapAt 1)
      || (inFlow && (x == ',' || x == '[' || x == ']' || x == '{' || x == '}'))

/-- Whether a colon is next that neither starts a value nor may belong to a word. -/
def misplacedColon (inFlow : Bool) (c : Cursor) : Bool :=
  inFlow && c.sees ':' && match c.at? 1 with
    | some x => x == ',' || x == '?' || x == '[' || x == ']' || x == '{' || x == '}'
    | none => false

/-- Reads a word of a plain scalar. -/
def plainWord (inFlow : Bool) (start : Place) :
    Nat → Cursor → List Char → Except SyntaxError (List Char × Cursor)
  | 0, c, word => return (word.reverse, c)
  | fuel + 1, c, word =>
    if misplacedColon inFlow c then c.fail .plainScalar start .colonInFlow
    else if endsPlain inFlow c then return (word.reverse, c)
    else match c.peek with
      | none => return (word.reverse, c)
      | some x => plainWord inFlow start fuel c.step (x :: word)

/-- What has been read of a plain scalar, the gap after it, and where its last word
    ended. -/
structure PlainText where
  /-- Its text. -/
  text : List Char := []
  /-- The gap after it. -/
  gap : Gap := .blanks []
  /-- Where its last word ended. -/
  stop : Place

/-- Reads a plain scalar word by word. Outside of flow collections it ends with the
    first line that is indented less than `indent`. -/
def plainText (inFlow : Bool) (indent : Nat) (start : Place) :
    Nat → Cursor → PlainText → Except SyntaxError (PlainText × Cursor)
  | 0, c, t => return (t, c)
  | fuel + 1, c, t => do
    if c.atDocumentIndicator || c.sees '#' then return (t, c)
    let (word, c) ← plainWord inFlow start c.rest.length c []
    let t := if word.isEmpty then t
      else { text := t.text ++ t.gap.text ++ word, gap := .blanks [], stop := c.place }
    if !(c.peek.any fun x => isSpaceOrTab x || isBreak x) then return (t, c)
    let (gap, c) ← Gap.read .plainScalar start indent c.rest.length c t.gap
    let t := { t with gap }
    if !inFlow && c.place.column < indent then return (t, c)
    plainText inFlow indent start fuel c t

/-! ## Quoted scalars -/

/-- The character that a letter stands for after a backslash. -/
def namedEscape? : Char → Option Char
  | '0' => some '\x00'
  | 'a' => some '\x07'
  | 'b' => some '\x08'
  | 't' => some '\t'
  | '\t' => some '\t'
  | 'n' => some '\n'
  | 'v' => some '\x0b'
  | 'f' => some '\x0c'
  | 'r' => some '\r'
  | 'e' => some '\x1b'
  | ' ' => some ' '
  | '"' => some '"'
  | '/' => some '/'
  | '\\' => some '\\'
  | 'N' => some '\u0085'
  | '_' => some '\u00a0'
  | 'L' => some '\u2028'
  | 'P' => some '\u2029'
  | _ => none

/-- The hexadecimal digits that follow a letter after a backslash. -/
def escapeLength? : Char → Option Nat
  | 'x' => some 2
  | 'u' => some 4
  | 'U' => some 8
  | _ => none

/-- The number that `n` hexadecimal digits write. -/
def hexNumber? (n : Nat) (digits : List Char) : Option Nat :=
  if digits.length < n then none
  else (digits.take n).foldlM (fun v c => (hexValue? c).map (16 * v + ·)) 0

/-- Reads an escape; the cursor is at its backslash. -/
def escape (start : Place) (c : Cursor) : Except SyntaxError (Char × Cursor) :=
  match c.at? 1 with
  | none => c.fail .quotedEscape start .unknownEscape
  | some x =>
    match namedEscape? x, escapeLength? x with
    | some y, _ => return (y, c.advance 2)
    | none, none => c.fail .quotedEscape start .unknownEscape
    | none, some n =>
      let c := c.advance 2
      match hexNumber? n c.rest with
      | none => c.fail .quotedEscape start .noHexDigits
      | some v =>
        if (0xD800 ≤ v && v ≤ 0xDFFF) || v > 0x10FFFF then c.fail .quotedEscape start .badCodePoint
        else return (Char.ofNat v, c.advance n)

/-- Reads a word of a quoted scalar. The flag tells that it ended with an escaped line
    break. -/
def quotedWord (single : Bool) (start : Place) :
    Nat → Cursor → List Char → Except SyntaxError (List Char × Bool × Cursor)
  | 0, c, word => return (word.reverse, false, c)
  | fuel + 1, c, word =>
    match c.rest with
    | [] => return (word.reverse, false, c)
    | x :: after =>
      if isSpaceOrTab x || isBreak x then return (word.reverse, false, c)
      else if single then
        if x ≠ '\'' then quotedWord single start fuel c.step (x :: word)
        else if after.head? = some '\'' then
          quotedWord single start fuel (c.advance 2) ('\'' :: word)
        else return (word.reverse, false, c)
      else if x = '"' then return (word.reverse, false, c)
      else if x ≠ '\\' then quotedWord single start fuel c.step (x :: word)
      else if after.head?.any isBreak then return (word.reverse, true, c.step.lineBreak.2)
      else do
        let (y, c) ← escape start c
        quotedWord single start fuel c (y :: word)

/-- Reads a quoted scalar up to its closing quote. -/
def quotedText (single : Bool) (start : Place) :
    Nat → Cursor → List Char → Except SyntaxError (List Char × Cursor)
  | 0, c, text => return (text, c)
  | fuel + 1, c, text => do
    if c.atDocumentIndicator then c.fail .quotedScalar start .documentIndicator
    if c.rest.isEmpty then c.fail .quotedScalar start .endInQuotes
    let (word, escapedBreak, c) ← quotedWord single start c.rest.length c []
    let text := text ++ word
    if c.sees (if single then '\'' else '"') then return (text, c.step)
    let before := if escapedBreak then Gap.breaks [] [] else .blanks []
    let (gap, c) ← Gap.read .quotedScalar start 0 c.rest.length c before
    quotedText single start fuel c (text ++ gap.text)

/-! ## Block scalars -/

/-- What becomes of the line breaks at the end of a block scalar: none is kept, the
    first one is kept, or all are. -/
inductive Chomping
  | strip | clip | keep
  deriving DecidableEq

/-- The header of a block scalar: an indentation and a chomping, in either order. -/
def blockHeader (start : Place) (c : Cursor) :
    Except SyntaxError (Chomping × Option Nat × Cursor) := do
  let chomping? (c : Cursor) : Option Chomping × Cursor :=
    if c.sees '+' then (some .keep, c.step)
    else if c.sees '-' then (some .strip, c.step)
    else (none, c)
  let indent? (c : Cursor) : Except SyntaxError (Option Nat × Cursor) :=
    match c.peek with
    | some x =>
      if x = '0' then c.fail .blockScalar start .zeroIndentation
      else if x.isDigit then return (some (x.toNat - '0'.toNat), c.step)
      else return (none, c)
    | none => return (none, c)
  let (first, c) := chomping? c
  let (indent, c) ← indent? c
  let (second, c) := if first.isNone && indent.isSome then chomping? c else (none, c)
  let c := c.skipComment
  if !c.atLineEnd then c.fail .blockScalar start .noLineEnd
  return ((first <|> second).getD .clip, indent, c.lineBreak.2)

/-- Reads the breaks before a line of a block scalar, together with its indentation,
    which is unknown before the first line: the widest indentation is told as well. -/
def blockBreaks (start : Place) (indent : Option Nat) :
    Nat → Cursor → Nat → List Char → Except SyntaxError (List Char × Nat × Cursor)
  | 0, c, widest, breaks => return (breaks, widest, c)
  | fuel + 1, c, widest, breaks =>
    let room (c : Cursor) : Bool := indent.all (c.place.column < ·)
    let spaces := c.rest.takeWhile (· == ' ') |>.length
    let c := c.advance (match indent with
      | none => spaces
      | some n => min spaces (n - c.place.column))
    let widest := max widest c.place.column
    if room c && c.sees '\t' then c.fail .blockScalar start .tabIndentation
    else if c.peek.any isBreak then
      let (b, c) := c.lineBreak
      blockBreaks start indent fuel c widest (breaks ++ b)
    else return (breaks, widest, c)

/-- What has been read of a block scalar: its text, the break after its last line, the
    breaks after that, and whether its last line starts with a blank. -/
structure BlockText where
  /-- Its text. -/
  text : List Char := []
  /-- The break after its last line. -/
  ending : List Char := []
  /-- The breaks after that. -/
  breaks : List Char := []
  /-- Whether its last line starts with a blank. -/
  blank : Bool := false

/-- Reads the lines of a block scalar. -/
def blockLines (literal : Bool) (indent : Nat) (start : Place) :
    Nat → Cursor → BlockText → Except SyntaxError (BlockText × Cursor)
  | 0, c, t => return (t, c)
  | fuel + 1, c, t => do
    if c.place.column ≠ indent || c.rest.isEmpty then return (t, c)
    let blank := c.peek.any isSpaceOrTab
    let joined := !literal && t.ending.head? == some '\n' && !t.blank && !blank
    let gap :=
      if !joined then t.ending ++ t.breaks else if t.breaks.isEmpty then [' '] else t.breaks
    let (line, c) := c.span (!isBreak ·)
    let (ending, c) := c.lineBreak
    let (breaks, _, c) ← blockBreaks start (some indent) (c.rest.length + 1) c 0 []
    blockLines literal indent start fuel c { text := t.text ++ gap ++ line, ending, breaks, blank }

/-- Reads a block scalar; `outer` is the indentation of the collection around it. The
    cursor is behind the indicator. -/
def blockText (literal : Bool) (outer : Option Nat) (start : Place) (c : Cursor) :
    Except SyntaxError (List Char × Cursor) := do
  let (chomping, given, c) ← blockHeader start c
  let given := given.map (outer.getD 0 + ·)
  let (breaks, widest, c) ← blockBreaks start given (c.rest.length + 1) c 0 []
  let least := match outer with
    | some n => n + 1
    | none => 1
  let indent := given.getD (max widest least)
  let (t, c) ← blockLines literal indent start c.rest.length c { breaks }
  let text := match chomping with
    | .strip => t.text
    | .clip => t.text ++ t.ending
    | .keep => t.text ++ t.ending ++ t.breaks
  return (text, c)

end Lintscope.Yaml

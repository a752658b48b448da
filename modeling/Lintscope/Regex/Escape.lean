import Lintscope.Regex.Cursor
import Lintscope.Regex.Pattern

/-!
# Escapes

A backslash takes the meaning from a character that has one, and gives a meaning to a
letter: a control character, a character by its code point, a class of characters, or an
assertion.
-/

namespace Lintscope.Regex

/-- What one element of a pattern is. A character given by two hexadecimal digits stands
    for an octet where the pattern is not about Unicode. -/
inductive Element where
  /-- A character. -/
  | literal (c : Char) (octet : Bool)
  /-- A set of characters. -/
  | set (s : CharSet)
  /-- A class that the standard defines, by its name. -/
  | property (negated : Bool) (name : String)
  /-- Any character. -/
  | dot
  /-- An assertion. -/
  | look (l : Look)

/-- The characters that have a meaning of their own. -/
def isMeta (c : Char) : Bool := "\\.+*?()|[]\x7b\x7d^$#&-~".toList.contains c

/-- Whether a backslash may stand before a character without changing what it means. -/
def isEscapable (c : Char) : Bool :=
  isMeta c || (c.toNat < 128 && !c.isAlphanum && c ≠ '<' && c ≠ '>')

/-- The value of a hexadecimal digit. -/
def hexDigit? (c : Char) : Option Nat :=
  if c.isDigit then some (c.toNat - '0'.toNat)
  else if 'a' ≤ c && c ≤ 'f' then some (c.toNat - 'a'.toNat + 10)
  else if 'A' ≤ c && c ≤ 'F' then some (c.toNat - 'A'.toNat + 10)
  else none

/-- The character with a code point. -/
def charOf? (digits : List Nat) : Option Char :=
  let n := digits.foldl (fun n d => 16 * n + d) 0
  if h : n.isValidChar then some (Char.ofNatAux n h) else none

/-- Reads the digits of a code point, `n` of them. -/
def hexDigits (verbose : Bool) :
    Nat → Cursor → List Nat → Except Error (List Nat × Cursor)
  | 0, c, digits => return (digits, c)
  | n + 1, c, digits =>
    if c.atEnd then fail .escapeUnexpectedEnd c.point
    else match c.peek.bind hexDigit? with
      | none => fail .escapeHexInvalidDigit c.char
      | some d => hexDigits verbose n (c.next verbose) (digits ++ [d])

/-- Reads the digits of a code point up to a closing brace. -/
def hexInBraces (verbose : Bool) (brace : Nat) :
    Nat → Cursor → List Nat → Except Error (List Nat × Cursor)
  | 0, c, digits => return (digits, c)
  | fuel + 1, c, digits =>
    if c.atEnd then fail .escapeUnexpectedEnd (c.since brace)
    else if c.sees '}' then return (digits, c)
    else match c.peek.bind hexDigit? with
      | none => fail .escapeHexInvalidDigit c.char
      | some d => hexInBraces verbose brace fuel (c.next verbose) (digits ++ [d])

/-- Reads a character by its code point. The cursor is at the letter that tells the
    number of digits. -/
def codePoint (verbose : Bool) (letter : Char) (c : Cursor) : Except Error (Element × Cursor) := do
  let c := c.next verbose
  if c.atEnd then fail .escapeUnexpectedEnd c.point
  if c.sees '{' then
    let (digits, stop) ← hexInBraces verbose c.offset (c.rest.length + 1) (c.next verbose) []
    let behind := stop.next verbose
    if digits.isEmpty then fail .escapeHexEmpty (behind.since c.offset)
    match charOf? digits with
    | some x => return (.literal x false, behind)
    | none => fail .escapeHexInvalid (stop.since (c.offset + 1))
  else
    let count := if letter = 'x' then 2 else if letter = 'u' then 4 else 8
    let (digits, stop) ← hexDigits verbose count c []
    match charOf? digits with
    | some x => return (.literal x (letter == 'x'), stop)
    | none => fail .escapeHexInvalid (stop.since c.offset)

/-- Reads the name of a class of the standard. The cursor is at the letter that introduces
    it. -/
def property (verbose : Bool) (negated : Bool) (c : Cursor) : Except Error (Element × Cursor) := do
  let c := c.next verbose
  match c.peek with
  | none => fail .escapeUnexpectedEnd c.point
  | some '{' =>
    let (name, stop) := nameInBraces verbose (c.rest.length + 1) (c.next verbose) []
    if stop.atEnd then fail .escapeUnexpectedEnd stop.point
    return (.property negated (.ofList name), stop.skip 1)
  | some '\\' => fail .propertyEscape c.char
  | some x => return (.property negated x.toString, c.next verbose)
where
  nameInBraces (verbose : Bool) : Nat → Cursor → List Char → List Char × Cursor
    | 0, c, name => (name, c)
    | fuel + 1, c, name =>
      match c.peek with
      | none => (name, c)
      | some x =>
        if x = '}' then (name, c) else nameInBraces verbose fuel (c.next verbose) (name ++ [x])

/-- Reads the letters and dashes of a word boundary's kind. -/
def boundaryKind (verbose : Bool) : Nat → Cursor → List Char → List Char × Cursor
  | 0, c, kind => (kind, c)
  | fuel + 1, c, kind =>
    match c.peek with
    | none => (kind, c)
    | some x =>
      if x.isAlpha || x = '-' then boundaryKind verbose fuel (c.next verbose) (kind ++ [x])
      else (kind, c)

/-- Reads a word boundary with the cursor behind its letter. A kind in braces may follow; what
    else is in braces is not part of it. -/
def wordBoundary (flags : Flags) (start : Nat) (c : Cursor) : Except Error (Element × Cursor) := do
  let plain : Element := .look (.wordBoundary !flags.unicode)
  if !c.sees '{' then return (plain, c)
  let inside := c.next flags.verbose
  match inside.peek with
  | none => fail .wordBoundaryUnexpectedEnd (inside.since start)
  | some x =>
    if !(x.isAlpha || x = '-') then return (plain, c)
    let (kind, stop) := boundaryKind flags.verbose inside.rest.length inside []
    if !stop.sees '}' then fail .wordBoundaryUnclosed (stop.since c.offset)
    match String.ofList kind with
    | "start" => return (.look (.wordStart !flags.unicode), stop.skip 1)
    | "end" => return (.look (.wordEnd !flags.unicode), stop.skip 1)
    | "start-half" => return (.look (.wordStartHalf !flags.unicode), stop.skip 1)
    | "end-half" => return (.look (.wordEndHalf !flags.unicode), stop.skip 1)
    | _ => fail .wordBoundaryUnrecognized (stop.since inside.offset)

/-- The class that a letter after a backslash names. -/
def letterClass? (unicode : Bool) (letter : Char) : Option CharSet :=
  let class? (set : CharSet) (name : String) : Option CharSet :=
    if unicode then some set else CharSet.asciiClass? name
  match letter with
  | 'd' => class? .digit "digit"
  | 's' => class? .blank "space"
  | 'w' => class? .word "word"
  | 'D' => (class? .digit "digit").map .complement
  | 'S' => (class? .blank "space").map .complement
  | 'W' => (class? .word "word").map .complement
  | _ => none

/-- The control character that a letter after a backslash names. -/
def controlChar? : Char → Option Char
  | 'a' => some '\x07'
  | 'f' => some '\x0c'
  | 't' => some '\t'
  | 'n' => some '\n'
  | 'r' => some '\r'
  | 'v' => some '\x0b'
  | _ => none

/-- Reads an escape. The cursor is at its backslash. -/
def escape (flags : Flags) (c : Cursor) : Except Error (Element × Cursor) := do
  let start := c.offset
  let c := c.skip 1
  match c.peek with
  | none => fail .escapeUnexpectedEnd (c.since start)
  | some x =>
    let behind := c.skip 1
    if x.isDigit then fail .backreference (behind.since start)
    else if x = 'x' || x = 'u' || x = 'U' then codePoint flags.verbose x c
    else if x = 'p' || x = 'P' then property flags.verbose (x = 'P') c
    else if let some set := letterClass? flags.unicode x then return (.set set, behind)
    else if isEscapable x then return (.literal x false, behind)
    else if let some y := controlChar? x then return (.literal y false, behind)
    else match x with
      | 'A' => return (.look .textStart, behind)
      | 'z' => return (.look .textEnd, behind)
      | 'b' => wordBoundary flags start behind
      | 'B' => return (.look (.noWordBoundary !flags.unicode), behind)
      | '<' => return (.look (.wordStart !flags.unicode), behind)
      | '>' => return (.look (.wordEnd !flags.unicode), behind)
      | _ => fail .escapeUnrecognized (behind.since start)

end Lintscope.Regex

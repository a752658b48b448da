import Lintscope.Regex.Escape

/-!
# Bracket expressions

A bracket expression lists characters, ranges, classes and bracket expressions. It may be
negated, and it may combine two lists by an operation; operations are read from the left.
A problem with what an element means, rather than with how it is written, is kept until
the whole pattern is read.
-/

namespace Lintscope.Regex

/-- An operation on two sets. -/
inductive SetOperation where
  /-- The characters of both. -/
  | both
  /-- The characters of the first one alone. -/
  | without
  /-- The characters of one alone. -/
  | either

/-- The set that an operation makes of two. -/
def SetOperation.apply : SetOperation → CharSet → CharSet → CharSet
  | both, a, b => .both a b
  | without, a, b => .without a b
  | either, a, b => .either a b

/-- What is open around a place in a bracket expression. -/
inductive Open where
  /-- A bracket, what was listed before it, and whether it is negated. -/
  | bracket (listed : List CharSet) (negated : Bool) (stretch : Stretch)
  /-- An operation and the set on its left. -/
  | operation (op : SetOperation) (left : CharSet)

/-- The state of reading a bracket expression. -/
structure Bracket where
  /-- What is still to be read. -/
  cursor : Cursor
  /-- How it is to be read. -/
  flags : Flags
  /-- What is open, the innermost first. -/
  opened : List Open := []
  /-- What the innermost list holds, the last one first. -/
  listed : List CharSet := []
  /-- The first problem with a meaning. -/
  problem : Option Error := none

namespace Bracket

variable (b : Bracket)

/-- Adds a set to the innermost list. -/
def add (set : CharSet) (cursor : Cursor) : Bracket :=
  { b with listed := set :: b.listed, cursor }

/-- Keeps a problem, unless there is one already. -/
def blame (problem : Problem) (stretch : Stretch) : Bracket :=
  { b with problem := b.problem <|> some ⟨problem, stretch⟩ }

/-- The fault that a bracket is never closed: the innermost one. -/
def unclosed {α : Type} : Except Error α :=
  match b.opened.findSome? fun
    | .bracket _ _ stretch => some stretch
    | .operation .. => none with
  | some stretch => fail .classUnclosed stretch
  | none => fail .classUnclosed b.cursor.point

/-- A set as the flags want it. -/
def cased (set : CharSet) : CharSet := if b.flags.anyCase then .anyCase set else set

/-- The list read so far, after the operation before it if there is one. -/
def combined : CharSet × List Open :=
  let right := CharSet.union b.listed
  match b.opened with
  | .operation op left :: opened => (op.apply (b.cased left) (b.cased right), opened)
  | opened => (right, opened)

/-- Starts an operation on the list read so far. -/
def operate (op : SetOperation) : Bracket :=
  let (left, opened) := b.combined
  { b with opened := .operation op left :: opened, listed := [], cursor := b.cursor.skip 2 }

/-- Reads dashes that stand for themselves. -/
def dashes (start : Nat) : Nat → Bracket → Except Error Bracket
  | 0, b => return b
  | fuel + 1, b =>
    if b.cursor.sees '-' then
      let b := b.add (.single '-') (b.cursor.next b.flags.verbose)
      if b.cursor.atEnd then fail .classUnclosed ⟨start, start⟩ else dashes start fuel b
    else return b

/-- Opens a bracket. Dashes right behind it, and a closing bracket before all else, stand
    for themselves. -/
def openBracket : Except Error Bracket := do
  let start := b.cursor.offset
  let verbose := b.flags.verbose
  let c := b.cursor.next verbose
  if c.atEnd then fail .classUnclosed (c.since start)
  let negated := c.sees '^'
  let c := if negated then c.next verbose else c
  if c.atEnd then fail .classUnclosed (c.since start)
  let outer := b.listed
  let inside ← dashes start c.rest.length { b with cursor := c, listed := [] }
  let inside := if inside.listed.isEmpty && inside.cursor.sees ']' then
      inside.add (.single ']') (inside.cursor.next verbose)
    else inside
  if inside.cursor.atEnd then fail .classUnclosed (inside.cursor.since start)
  return { inside with opened := .bracket outer negated (inside.cursor.since start) :: b.opened }

/-- Whether a set holds an octet that is no character of its own. -/
def hasOctet (set : CharSet) : Bool :=
  (List.range 128).any fun n => set.has (Char.ofNat (n + 128))

/-- Closes the innermost bracket: the set it stands for, and the bracket around it. -/
def close : CharSet × Bracket :=
  let (set, opened) := b.combined
  match opened with
  | .bracket outer negated stretch :: opened =>
    let set := if negated then CharSet.complement (b.cased set) else b.cased set
    let b := { b with opened, listed := outer, cursor := b.cursor.skip 1 }
    let b := if !b.flags.unicode && hasOctet set then
        b.blame .invalidUtf8 (b.cursor.since stretch.start)
      else b
    (set, b)
  | _ => (set, { b with opened := [], cursor := b.cursor.skip 1 })

/-- Reads an ASCII class, if one is next. -/
def asciiClass? : Option (CharSet × Cursor) := do
  let c ← b.cursor.skip? "[:"
  let negated := c.sees '^'
  let c := if negated then c.skip 1 else c
  let name := c.rest.takeWhile (· ≠ ':')
  let c ← (c.skip name.length).skip? ":]"
  let set ← CharSet.asciiClass? (.ofList name)
  let set := b.cased set
  return (if negated then .complement set else set, c)

/-- Reads an element: an escape, or a character. -/
def element : Except Error (Element × Cursor) :=
  match b.cursor.peek with
  | none => b.unclosed
  | some '\\' => escape b.flags b.cursor
  | some x => return (.literal x false, b.cursor.skip 1)

/-- The set of a class that the standard defines. -/
def propertySet (flags : Flags) (negated : Bool) (name : String) : Except Problem CharSet :=
  if !flags.unicode then .error .unicodeNotAllowed
  else
    let (isNot, key, value) := match name.splitOn "!=" with
      | [key, value] => (true, key, some value)
      | _ => match name.splitOn ":" with
        | [key, value] => (false, key, some value)
        | _ => match name.splitOn "=" with
          | [key, value] => (false, key, some value)
          | _ => (false, name, none)
    let negated := negated != isNot
    let found : Except Problem CharSet := match value with
      | none => (CharSet.namedClass? key).elim (.error .propertyUnknown) .ok
      | some value =>
        match CharSet.looseName key with
        | "gc" | "generalcategory" =>
          (CharSet.categoryClass? value).elim (.error .propertyValueUnknown) .ok
        | "sc" | "script" | "scx" | "scriptextensions" =>
          (CharSet.scriptClass? value).elim (.error .propertyValueUnknown) .ok
        | _ => .error .propertyUnknown
    found.map fun set =>
      let set := if flags.anyCase then CharSet.anyCase set else set
      if negated then .complement set else set

/-- Adds an element that is no end of a range. -/
def addElement (e : Element) (stretch : Stretch) (cursor : Cursor) : Except Error Bracket :=
  match e with
  | .literal c octet =>
    let b := b.add (.single c) cursor
    return if !b.flags.unicode && c.toNat > 127 then
        b.blame (if octet then .invalidUtf8 else .unicodeNotAllowed) stretch
      else b
  | .set s => return b.add s cursor
  | .property negated name =>
    match propertySet b.flags negated name with
    | .ok set => return b.add set cursor
    | .error problem => return ({ b with cursor }.blame problem stretch)
  | .dot | .look _ => fail .classEscapeInvalid stretch

/-- The character that an end of a range is. -/
def rangeEnd (e : Element) (stretch : Stretch) : Except Error Char :=
  match e with
  | .literal c _ => return c
  | _ => fail .classRangeLiteral stretch

/-- Reads an element, or a range from one character to another. -/
def item : Except Error Bracket := do
  let start := b.cursor.offset
  let verbose := b.flags.verbose
  let (first, stop) ← b.element
  let c := stop.space verbose
  if c.atEnd then b.unclosed
  let next := c.after verbose
  if !c.sees '-' || next == some ']' || next == some '-' then
    b.addElement first (stop.since start) c
  else
    let c := c.next verbose
    if c.atEnd then b.unclosed
    let (last, behind) ← { b with cursor := c }.element
    let low ← rangeEnd first (stop.since start)
    let high ← rangeEnd last (behind.since c.offset)
    if low > high then fail .classRangeInvalid (behind.since start)
    let b := b.add (.range low high) behind
    return if !b.flags.unicode && high.toNat > 127 then
        b.blame .unicodeNotAllowed (behind.since start)
      else b

/-- Reads to the end of the outermost bracket. The number bounds the characters still to be
    read. -/
def run : Nat → Bracket → Except Error (CharSet × Bracket)
  | 0, b => b.unclosed
  | fuel + 1, b =>
    let b := { b with cursor := b.cursor.space b.flags.verbose }
    let c := b.cursor
    match c.peek with
    | none => b.unclosed
    | some x =>
      if x = '[' then
        match b.asciiClass? with
        | some (set, c) => run fuel (b.add set c)
        | none => do run fuel (← b.openBracket)
      else if x = ']' then
        let (set, b) := b.close
        if b.opened.isEmpty then return (set, b) else run fuel (b.add set b.cursor)
      else if (c.skip? "&&").isSome then run fuel (b.operate .both)
      else if (c.skip? "--").isSome then run fuel (b.operate .without)
      else if (c.skip? "~~").isSome then run fuel (b.operate .either)
      else do run fuel (← b.item)

/-- Reads a bracket expression; the cursor is at its opening bracket. -/
def read (flags : Flags) (c : Cursor) : Except Error (CharSet × Bracket) := do
  run (c.rest.length + 1) (← { cursor := c, flags : Bracket }.openBracket)

end Bracket

end Lintscope.Regex

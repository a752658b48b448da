import Lintscope.Regex.Bracket
import Lintscope.Text.Numeral

/-!
# From text to patterns

A pattern is read from left to right. What is read since the last bar, the branches
before it, and the groups around them are kept, and a closing parenthesis makes one
pattern of the innermost group. Flags hold to the end of the group they are set in, and
for a group that sets flags of its own, within it.

A problem with what something means is reported only if there is none with how the
pattern is written.
-/

namespace Lintscope.Regex

/-- The marks between the question mark behind an opening parenthesis and what ends them. -/
structure FlagMarks where
  /-- The marks and where they stand. -/
  marks : List (Char × Nat) := []
  /-- The flags that they make. -/
  flags : Flags

/-- Sets or clears a flag by its letter; none if there is no such flag. -/
def Flags.set? (f : Flags) (on : Bool) : Char → Option Flags
  | 'i' => some { f with anyCase := on }
  | 'm' => some { f with multiLine := on }
  | 's' => some { f with dotAll := on }
  | 'U' => some { f with lazy := on }
  | 'u' => some { f with unicode := on }
  | 'R' => some { f with carriageReturn := on }
  | 'x' => some { f with verbose := on }
  | _ => none

namespace FlagMarks

/-- Reads flags up to a colon or a closing parenthesis, which is not read. A dash clears
    the flags behind it. -/
def read : Nat → Cursor → FlagMarks → Except Error (FlagMarks × Cursor)
  | 0, c, m => return (m, c)
  | fuel + 1, c, m =>
    match c.peek with
    | none => fail .flagUnexpectedEnd c.point
    | some x => do
      if x = ':' || x = ')' then
        match m.marks.getLast? with
        | some ('-', offset) => fail .flagDanglingNegation ⟨offset, offset + 1⟩
        | _ => return (m, c)
      else
        let on := !m.marks.any (·.1 = '-')
        let earlier := (m.marks.find? (·.1 = x)).map fun (_, offset) =>
          Stretch.mk offset (offset + 1)
        let flags ←
          if x = '-' then pure m.flags
          else match m.flags.set? on x with
            | some flags => pure flags
            | none => fail .flagUnrecognized c.char
        if let some first := earlier then
          fail (if x = '-' then .flagRepeatedNegation first else .flagDuplicate first) c.char
        read fuel (c.skip 1) { marks := m.marks ++ [(x, c.offset)], flags }

end FlagMarks

/-- How many rounds a repetition operator asks for. -/
structure Rounds where
  /-- The least number. -/
  least : Nat
  /-- The greatest number, if there is one. -/
  most : Option Nat

/-- A group that is not closed yet. -/
structure OpenGroup where
  /-- Where it opens. -/
  stretch : Stretch
  /-- The number and the name of a group that keeps its stretch. -/
  kept : Option (Nat × Option String)
  /-- The items before it. -/
  items : List (Option Pattern)
  /-- The branches before these. -/
  branches : List Pattern
  /-- The flags to go back to. -/
  flags : Flags

/-- The state of reading a pattern. Items are kept in reverse order; a setting of flags is
    an item without a pattern. -/
structure Parser where
  /-- What is still to be read. -/
  cursor : Cursor
  /-- How it is to be read. -/
  flags : Flags := {}
  /-- The items since the last bar. -/
  items : List (Option Pattern) := []
  /-- The branches before these. -/
  branches : List Pattern := []
  /-- The groups around these, the innermost first. -/
  groups : List OpenGroup := []
  /-- The number of groups that keep their stretch. -/
  count : Nat := 0
  /-- The names of groups and where they stand. -/
  names : List (String × Stretch) := []
  /-- The first problem with a meaning. -/
  problem : Option Error := none

namespace Parser

variable (p : Parser)

/-- Adds an item. -/
def add (item : Pattern) (cursor : Cursor) : Parser :=
  { p with items := some item :: p.items, cursor }

/-- Keeps a problem, unless there is one already. -/
def blame (problem : Problem) (stretch : Stretch) : Parser :=
  { p with problem := p.problem <|> some ⟨problem, stretch⟩ }

/-- The pattern of items in reverse order. -/
def inSequence (items : List (Option Pattern)) : Pattern :=
  match items.reverse.filterMap id with
  | [] => .empty
  | [q] => q
  | parts => .sequence parts

/-- The pattern of the innermost group. -/
def body : Pattern :=
  let last := inSequence p.items
  match p.branches with
  | [] => last
  | branches => .choice (branches.reverse ++ [last])

/-! ## Groups -/

/-- A character that may stand in the name of a group. -/
def isNameChar (c : Char) (first : Bool) : Bool :=
  c == '_' || Unicode.alphabetic.has c
    || (!first && (c == '.' || c == '[' || c == ']' || Unicode.inCategory "N" c))

/-- Reads the name of a group and the angle bracket behind it. -/
def name (start : Nat) : Nat → Cursor → List Char → Except Error (String × Cursor)
  | 0, c, _ => fail .groupNameUnexpectedEnd c.point
  | fuel + 1, c, name =>
    match c.peek with
    | none => fail .groupNameUnexpectedEnd c.point
    | some x =>
      if x = '>' then
        if name.isEmpty then fail .groupNameEmpty ⟨start, start⟩
        else return (.ofList name, c.skip 1)
      else if !isNameChar x name.isEmpty then fail .groupNameInvalid c.char
      else Parser.name start fuel (c.skip 1) (name ++ [x])

/-- Enters a group. -/
def enter (stretch : Stretch) (kept : Option (Nat × Option String)) (flags : Flags)
    (cursor : Cursor) : Parser :=
  let outer : OpenGroup :=
    { stretch, kept, items := p.items, branches := p.branches, flags := p.flags }
  { p with cursor, flags, items := [], branches := [], groups := outer :: p.groups }

/-- Enters a group that keeps its stretch. -/
def enterKept (stretch : Stretch) (name : Option String) (cursor : Cursor) : Parser :=
  let p := { p with count := p.count + 1 }
  p.enter stretch (some (p.count, name)) p.flags cursor

/-- Reads a named group up to its name. -/
def enterNamed (stretch : Stretch) (c : Cursor) : Except Error Parser := do
  let (name, behind) ← name c.offset (c.rest.length + 1) c []
  let here : Stretch := ⟨c.offset, behind.offset - 1⟩
  match p.names.lookup name with
  | some first => fail (.groupNameDuplicate first) here
  | none => return { p with names := (name, here) :: p.names }.enterKept stretch (some name) behind

/-- Reads an opening parenthesis and what belongs to it. -/
def openGroup : Except Error Parser := do
  let stretch := p.cursor.char
  let c := p.cursor.next p.flags.verbose
  for lead in ["?=", "?!", "?<=", "?<!"] do
    if let some behind := c.skip? lead then fail .lookAround (behind.since stretch.start)
  if let some c := c.skip? "?P<" <|> c.skip? "?<" then p.enterNamed stretch c
  else if let some inside := c.skip? "?" then
    if inside.atEnd then fail .groupUnclosed stretch
    let (m, stop) ← FlagMarks.read (inside.rest.length + 1) inside { flags := p.flags }
    let behind := stop.skip 1
    if stop.sees ':' then return p.enter stretch none m.flags behind
    else if m.marks.isEmpty then fail .repetitionMissing c.point
    else return { p with flags := m.flags, items := none :: p.items, cursor := behind }
  else return p.enterKept stretch none c

/-- Reads a closing parenthesis. -/
def closeGroup : Except Error Parser :=
  match p.groups with
  | [] => fail .groupUnopened p.cursor.char
  | g :: groups =>
    let inner := p.body
    let item := match g.kept with
      | some (index, name) => Pattern.group index name inner
      | none => inner
    return { p with
      cursor := p.cursor.skip 1, flags := g.flags, groups
      items := some item :: g.items, branches := g.branches }

/-! ## Repetitions -/

/-- Reads a number within a counted repetition; blanks may stand around it. -/
def number (verbose : Bool) (c : Cursor) : Except Error (Nat × Cursor) := do
  let blanks := c.rest.takeWhile Text.isBlank
  let c := c.skip blanks.length
  let (digits, stop) := digits verbose c.rest.length c []
  let trailing := trail verbose stop.rest.length stop
  if digits.isEmpty then fail .repetitionCountEmpty (stop.since c.offset)
  let n := digits.foldl (fun n d => 10 * n + (d.toNat - '0'.toNat)) 0
  if n ≥ Text.limit32 then fail .decimalInvalid (stop.since c.offset)
  return (n, trailing)
where
  digits (verbose : Bool) : Nat → Cursor → List Char → List Char × Cursor
    | 0, c, ds => (ds, c)
    | fuel + 1, c, ds =>
      match c.peek with
      | some x => if x.isDigit then digits verbose fuel (c.next verbose) (ds ++ [x]) else (ds, c)
      | none => (ds, c)
  trail (verbose : Bool) : Nat → Cursor → Cursor
    | 0, c => c
    | fuel + 1, c =>
      if c.peek.any Text.isBlank then trail verbose fuel (c.next verbose) else c

/-- Where a number would begin: behind blanks. -/
def numberStart (c : Cursor) : Cursor := c.skip (c.rest.takeWhile Text.isBlank).length

/-- Reads the numbers of a counted repetition. The cursor is at its opening brace. -/
def counts (verbose : Bool) (c : Cursor) : Except Error (Rounds × Cursor) := do
  let start := c.offset
  let c := c.next verbose
  if c.atEnd then fail .repetitionCountUnclosed (c.since start)
  let least : Except Error (Nat × Cursor) := number verbose c
  let stop ← match least with
    | .ok (_, stop) => pure stop
    | .error e =>
      match e.problem with
      | .repetitionCountEmpty => pure (numberStart c)
      | _ => throw e
  if stop.atEnd then fail .repetitionCountUnclosed (stop.since start)
  let (rounds, stop) ←
    if stop.sees ',' then
      let c := stop.next verbose
      if c.atEnd then fail .repetitionCountUnclosed (c.since start)
      let (n, _) ← least
      if c.sees '}' then pure (Rounds.mk n none, c)
      else
        let (m, stop) ← number verbose c
        pure (⟨n, some m⟩, stop)
    else
      let (n, _) ← least
      pure (⟨n, some n⟩, stop)
  if !stop.sees '}' then fail .repetitionCountUnclosed (stop.since start)
  return (rounds, stop)

/-- Repeats the last item. A question mark behind the operator takes the other greed. -/
def repetition (start : Nat) (rounds : Rounds) (behind : Cursor) : Except Error Parser :=
  match p.items with
  | some item :: rest => do
    let reluctant := behind.sees '?'
    let stop := if reluctant then behind.skip 1 else behind
    if rounds.most.any (· < rounds.least) then
      fail .repetitionCountInvalid (stop.since start)
    let greedy := reluctant == p.flags.lazy
    return { p with
      cursor := stop
      items := some (.repeated rounds.least rounds.most greedy item) :: rest }
  | _ => fail .repetitionMissing p.cursor.point

/-- Reads a counted repetition. -/
def counted : Except Error Parser := do
  match p.items with
  | some _ :: _ =>
    let (rounds, stop) ← counts p.flags.verbose p.cursor
    p.repetition p.cursor.offset rounds (stop.next p.flags.verbose)
  | _ => fail .repetitionMissing p.cursor.point

/-! ## Elements -/

/-- The assertion at the start or the end of a line. -/
def lineLook (start : Bool) : Look :=
  match p.flags.multiLine, p.flags.carriageReturn with
  | false, _ => if start then .textStart else .textEnd
  | true, false => if start then .lineStart else .lineEnd
  | true, true => if start then .lineStartAny else .lineEndAny

/-- The set that a dot stands for. -/
def dotSet : CharSet :=
  if p.flags.dotAll then .full
  else if p.flags.carriageReturn then .complement (.ofList ['\r', '\n'])
  else .notLineFeed

/-- A character as the flags want it. -/
def literal (c : Char) : CharSet :=
  let set := CharSet.single c
  if p.flags.anyCase && (p.flags.unicode || c.toNat < 128) then
    if p.flags.unicode then .anyCase set else .both .ascii (.anyCase set)
  else set

/-- Adds an element. -/
def addElement (e : Element) (stretch : Stretch) (cursor : Cursor) : Parser :=
  match e with
  | .literal c octet =>
    let p := p.add (.one (p.literal c)) cursor
    if octet && !p.flags.unicode && c.toNat > 127 then p.blame .invalidUtf8 stretch else p
  | .set s =>
    let p := p.add (.one s) cursor
    if !p.flags.unicode && Bracket.hasOctet s then p.blame .invalidUtf8 stretch else p
  | .property negated name =>
    match Bracket.propertySet p.flags negated name with
    | .ok set => p.add (.one set) cursor
    | .error problem => (p.add .empty cursor).blame problem stretch
  | .dot =>
    let p := p.add (.one p.dotSet) cursor
    if p.flags.unicode then p else p.blame .invalidUtf8 stretch
  | .look l => p.add (.look l) cursor

/-- Reads what is next. -/
def step (x : Char) : Except Error Parser := do
  let c := p.cursor
  let behind := c.skip 1
  match x with
  | '(' => p.openGroup
  | ')' => p.closeGroup
  | '|' =>
    return { p with cursor := behind, branches := inSequence p.items :: p.branches, items := [] }
  | '[' =>
    let (set, b) ← Bracket.read p.flags c
    let p := p.add (.one set) b.cursor
    return { p with problem := p.problem <|> b.problem }
  | '?' => p.repetition c.offset ⟨0, some 1⟩ behind
  | '*' => p.repetition c.offset ⟨0, none⟩ behind
  | '+' => p.repetition c.offset ⟨1, none⟩ behind
  | '{' => p.counted
  | '.' => return p.addElement .dot c.char behind
  | '^' => return p.add (.look (p.lineLook true)) behind
  | '$' => return p.add (.look (p.lineLook false)) behind
  | '\\' =>
    let (e, stop) ← escape p.flags c
    return p.addElement e (stop.since c.offset) stop
  | _ => return p.addElement (.literal x false) c.char behind

/-- Reads to the end. The number bounds the characters still to be read. -/
def run : Nat → Parser → Except Error Parser
  | 0, p => return p
  | fuel + 1, p =>
    let p := { p with cursor := p.cursor.space p.flags.verbose }
    match p.cursor.peek with
    | none => return p
    | some x => do run fuel (← p.step x)

end Parser

/-- The pattern that a text writes. -/
def Pattern.parse (text : String) : Except Error Pattern := do
  let p ← Parser.run (text.length + 1) { cursor := ⟨text.toList, 0⟩ }
  match p.groups, p.problem with
  | g :: _, _ => fail .groupUnclosed g.stretch
  | [], some e => throw e
  | [], none => return p.body

end Lintscope.Regex

import Lintscope.Yaml.Token.Property
import Lintscope.Yaml.Token.Text

/-!
# From text to tokens

The scanner moves over the text token by token. Two things make YAML harder to scan
than most languages. Block collections have no brackets: their starts and ends follow
from the columns at which tokens stand, so the scanner keeps the indentations of the
open ones. And a key is seen to be a key only at the colon behind it: so the scanner
remembers, for each level of flow brackets, where the last token stood that may turn
out to be a key, and puts the `key` token in front of it afterwards. A key that may be
written without an indicator lies on one line and is at most 1024 characters long.

A fault ends the scan. Of the tokens before it, those from the first possible key on
are not told, since it was never settled whether they are a key.
-/

namespace Lintscope.Yaml

/-- A token that may turn out to be a key: its number and its place. A required one
    stands where only a key can stand. -/
structure PossibleKey where
  /-- Whether it must be a key. -/
  required : Bool
  /-- The number of tokens before it. -/
  number : Nat
  /-- Where it starts. -/
  place : Place

/-- The state of a scan. -/
structure Scanner where
  /-- The unread text. -/
  cursor : Cursor
  /-- The tokens that were read. -/
  tokens : Array Token := #[]
  /-- The indentation of the innermost block collection; none outside of all. -/
  indent : Option Nat := none
  /-- The indentations of the block collections around it. -/
  outer : List (Option Nat) := []
  /-- The possible key of the innermost flow level. -/
  key : Option PossibleKey := none
  /-- The possible keys of the levels around it, as many as there are open brackets. -/
  outerKeys : List (Option PossibleKey) := []
  /-- Whether a key may start here. -/
  keyAllowed : Bool := true
  /-- Whether the text has ended. -/
  finished : Bool := false

namespace Scanner

variable (s : Scanner)

/-- Whether the scan is inside of brackets. -/
def inFlow : Bool := !s.outerKeys.isEmpty

/-- Where the unread text starts. -/
def place : Place := s.cursor.place

/-- Adds a token that ends at the cursor. -/
def push (kind : TokenKind) (start : Place) (cursor : Cursor) : Scanner :=
  { s with tokens := s.tokens.push ⟨kind, start, cursor.place⟩, cursor }

/-- Adds a token without characters. -/
def mark (kind : TokenKind) : Scanner := s.push kind s.place s.cursor

/-- Puts a token without characters in front of the token with a number. -/
def insert (number : Nat) (kind : TokenKind) (place : Place) : Scanner :=
  { s with tokens := s.tokens.insertIdxIfInBounds number ⟨kind, place, place⟩ }

/-! ## Possible keys -/

/-- Forgets a possible key that can no longer be one; a required one is a fault. -/
def expire (key : Option PossibleKey) : Except SyntaxError (Option PossibleKey) :=
  match key with
  | none => return none
  | some k =>
    if k.place.line < s.place.line || k.place.index + 1024 < s.place.index then
      if k.required then s.cursor.fail .simpleKey k.place .noColon else return none
    else return some k

/-- Forgets all possible keys that can no longer be one, the outermost first. -/
def expireKeys : Except SyntaxError Scanner := do
  let outerKeys ← s.outerKeys.reverse.mapM s.expire
  let key ← s.expire s.key
  return { s with key, outerKeys := outerKeys.reverse }

/-- Gives up the possible key of this level; a required one is a fault. -/
def dropKey : Except SyntaxError Scanner :=
  match s.key with
  | some k =>
    if k.required then s.cursor.fail .simpleKey k.place .noColon
    else return { s with key := none }
  | none => return s

/-- Remembers the next token as a possible key, where one may start. -/
def noteKey : Except SyntaxError Scanner := do
  if !s.keyAllowed then return s
  let s ← s.dropKey
  let required := !s.inFlow && s.indent == some s.place.column
  return { s with key := some ⟨required, s.tokens.size, s.place⟩ }

/-! ## Block collections -/

/-- Opens a block collection at a column, unless one that is at least as wide is open;
    its start is put in front of the token with the number, if there is one. -/
def openBlock (column : Nat) (number : Option Nat) (kind : TokenKind) (place : Place) : Scanner :=
  if s.inFlow || !s.indent.all (· < column) then s
  else
    let s := { s with outer := s.indent :: s.outer, indent := some column }
    match number with
    | some n => s.insert n kind place
    | none => s.insert s.tokens.size kind place

/-- Closes the block collections that are wider than the column. -/
def closeBlocks (column : Option Nat) : Scanner :=
  if s.inFlow then s else go s s.outer
where
  go (s : Scanner) : List (Option Nat) → Scanner
    | [] => s
    | outer :: rest =>
      if s.indent.any fun n => column.all (· < n) then
        go { s.mark .blockEnd with indent := outer, outer := rest } rest
      else s

/-! ## Tokens -/

/-- Moves over blanks, comments and line breaks to the next token. Tabs are blanks
    where no key may start. After a line break one may, outside of brackets. -/
def skipGap : Nat → Scanner → Scanner
  | 0, s => s
  | fuel + 1, s =>
    let c := s.cursor
    let c := if c.place.index = 0 && c.sees '\uFEFF' then c.step else c
    let c := (c.span fun x => x == ' ' || (x == '\t' && (s.inFlow || !s.keyAllowed))).2
    let c := if c.sees '#' then (c.span (!isBreak ·)).2 else c
    if c.peek.any isBreak then
      skipGap fuel { s with cursor := c.lineBreak.2, keyAllowed := s.keyAllowed || !s.inFlow }
    else { s with cursor := c }

/-- The end of the text closes all block collections. -/
def finish : Except SyntaxError Scanner := do
  let p := s.place
  let c := if p.column = 0 then s.cursor
    else { s.cursor with place := { p with line := p.line + 1, column := 0 } }
  let s := closeBlocks { s with cursor := c } none
  let s ← s.dropKey
  return { s.mark .streamEnd with keyAllowed := false, finished := true }

/-- A directive, or the line that starts or ends a document, closes all block
    collections. -/
def betweenDocuments : Except SyntaxError Scanner := do
  let s ← (s.closeBlocks none).dropKey
  return { s with keyAllowed := false }

/-- An opening bracket may start a key, and so may what follows it. -/
def openFlow (kind : TokenKind) : Except SyntaxError Scanner := do
  let s ← s.noteKey
  let s := { s with outerKeys := s.key :: s.outerKeys, key := none, keyAllowed := true }
  return s.push kind s.place s.cursor.step

/-- A closing bracket ends its level. -/
def closeFlow (kind : TokenKind) : Except SyntaxError Scanner := do
  let s ← s.dropKey
  let s := match s.outerKeys with
    | key :: rest => { s with key, outerKeys := rest }
    | [] => s
  return { s with keyAllowed := false }.push kind s.place s.cursor.step

/-- A comma ends an entry of a flow collection. -/
def nextInFlow : Except SyntaxError Scanner := do
  let s ← s.dropKey
  return { s with keyAllowed := true }.push .flowEntry s.place s.cursor.step

/-- An indicator of a block collection, which is opened if need be. -/
def indicator (block kind : TokenKind) (problem : Problem) (keyAllowed : Bool) :
    Except SyntaxError Scanner := do
  if !s.inFlow && !s.keyAllowed then throw { problem, place := s.place }
  let s := s.openBlock s.place.column none block s.place
  let s ← s.dropKey
  return { s with keyAllowed }.push kind s.place s.cursor.step

/-- A colon makes the possible key a key; without one it stands for itself. -/
def value : Except SyntaxError Scanner := do
  match s.key with
  | some k =>
    let s := s.insert k.number .key k.place
    let s := s.openBlock k.place.column (some k.number) .blockMappingStart k.place
    return { s with key := none, keyAllowed := false }.push .value s.place s.cursor.step
  | none =>
    if !s.inFlow && !s.keyAllowed then throw { problem := .valueNotAllowed, place := s.place }
    let s := s.openBlock s.place.column none .blockMappingStart s.place
    return { s with keyAllowed := !s.inFlow }.push .value s.place s.cursor.step

/-- An anchor, an alias or a tag may start a key. -/
def property (read : Cursor → Except SyntaxError (TokenKind × Cursor)) :
    Except SyntaxError Scanner := do
  let s ← s.noteKey
  let (kind, c) ← read s.cursor
  return { s with keyAllowed := false }.push kind s.place c

/-- The name behind the indicator of an anchor or an alias. -/
def name (context : Context) (kind : String → TokenKind) (c : Cursor) :
    Except SyntaxError (TokenKind × Cursor) := do
  let (name, next) ← anchorName context c.place c.step
  return (kind name, next)

/-- A block scalar cannot be a key, but one may follow it. -/
def block (style : Style) : Except SyntaxError Scanner := do
  let s ← s.dropKey
  let (text, c) ← blockText (style == .literal) s.indent s.place s.cursor.step
  return { s with keyAllowed := true }.push (.scalar (String.ofList text) style) s.place c

/-- A quoted scalar may be a key. -/
def quoted (style : Style) : Except SyntaxError Scanner := do
  let s ← s.noteKey
  let c := s.cursor.step
  let (text, c) ← quotedText (style == .singleQuoted) s.place (c.rest.length + 1) c []
  return { s with keyAllowed := false }.push (.scalar (String.ofList text) style) s.place c

/-- A plain scalar may be a key; behind a line break that ends it a key may start. -/
def plain : Except SyntaxError Scanner := do
  let s ← s.noteKey
  let indent := match s.indent with
    | some n => n + 1
    | none => 0
  let (t, c) ← plainText s.inFlow indent s.place s.cursor.rest.length s.cursor { stop := s.place }
  let token : Token := ⟨.scalar (String.ofList t.text) .plain, s.place, t.stop⟩
  return { s with cursor := c, keyAllowed := t.gap.hasBreak, tokens := s.tokens.push token }

/-- Whether the next character, followed by a gap where that matters, starts a plain
    scalar. -/
def startsPlain (x : Char) : Bool :=
  !(isSpaceOrTab x || "-?:,[]\x7b\x7d#&*!|>'\"%@\x60".toList.contains x)
    || (x == '-' && !(s.cursor.at? 1).any isSpaceOrTab)
    || (!s.inFlow && (x == '?' || x == ':') && !s.cursor.gapAt 1)

/-- Reads the token at the cursor. -/
def token : Except SyntaxError Scanner :=
  let c := s.cursor
  match c.peek with
  | none => s.finish
  | some x => do
    if c.place.column = 0 && x == '%' then
      let s ← s.betweenDocuments
      let (kind, next) ← directive c
      return s.push kind c.place next
    else if c.atDocumentIndicator then
      let s ← s.betweenDocuments
      return s.push (if x == '-' then .documentStart else .documentEnd) c.place (c.advance 3)
    else if x == '[' then s.openFlow .flowSequenceStart
    else if x == '{' then s.openFlow .flowMappingStart
    else if x == ']' then s.closeFlow .flowSequenceEnd
    else if x == '}' then s.closeFlow .flowMappingEnd
    else if x == ',' then s.nextInFlow
    else if x == '-' && c.gapAt 1 then
      s.indicator .blockSequenceStart .blockEntry .entryNotAllowed true
    else if x == '?' && (s.inFlow || c.gapAt 1) then
      s.indicator .blockMappingStart .key .keyNotAllowed !s.inFlow
    else if x == ':' && (s.inFlow || c.gapAt 1) then s.value
    else if x == '*' then s.property (name .alias .alias)
    else if x == '&' then s.property (name .anchor .anchor)
    else if x == '!' then s.property (Yaml.tag s.inFlow)
    else if x == '|' && !s.inFlow then s.block .literal
    else if x == '>' && !s.inFlow then s.block .folded
    else if x == '\'' then s.quoted .singleQuoted
    else if x == '"' then s.quoted .doubleQuoted
    else if s.startsPlain x then s.plain
    else c.fail .nextToken c.place .noToken

/-- Moves to the next token and reads it. -/
def advance : Except SyntaxError Scanner := do
  let s ← (skipGap (s.cursor.rest.length + 1) s).expireKeys
  (s.closeBlocks (some s.place.column)).token

/-- The tokens that are settled: those before the first possible key. -/
def settled : List Token :=
  let keys := (s.key :: s.outerKeys).filterMap id
  s.tokens.toList.take (keys.foldl (fun n k => min n k.number) s.tokens.size)

/-- Reads tokens to the end of the text or to the first fault. -/
def run : Nat → Scanner → Tokens
  | 0, s => ⟨s.settled, none⟩
  | fuel + 1, s =>
    if s.finished then ⟨s.tokens.toList, none⟩
    else match s.expireKeys with
      | .error e => ⟨s.settled, some e⟩
      | .ok s =>
        match s.advance with
        | .error e => ⟨s.settled, some e⟩
        | .ok next => run fuel next

end Scanner

/-- The bytes before the first character that no text may hold. -/
def strayOffset? : Nat → List Char → Option Nat
  | _, [] => none
  | n, c :: rest => if isAllowed c then strayOffset? (n + c.utf8Size) rest else some n

/-- The tokens of a text. -/
def Tokens.ofText (text : String) : Tokens :=
  let chars := text.toList
  match strayOffset? 0 chars with
  | some offset => ⟨[], some { problem := .controlCharacter, place := {}, offset }⟩
  | none => Scanner.run (chars.length + 2) { cursor := ⟨chars, {}⟩ }

end Lintscope.Yaml

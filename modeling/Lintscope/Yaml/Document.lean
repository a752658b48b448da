import Lintscope.Yaml.Node
import Lintscope.Yaml.Token.Scanner

/-!
# From tokens to a document

A node is an alias, or properties and a content. In block style a collection is
closed by a token of its own; a sequence that is the value of a mapping may stand at
the mapping's own indentation, and then nothing closes it but the end of its entries.
A key or a value that is not written is an empty scalar.

Each function returns what it read and the reader behind it, or no reader if the text
breaks off; then what it read ends in a broken leaf. The number handed to the
functions bounds the nesting and the tokens still to be read.
-/

namespace Lintscope.Yaml

/-- The tokens still to be read, what is wrong behind them, the declared tag handles,
    and the anchors met so far. -/
structure Reader where
  /-- The tokens. -/
  tokens : List Token
  /-- What is wrong behind them. -/
  fault : Fault
  /-- The handles, each with what it expands to. -/
  handles : List (String × String) := []
  /-- The anchors, each with its number. -/
  anchors : List (String × Nat) := []

namespace Reader

variable (r : Reader)

/-- The next token. -/
def peek : Except Fault Token :=
  match r.tokens with
  | t :: _ => .ok t
  | [] => .error r.fault

/-- The reader behind the next token. -/
def skip : Reader := { r with tokens := r.tokens.tail }

/-- Whether the next token is one of some kinds. -/
def sees (kinds : List TokenKind) : Bool :=
  match r.tokens with
  | t :: _ => kinds.contains t.kind
  | [] => false

/-- The fault that the next token is not what belongs here. -/
def unexpected (context : Context) (start : Place) (problem : Problem) : Fault :=
  match r.peek with
  | .ok t => .malformed (.inside context start problem t.start)
  | .error e => e

/-- A name for the node that starts here: its number is the number of names so far. -/
def nameAnchor (name : String) : Nat × Reader :=
  let n := r.anchors.length
  (n, { r with anchors := (name, n) :: r.anchors.filter (·.1 != name) })

/-- The tag that a handle and a suffix make up. -/
def expandTag? (handle suffix : String) : Option String :=
  if handle.isEmpty then some suffix
  else (r.handles.find? (·.1 == handle)).map (·.2 ++ suffix)

end Reader

/-- What was read, and the reader behind it unless the text broke off. -/
abbrev Reads (α : Type) := α × Option Reader

/-- A node that breaks off. -/
def broken (fault : Fault) : Reads Node := (.broken fault, none)

/-- Items that break off. -/
def brokenItems (fault : Fault) : Reads (List Node) := ([.broken fault], none)

/-- Entries that break off. -/
def brokenEntries (fault : Fault) : Reads (List (Node × Node)) :=
  ([(.broken fault, .broken fault)], none)

/-- Applies a constructor to what was read. -/
def Reads.map {α β : Type} (f : α → β) (r : Reads α) : Reads β := (f r.1, r.2)

/-- What was read first, and then the rest of the collection. -/
def Reads.cons {α : Type} (first : Reads α) (rest : Reader → Reads (List α)) : Reads (List α) :=
  match first with
  | (a, none) => ([a], none)
  | (a, some r) => (rest r).map (a :: ·)

/-- A key and then its value. -/
def Reads.pair (key : Reads Node) (value : Reader → Reads Node) : Reads (Node × Node) :=
  match key with
  | (k, none) => ((k, k), none)
  | (k, some r) => (value r).map (k, ·)

/-- The properties of a node, its place, and whether it has any. -/
structure Properties where
  /-- Where the node starts. -/
  place : Place
  /-- The anchor. -/
  anchor : Option String := none
  /-- The handle and the suffix of the tag, and where the tag starts. -/
  tag : Option (String × String × Place) := none

namespace Properties

/-- Reads the properties of a node: at most one anchor and one tag, in either order. -/
def read (r : Reader) (start : Place) : Properties × Reader :=
  let step (p : Properties) (r : Reader) : Properties × Reader :=
    match r.tokens with
    | ⟨.anchor name, _, _⟩ :: _ =>
      if p.anchor.isNone then ({ p with anchor := some name }, r.skip) else (p, r)
    | ⟨.tag handle suffix, place, _⟩ :: _ =>
      if p.tag.isNone then ({ p with tag := some (handle, suffix, place) }, r.skip) else (p, r)
    | _ => (p, r)
  let (p, r) := step { place := start } r
  if p.anchor.isNone && p.tag.isNone then (p, r) else step p r

/-- The tag, its handle expanded. -/
def expand (p : Properties) (r : Reader) : Except Fault (Option String) :=
  match p.tag with
  | none => .ok none
  | some (handle, suffix, place) =>
    match r.expandTag? handle suffix with
    | some tag => .ok (some tag)
    | none => .error (.malformed (.inside .node p.place .undefinedHandle place))

/-- The head of a node with these properties, whose anchor is now known. -/
def head (p : Properties) (tag : Option String) (r : Reader) : Head × Reader :=
  match p.anchor with
  | none => ({ place := p.place, tag }, r)
  | some name =>
    let (n, r) := r.nameAnchor name
    ({ place := p.place, anchor := some n, tag }, r)

end Properties

/-! ## Nodes -/

mutual

/-- Reads a node. In block style it may be a block collection, and where `indentless` is
    set also a sequence that is not indented. -/
def node (block indentless : Bool) : Nat → Reader → Reads Node
  | 0, r => broken r.fault
  | fuel + 1, r =>
    match r.peek with
    | .error e => broken e
    | .ok t =>
      match t.kind with
      | .alias name =>
        match r.anchors.find? (·.1 == name) with
        | some (_, n) => (.alias t.start n, some r.skip)
        | none => broken (.unknownAlias t.start)
      | _ =>
        let (p, r) := Properties.read r t.start
        match r.peek, p.expand r with
        | .error e, _ => broken e
        | .ok _, .error e => broken e
        | .ok t, .ok tag =>
          let (head, named) := p.head tag r
          match t.kind with
          | .scalar text style =>
            let tag := if head.tag == some "!" then none else head.tag
            (.scalar { head with tag } text style, some named.skip)
          | .flowSequenceStart => (flowItems t.start true fuel named.skip).map (.sequence head)
          | .flowMappingStart => (flowEntries t.start true fuel named.skip).map (.mapping head)
          | _ =>
            if indentless && t.kind == .blockEntry then
              (indentlessItems fuel named).map (.sequence head)
            else if block && t.kind == .blockSequenceStart then
              (blockItems t.start fuel named.skip).map (.sequence head)
            else if block && t.kind == .blockMappingStart then
              (blockEntries t.start fuel named.skip).map (.mapping head)
            else if p.anchor.isSome || p.tag.isSome then (.scalar head "" .plain, some named)
            else broken (r.unexpected (if block then .blockNode else .flowNode) p.place .noContent)

/-- Reads a node, unless one of the tokens that may follow it comes first. -/
def nodeUnless (absent : List TokenKind) (block indentless : Bool) (place : Place) :
    Nat → Reader → Reads Node
  | 0, r => broken r.fault
  | fuel + 1, r =>
    if r.sees absent then (.empty place, some r) else node block indentless fuel r

/-- Reads the items of a block sequence. -/
def blockItems (start : Place) : Nat → Reader → Reads (List Node)
  | 0, r => brokenItems r.fault
  | fuel + 1, r =>
    match r.tokens with
    | ⟨.blockEntry, _, stop⟩ :: _ =>
      (nodeUnless [.blockEntry, .blockEnd] true false stop fuel r.skip).cons
        fun r => blockItems start fuel r
    | ⟨.blockEnd, _, _⟩ :: _ => ([], some r.skip)
    | _ => brokenItems (r.unexpected .blockCollection start .noDash)

/-- Reads the items of a sequence that is not indented. -/
def indentlessItems : Nat → Reader → Reads (List Node)
  | 0, r => brokenItems r.fault
  | fuel + 1, r =>
    match r.peek with
    | .error e => brokenItems e
    | .ok ⟨.blockEntry, _, stop⟩ =>
      (nodeUnless [.blockEntry, .key, .value, .blockEnd] true false stop fuel r.skip).cons
        fun r => indentlessItems fuel r
    | .ok _ => ([], some r)

/-- Reads the entries of a block mapping. -/
def blockEntries (start : Place) : Nat → Reader → Reads (List (Node × Node))
  | 0, r => brokenEntries r.fault
  | fuel + 1, r =>
    match r.tokens with
    | ⟨.key, _, stop⟩ :: _ =>
      ((nodeUnless [.key, .value, .blockEnd] true true stop fuel r.skip).pair
        fun r => blockValue fuel r).cons fun r => blockEntries start fuel r
    | ⟨.blockEnd, _, _⟩ :: _ => ([], some r.skip)
    | _ => brokenEntries (r.unexpected .blockMapping start .noKey)

/-- Reads the value of a block mapping's key. -/
def blockValue : Nat → Reader → Reads Node
  | 0, r => broken r.fault
  | fuel + 1, r =>
    match r.peek with
    | .error e => broken e
    | .ok ⟨.value, _, stop⟩ =>
      nodeUnless [.key, .value, .blockEnd] true true stop fuel r.skip
    | .ok t => (.empty t.start, some r)

/-- Reads the items of a flow sequence. An item may be a mapping of one entry without
    braces. -/
def flowItems (start : Place) (first : Bool) : Nat → Reader → Reads (List Node)
  | 0, r => brokenItems r.fault
  | fuel + 1, r =>
    if r.sees [.flowSequenceEnd] then ([], some r.skip)
    else if !first && !r.sees [.flowEntry] then
      brokenItems (r.unexpected .flowSequence start .noCommaOrBracket)
    else
      let r := if first then r else r.skip
      match r.peek with
      | .error e => brokenItems e
      | .ok ⟨.flowSequenceEnd, _, _⟩ => ([], some r.skip)
      | .ok ⟨.key, place, _⟩ =>
        ((singleEntry fuel r.skip).map fun entry => Node.mapping { place } [entry]).cons
          fun r => flowItems start false fuel r
      | .ok _ => (node false false fuel r).cons fun r => flowItems start false fuel r

/-- Reads the entry of a mapping without braces. Where its key is not written, the token
    that shows this is read over. -/
def singleEntry : Nat → Reader → Reads (Node × Node)
  | 0, r => ((.broken r.fault, .broken r.fault), none)
  | fuel + 1, r =>
    let key : Reads Node :=
      match r.tokens with
      | ⟨.value, _, stop⟩ :: _ => (.empty stop, some r.skip)
      | ⟨.flowEntry, _, stop⟩ :: _ => (.empty stop, some r.skip)
      | ⟨.flowSequenceEnd, _, stop⟩ :: _ => (.empty stop, some r.skip)
      | _ => node false false fuel r
    key.pair fun r => flowValue [.flowEntry, .flowSequenceEnd] fuel r

/-- Reads the value of a flow mapping's key. -/
def flowValue (absent : List TokenKind) : Nat → Reader → Reads Node
  | 0, r => broken r.fault
  | fuel + 1, r =>
    match r.peek with
    | .error e => broken e
    | .ok ⟨.value, _, _⟩ =>
      match r.skip.peek with
      | .error e => broken e
      | .ok t => nodeUnless absent false false t.start fuel r.skip
    | .ok t => (.empty t.start, some r)

/-- Reads the entries of a flow mapping. A key without an indicator and without a colon
    has an empty value. -/
def flowEntries (start : Place) (first : Bool) : Nat → Reader → Reads (List (Node × Node))
  | 0, r => brokenEntries r.fault
  | fuel + 1, r =>
    if r.sees [.flowMappingEnd] then ([], some r.skip)
    else if !first && !r.sees [.flowEntry] then
      brokenEntries (r.unexpected .flowMapping start .noCommaOrBrace)
    else
      let r := if first then r else r.skip
      match r.peek with
      | .error e => brokenEntries e
      | .ok ⟨.flowMappingEnd, _, _⟩ => ([], some r.skip)
      | .ok ⟨.key, _, _⟩ =>
        match r.skip.peek with
        | .error e => brokenEntries e
        | .ok t =>
          ((nodeUnless [.value, .flowEntry, .flowMappingEnd] false false t.start fuel r.skip).pair
            fun r => flowValue [.flowEntry, .flowMappingEnd] fuel r).cons
              fun r => flowEntries start false fuel r
      | .ok _ =>
        ((node false false fuel r).pair fun r =>
          match r.peek with
          | .error e => broken e
          | .ok t => (.empty t.start, some r)).cons fun r => flowEntries start false fuel r

end

/-! ## Documents -/

/-- The handles that are known without a declaration. -/
def standardHandles : List (String × String) := [("!", "!"), ("!!", "tag:yaml.org,2002:")]

/-- Reads the directives before a document. -/
def directives (versioned : Bool) : Nat → Reader → Except Fault Reader
  | 0, r => return r
  | fuel + 1, r => do
    let t ← r.peek
    match t.kind with
    | .version major minor =>
      if versioned then throw (.malformed { problem := .secondVersion, place := t.start })
      if major ≠ 1 || (minor ≠ 1 && minor ≠ 2) then
        throw (.malformed { problem := .wrongVersion, place := t.start })
      directives true fuel r.skip
    | .handle name expansion =>
      if r.handles.any (·.1 == name) then
        throw (.malformed { problem := .secondHandle, place := t.start })
      directives versioned fuel { r.skip with handles := r.handles ++ [(name, expansion)] }
    | _ => return { r with handles := r.handles ++ standardHandles }

namespace Document

/-- Whether a token can only stand between documents. -/
def separates : TokenKind → Bool
  | .version .. | .handle .. | .documentStart | .streamEnd => true
  | _ => false

/-- What stands behind the tree of a document. -/
def ending (r : Reader) : Option Fault × Bool :=
  match r.peek with
  | .error e => (some e, false)
  | .ok _ =>
    let ends := r.tokens.dropWhile (·.kind == .documentEnd)
    match ends with
    | t :: _ => (none, t.kind != .streamEnd)
    | [] => (none, true)

/-- A document with its tree. -/
def close (root : Reads Node) : Document :=
  match root with
  | (root, none) => { root }
  | (root, some r) =>
    let (fault, followed) := ending r
    { root, fault, followed }

/-- The first document of a text. -/
def ofTokens (ts : Tokens) : Document :=
  let fault : Fault := .malformed (ts.fault.getD { problem := .noDocumentStart, place := {} })
  let r : Reader := { tokens := ts.tokens, fault }
  let fuel := 4 * ts.tokens.length + 4
  let read : Except Fault Document := do
    let t ← r.peek
    if t.kind == .streamEnd then return { root := .void t.start }
    let r ← directives false fuel r
    if !separates t.kind then return close (node true false fuel r)
    let t ← r.peek
    if t.kind != .documentStart then
      throw (.malformed { problem := .noDocumentStart, place := t.start })
    let r := r.skip
    let t ← r.peek
    if separates t.kind || t.kind == .documentEnd then return close (.empty t.start, some r)
    return close (node true false fuel r)
  match read with
  | .ok d => d
  | .error e => { root := .broken e }

/-- The first document of a text. -/
def ofText (text : String) : Document := ofTokens (.ofText text)

end Document

end Lintscope.Yaml

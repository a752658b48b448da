import Lintscope.Yaml.Document
import Lintscope.Yaml.Value

/-!
# Reading a document into typed data

A document is read from its root downwards, so of several faults the first one in the
text is reported: that a value does not fit, or that the text breaks off. What is said
about a value names the path to it, and ends with its place.

Two limits keep a small text from growing without bounds: a value may be nested 128
levels deep, and aliases may be followed a hundred times as often as the document is
large.
-/

namespace Lintscope.Yaml

/-- The way from the root of a document to a value. -/
inductive Path
  /-- The root itself. -/
  | root
  /-- An item of a sequence. -/
  | item (parent : Path) (index : Nat)
  /-- The value of a key. -/
  | field (parent : Path) (name : String)
  /-- A value whose key is not a scalar. -/
  | unnamed (parent : Path)

namespace Path

/-- A path as text; the root is a dot. -/
def text : Path → String
  | .root => "."
  | .item parent index => parent.text ++ "[" ++ toString index ++ "]"
  | .field parent name => (match parent with
    | .root => ""
    | p => p.text ++ ".") ++ name
  | .unnamed parent => (match parent with
    | .root => ""
    | p => p.text ++ ".") ++ "?"

/-- Whether a path leads nowhere. -/
def isRoot : Path → Bool
  | .root => true
  | _ => false

end Path

/-- What is wrong with a value; `refused` is what its reader has against it. -/
inductive Complaint (ε : Type)
  /-- It does not fit its place. -/
  | mismatch (m : Mismatch)
  /-- It has a key twice. -/
  | repeatedKey (key : Value)
  /-- Its reader does not take it. -/
  | refused (e : ε)

/-- Why a text cannot be read. -/
inductive Error (ε : Type)
  /-- The text breaks off. -/
  | fault (f : Fault)
  /-- There is nothing where something must be. -/
  | endOfText
  /-- Values are nested too deep. -/
  | tooDeep (place : Place)
  /-- Aliases are followed too often. -/
  | tooManyAliases
  /-- There are several documents. -/
  | severalDocuments
  /-- Something is wrong with a value, whose path and place may be known. -/
  | value (complaint : Complaint ε) (spot : Option (Path × Place))

variable {ε α β : Type}

/-- The wording of a complaint. -/
def Complaint.message (refusal : ε → String) : Complaint ε → String
  | .mismatch m => m.message wording
  | .repeatedKey key => "duplicate entry " ++ key.keyText
  | .refused e => refusal e

/-- The wording of an error, its place last. -/
def Error.message (refusal : ε → String) : Error ε → String
  | .fault (.malformed e) => e.message
  | .fault (.unknownAlias place) => "unknown anchor" ++ place.suffix
  | .endOfText => "EOF while parsing a value"
  | .tooDeep place => "recursion limit exceeded" ++ place.suffix
  | .tooManyAliases => "repetition limit exceeded"
  | .severalDocuments =>
    "deserializing from YAML containing more than one document is not supported"
  | .value c none => c.message refusal
  | .value c (some (path, place)) =>
    (if path.isRoot then "" else path.text ++ ": ") ++ c.message refusal ++ place.suffix

/-- A reading of a document; it counts the aliases that it follows. -/
abbrev Reading (ε : Type) := ReaderT Document (StateT Nat (Except (Error ε)))

/-- A node to be read, the way to it, and how much deeper it may go. -/
structure Site where
  /-- The node. -/
  node : Node
  /-- The way to it. -/
  path : Path := .root
  /-- The levels that it may still be nested. -/
  depth : Nat := 128

namespace Reading

/-- Complains about a value, without a place. -/
def complain (c : Complaint ε) : Reading ε α := throw (.value c none)

/-- Complains that a value does not fit, without a place. -/
def mismatch (m : Mismatch) : Reading ε α := complain (.mismatch m)

/-- Gives a complaint without a place the place and the path at hand. -/
def within (path : Path) (place : Place) (read : Reading ε α) : Reading ε α :=
  tryCatchThe (Error ε) read fun
    | .value c none => throw (.value c (some (path, place)))
    | e => throw e

/-- Follows an alias. -/
def follow (site : Site) : Reading ε Site :=
  match site.node with
  | .alias _ anchor => do
    let d ← read
    let n ← modifyGet fun n => (n + 1, n + 1)
    if n > 100 * d.root.size then throw .tooManyAliases
    match d.node? anchor with
    | some node => return { site with node }
    | none => throw .endOfText
  | _ => return site

/-- Enters a collection. -/
def enter (site : Site) (place : Place) (read : Nat → Reading ε α) : Reading ε α :=
  match site.depth with
  | 0 => throw (.tooDeep place)
  | depth + 1 => read depth

/-- A tag of the document's own, without its exclamation mark. -/
def ownTag? (head : Head) : Option String :=
  match head.tag with
  | none => none
  | some tag =>
    match tag.toList with
    | '!' :: rest => some (if rest.isEmpty then tag else String.ofList rest)
    | _ => none

/-- Complains that a scalar is of the wrong kind. -/
def wrongScalar (head : Head) (s : String) (style : Style) (expected : String) : Reading ε α :=
  match Atom.ofScalar head.tag s style with
  | .ok atom => mismatch (.kind atom.found expected)
  | .error m => mismatch m

/-! ## Scalars -/

/-- Reads a text: any scalar is one, just as it is written. -/
def text (expected : String) (site : Site) : Reading ε String := do
  let site ← follow site
  match site.node with
  | .broken f => throw (.fault f)
  | .scalar _ s _ => return s
  | .sequence head _ => within site.path head.place (mismatch (.kind .sequence expected))
  | .mapping head _ => within site.path head.place (mismatch (.kind .map expected))
  | .alias .. => throw .endOfText
  | .void _ => throw .endOfText

/-- Reads a whole number of at most 64 bits without a sign. -/
def natural (expected : String) (site : Site) : Reading ε Nat := do
  let site ← follow site
  match site.node with
  | .broken f => throw (.fault f)
  | .scalar head s style =>
    within site.path head.place do
      let literal := style == .literal && head.tag == some "tag:yaml.org,2002:int"
      match Atom.number? s with
      | some n =>
        if (style == .plain || literal) && Atom.fits n then
          if n < 0 then mismatch (.value (.integer n) expected) else return n.toNat
        else wrongScalar head s style expected
      | none => wrongScalar head s style expected
  | .sequence head _ => within site.path head.place (mismatch (.kind .sequence expected))
  | .mapping head _ => within site.path head.place (mismatch (.kind .map expected))
  | .alias .. => throw .endOfText
  | .void _ => throw .endOfText

/-- Reads a value that may be absent: an empty plain scalar or a null is no value. -/
def optional (read : Site → Reading ε α) (site : Site) : Reading ε (Option α) := do
  let site ← follow site
  match site.node with
  | .void _ => return none
  | .scalar head s .plain =>
    match head.tag with
    | none => if s.isEmpty || Atom.isNull s then return none else some <$> read site
    | some tag =>
      if tag == "tag:yaml.org,2002:null" then
        if Atom.isNull s then return none
        else mismatch (.value (.text s) "null")
      else some <$> read site
  | _ => some <$> read site

/-- Reads one of some words. A tag of the document's own may be the word as well, and then
    it stands before nothing. -/
def word (known : List (String × α)) (site : Site) : Reading ε α := do
  let site ← follow site
  let choose (w : String) : Reading ε α :=
    match known.find? (·.1 == w) with
    | some (_, a) => return a
    | none => mismatch (.unknownWord w (known.map (·.1)))
  let underTag (head : Head) (content : Option (String × Style)) (found : Found) : Reading ε α :=
    match ownTag? head with
    | none => within site.path head.place (mismatch (.kind found "a YAML tag starting with '!'"))
    | some tag => do
      let a ← choose tag
      within site.path head.place do
        match content with
        | some (s, style) =>
          if style == .plain && (s.isEmpty || Atom.isNull s) then return a
          else mismatch (.value (.text s) "null")
        | none => mismatch (.kind found "unit")
  match site.node with
  | .broken f => throw (.fault f)
  | .scalar head s style =>
    match ownTag? head with
    | none => within site.path head.place (choose s)
    | some _ => underTag head (some (s, style)) .unit
  | .sequence head _ => underTag head none .sequence
  | .mapping head _ => underTag head none .map
  | .alias .. => throw .endOfText
  | .void _ => throw .endOfText

/-! ## Collections -/

/-- Whether nothing is written where a collection belongs. -/
def isAbsent : Node → Bool
  | .void _ => true
  | .scalar _ s style => s.isEmpty && style == .plain
  | _ => false

/-- Complains that a collection was expected. -/
def noCollection (expected : String) (site : Site) : Reading ε α :=
  match site.node with
  | .broken f => throw (.fault f)
  | .scalar head s style => within site.path head.place (wrongScalar head s style expected)
  | .sequence head _ => within site.path head.place (mismatch (.kind .sequence expected))
  | .mapping head _ => within site.path head.place (mismatch (.kind .map expected))
  | .alias .. => throw .endOfText
  | .void _ => throw .endOfText

/-- Reads a list item by item. -/
def list (item : Site → Reading ε α) (site : Site) : Reading ε (List α) := do
  let site ← follow site
  if isAbsent site.node then return []
  match site.node with
  | .sequence head items =>
    within site.path head.place <| enter site head.place fun depth =>
      items.zipIdx.mapM fun (node, i) => item ⟨node, .item site.path i, depth⟩
  | _ => noCollection "a sequence" site

/-- Reads a record field by field: `field` gets the name of each field and its value. -/
def record (expected : String) (field : String → Site → α → Reading ε α) (start : α)
    (site : Site) : Reading ε α := do
  let site ← follow site
  if isAbsent site.node then return start
  match site.node with
  | .mapping head entries =>
    within site.path head.place <| enter site head.place fun depth =>
      entries.foldlM (fun a (key, node) => do
        let name ← text "field identifier" ⟨key, site.path, depth⟩
        let path := match key with
          | .scalar .. => Path.field site.path name
          | _ => .unnamed site.path
        field name ⟨node, path, depth⟩ a) start
  | _ => noCollection expected site

mutual

/-- The fault inside of a value that is read over. -/
def firstFault? : Node → Option Fault
  | .broken f => some f
  | .sequence _ items => firstFaultOfItems? items
  | .mapping _ entries => firstFaultOfEntries? entries
  | _ => none

/-- The fault inside of some items. -/
def firstFaultOfItems? : List Node → Option Fault
  | [] => none
  | n :: rest => firstFault? n <|> firstFaultOfItems? rest

/-- The fault inside of some entries. -/
def firstFaultOfEntries? : List (Node × Node) → Option Fault
  | [] => none
  | (k, v) :: rest => firstFault? k <|> firstFault? v <|> firstFaultOfEntries? rest

end

/-- Reads over a value without understanding it. -/
def ignore (site : Site) : Reading ε Unit :=
  match firstFault? site.node with
  | some f => throw (.fault f)
  | none => return ()

/-! ## Values -/

/-- Adds an entry to a mapping; its key must be a new one. -/
def addEntry (entries : List (Value × Value)) (key : Value) (value : Reading ε Value) :
    Reading ε (List (Value × Value)) := do
  if entries.any fun (k, _) => k.same key then complain (.repeatedKey key)
  return entries ++ [(key, ← value)]

/-- A scalar as a value. -/
def atomValue (head : Head) (s : String) (style : Style) : Reading ε Value :=
  let read (tag : Option String) : Reading ε Value :=
    match Atom.ofScalar tag s style >>= Value.ofAtom? with
    | .ok v => return v
    | .error m => mismatch m
  match ownTag? head with
  | some tag => .tagged tag <$> read none
  | none => read head.tag

/-- Puts a collection under its tag, if it has one. -/
def underTag (head : Head) (v : Value) : Value :=
  match ownTag? head with
  | some tag => .tagged tag v
  | none => v

/-- Reads any value that is nested at most `depth` levels deep. -/
def value (depth : Nat) (path : Path) (node : Node) : Reading ε Value := do
  let site ← follow ⟨node, path, depth⟩
  match site.node with
  | .broken f => throw (.fault f)
  | .void _ => return .null
  | .alias .. => throw .endOfText
  | .scalar head s style => within path head.place (atomValue head s style)
  | .sequence head items =>
    within path head.place do
      match depth with
      | 0 => throw (.tooDeep head.place)
      | depth + 1 =>
        let items ← items.zipIdx.mapM fun (node, i) => value depth (.item path i) node
        return underTag head (.sequence items)
  | .mapping head entries =>
    within path head.place do
      match depth with
      | 0 => throw (.tooDeep head.place)
      | depth + 1 =>
        let entries ← entries.foldlM (fun known (key, node) => do
          let k ← value depth path key
          let path := match key with
            | .scalar _ s _ => Path.field path s
            | _ => .unnamed path
          addEntry known k (value depth path node)) []
        return underTag head (.mapping entries)

/-- Reads the one document of a text. -/
def run (read : Site → Reading ε α) (text : String) : Except (Error ε) α := do
  let d := Document.ofText text
  let (a, _) ← StateT.run (ReaderT.run (read { node := d.root }) d) 0
  match d.fault with
  | some f => throw (.fault f)
  | none => if d.followed then throw .severalDocuments else return a

end Reading

/-- The value that a text writes. -/
def Value.ofText (text : String) : Except (Error Empty) Value :=
  Reading.run (fun site => Reading.value site.depth site.path site.node) text

end Lintscope.Yaml

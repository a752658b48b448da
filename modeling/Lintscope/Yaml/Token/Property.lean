import Lintscope.Text.Utf8
import Lintscope.Yaml.Cursor
import Lintscope.Yaml.Token

/-!
# Anchors, tags and directives

The names of nodes and of their types, and the lines before a document that declare
the version of the language and short forms of tags. A tag or the expansion of a
handle is a piece of a URI: characters that may not stand in one are escaped, octet
by octet.
-/

namespace Lintscope.Yaml

/-! ## Anchors -/

/-- Reads the name of an anchor or an alias behind its indicator. -/
def anchorName (context : Context) (start : Place) (c : Cursor) :
    Except SyntaxError (String × Cursor) := do
  let (name, c) := c.span isNameChar
  let ended := c.gapAt 0 || c.peek.any ("?:,]\x7d%@\x60".toList.contains ·)
  if name.isEmpty || !ended then c.fail context start .noName
  return (String.ofList name, c)

/-! ## Pieces of a URI -/

/-- The number of octets of a character, told by the first one. -/
def octetCount? (octet : Nat) : Option Nat :=
  if octet < 0x80 then some 1
  else if 0xC0 ≤ octet && octet < 0xE0 then some 2
  else if 0xE0 ≤ octet && octet < 0xF0 then some 3
  else if 0xF0 ≤ octet && octet < 0xF8 then some 4
  else none

/-- Reads an escaped octet. -/
def escapedOctet (context : Context) (start : Place) (c : Cursor) :
    Except SyntaxError (Nat × Cursor) :=
  match c.rest with
  | '%' :: a :: b :: _ =>
    match hexValue? a, hexValue? b with
    | some a, some b => return (16 * a + b, c.advance 3)
    | _, _ => c.fail context start .noOctet
  | _ => c.fail context start .noOctet

/-- Reads the escaped octets after the first one of a character. -/
def trailingOctets (context : Context) (start : Place) :
    Nat → Cursor → List UInt8 → Except SyntaxError (List UInt8 × Cursor)
  | 0, c, octets => return (octets, c)
  | n + 1, c, octets => do
    let (octet, next) ← escapedOctet context start c
    if octet / 64 ≠ 2 then c.fail context start .trailingOctet
    trailingOctets context start n next (octets ++ [octet.toUInt8])

/-- Reads an escaped character. -/
def escapedChar (context : Context) (start : Place) (c : Cursor) :
    Except SyntaxError (List Char × Cursor) := do
  let (octet, next) ← escapedOctet context start c
  match octetCount? octet with
  | none => c.fail context start .leadingOctet
  | some n =>
    let (octets, next) ← trailingOctets context start (n - 1) next [octet.toUInt8]
    return (Utf8.decodeLossy octets, next)

/-- Reads a piece of a URI. Inside of angle brackets, and in a declaration, the
    indicators of flow collections belong to it. -/
def uriText (context : Context) (inBrackets : Bool) (start : Place) :
    Nat → Cursor → List Char → Except SyntaxError (List Char × Cursor)
  | 0, c, text => return (text, c)
  | fuel + 1, c, text =>
    match c.peek with
    | none => return (text, c)
    | some x =>
      if x = '%' then do
        let (y, c) ← escapedChar context start c
        uriText context inBrackets start fuel c (text ++ y)
      else if isNameChar x || ";/?:@&=+$.!~*'()".toList.contains x
          || (inBrackets && ",[]".toList.contains x) then
        uriText context inBrackets start fuel c.step (text ++ [x])
      else return (text, c)

/-- Reads a piece of a URI that is not empty. -/
def uri (context : Context) (inBrackets : Bool) (start : Place) (c : Cursor) :
    Except SyntaxError (List Char × Cursor) := do
  let (text, next) ← uriText context inBrackets start c.rest.length c []
  if next.place.index = c.place.index then next.fail context start .noUri
  return (text, next)

/-! ## Tags -/

/-- Reads what may be a tag handle: an exclamation mark, name characters, and perhaps
    another exclamation mark. -/
def tagHandle (context : Context) (start : Place) (c : Cursor) :
    Except SyntaxError (List Char × Cursor) := do
  if !c.sees '!' then c.fail context start .noExclamation
  let (name, c) := c.step.span isNameChar
  if c.sees '!' then return ('!' :: name ++ ['!'], c.step) else return ('!' :: name, c)

/-- Reads a tag: its handle and its suffix. A tag in angle brackets has no handle, one
    that names no handle has the handle `!`, and a lone `!` is a suffix. -/
def tagText (start : Place) (c : Cursor) : Except SyntaxError (String × String × Cursor) := do
  if c.at? 1 = some '<' then
    let (suffix, c) ← uri .tagText true start (c.advance 2)
    if !c.sees '>' then c.fail .tag start .noTagEnd
    return ("", String.ofList suffix, c.step)
  else
    let (handle, c) ← tagHandle .tag start c
    if handle.length > 1 && handle.getLast? = some '!' then
      let (suffix, c) ← uri .tagText false start c
      return (String.ofList handle, String.ofList suffix, c)
    else
      let (suffix, c) ← uriText .tagText false start c.rest.length c handle.tail
      if suffix.isEmpty then return ("", "!", c) else return ("!", String.ofList suffix, c)

/-- Reads a tag and makes sure that it has ended. -/
def tag (inFlow : Bool) (c : Cursor) : Except SyntaxError (TokenKind × Cursor) := do
  let (handle, suffix, next) ← tagText c.place c
  if !next.gapAt 0 && !(inFlow && next.sees ',') then
    next.fail .tag c.place .noBlankOrLineEnd
  return (.tag handle suffix, next)

/-! ## Directives -/

/-- Reads a number of a version, of at most nine digits. -/
def versionNumber (start : Place) (c : Cursor) : Except SyntaxError (Nat × Cursor) := do
  let digits := c.rest.takeWhile Char.isDigit
  if digits.length > 9 then (c.advance 9).fail .versionDirective start .longVersion
  if digits.isEmpty then c.fail .versionDirective start .noVersion
  return (digits.foldl (fun n d => 10 * n + (d.toNat - '0'.toNat)) 0, c.advance digits.length)

/-- Reads the version that a directive declares. -/
def version (start : Place) (c : Cursor) : Except SyntaxError (TokenKind × Cursor) := do
  let (major, c) ← versionNumber start c.skipBlanks
  if !c.sees '.' then c.fail .versionDirective start .noVersionDot
  let (minor, c) ← versionNumber start c.step
  return (.version major minor, c)

/-- Reads the handle that a directive declares and what it expands to. -/
def handle (start : Place) (c : Cursor) : Except SyntaxError (TokenKind × Cursor) := do
  let (name, c) ← tagHandle .tagDirectiveStart start c.skipBlanks
  if name.length > 1 && name.getLast? ≠ some '!' then
    c.fail .tagDirectiveHandle start .noExclamation
  if !(c.peek.any isSpaceOrTab) then c.fail .tagDirective start .noBlank
  let (expansion, c) ← uri .tagDirectivePrefix true start c.skipBlanks
  if !c.gapAt 0 then c.fail .tagDirective start .noBlankOrLineEnd
  return (.handle (String.ofList name) (String.ofList expansion), c)

/-- Reads a directive and the rest of its line. -/
def directive (c : Cursor) : Except SyntaxError (TokenKind × Cursor) := do
  let start := c.place
  let (name, c) := c.step.span isNameChar
  if name.isEmpty then c.fail .directive start .noDirectiveName
  if !c.gapAt 0 then c.fail .directive start .notAlphabetical
  let (kind, c) ←
    if name = "YAML".toList then version start c
    else if name = "TAG".toList then handle start c
    else c.fail .directive start .unknownDirective
  let c := c.skipComment
  if !c.atLineEnd then c.fail .directive start .noLineEnd
  return (kind, c.lineBreak.2)

end Lintscope.Yaml

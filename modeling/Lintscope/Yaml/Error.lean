/-!
# What is wrong with a YAML text

A text that is no YAML has one first fault. It is told by its cause, by the place
where it was noticed, and, where the fault lies inside of something that began
earlier, by what that is and where it began. Places are counted from zero, and shown
counted from one.
-/

namespace Lintscope.Yaml

/-- A place in a text: the characters before it, its line and its column. -/
structure Place where
  /-- The number of characters before it. -/
  index : Nat := 0
  /-- The number of lines before its own. -/
  line : Nat := 0
  /-- The number of characters before it in its line. -/
  column : Nat := 0
  deriving DecidableEq, Repr, Inhabited

namespace Place

/-- The same line and column. -/
def sameSpot (p q : Place) : Bool := p.line == q.line && p.column == q.column

/-- Whether this is the very start of a text, which no message names. -/
def isStart (p : Place) : Bool := p.line == 0 && p.column == 0

/-- The line and column as people count them. -/
def text (p : Place) : String :=
  "line " ++ toString (p.line + 1) ++ " column " ++ toString (p.column + 1)

/-- What follows a message about this place. -/
def suffix (p : Place) : String := if p.isStart then "" else " at " ++ p.text

end Place

/-- What a fault lies inside of. -/
inductive Context
  | simpleKey | nextToken
  | directive | versionDirective
  | tagDirective | tagDirectiveStart | tagDirectiveHandle | tagDirectivePrefix
  | tag | tagText | anchor | alias
  | blockScalar | quotedScalar | quotedEscape | plainScalar
  | node | blockNode | flowNode | blockCollection | blockMapping | flowSequence | flowMapping

/-- The wording of a context. -/
def Context.text : Context → String
  | .simpleKey => "while scanning a simple key"
  | .nextToken => "while scanning for the next token"
  | .directive => "while scanning a directive"
  | .versionDirective => "while scanning a %YAML directive"
  | .tagDirective => "while scanning a %TAG directive"
  | .tagDirectiveStart => "while scanning a tag directive"
  | .tagDirectiveHandle => "while parsing a tag directive"
  | .tagDirectivePrefix => "while parsing a %TAG directive"
  | .tag => "while scanning a tag"
  | .tagText => "while parsing a tag"
  | .anchor => "while scanning an anchor"
  | .alias => "while scanning an alias"
  | .blockScalar => "while scanning a block scalar"
  | .quotedScalar => "while scanning a quoted scalar"
  | .quotedEscape => "while parsing a quoted scalar"
  | .plainScalar => "while scanning a plain scalar"
  | .node => "while parsing a node"
  | .blockNode => "while parsing a block node"
  | .flowNode => "while parsing a flow node"
  | .blockCollection => "while parsing a block collection"
  | .blockMapping => "while parsing a block mapping"
  | .flowSequence => "while parsing a flow sequence"
  | .flowMapping => "while parsing a flow mapping"

/-- The cause of a fault. -/
inductive Problem
  | controlCharacter
  | noColon | noToken
  | entryNotAllowed | keyNotAllowed | valueNotAllowed
  | noDirectiveName | notAlphabetical | unknownDirective | noLineEnd
  | longVersion | noVersion | noVersionDot
  | noBlank | noBlankOrLineEnd | noExclamation | noTagEnd | noUri
  | noOctet | leadingOctet | trailingOctet
  | noName
  | zeroIndentation | tabIndentation | tabInText
  | documentIndicator | endInQuotes | unknownEscape | noHexDigits | badCodePoint
  | colonInFlow
  | undefinedHandle | noContent | noDash | noKey | noCommaOrBracket | noCommaOrBrace
  | noDocumentStart | secondVersion | wrongVersion | secondHandle

/-- The wording of a cause. -/
def Problem.text : Problem → String
  | .controlCharacter => "control characters are not allowed"
  | .noColon => "could not find expected ':'"
  | .noToken => "found character that cannot start any token"
  | .entryNotAllowed => "block sequence entries are not allowed in this context"
  | .keyNotAllowed => "mapping keys are not allowed in this context"
  | .valueNotAllowed => "mapping values are not allowed in this context"
  | .noDirectiveName => "could not find expected directive name"
  | .notAlphabetical => "found unexpected non-alphabetical character"
  | .unknownDirective => "found unknown directive name"
  | .noLineEnd => "did not find expected comment or line break"
  | .longVersion => "found extremely long version number"
  | .noVersion => "did not find expected version number"
  | .noVersionDot => "did not find expected digit or '.' character"
  | .noBlank => "did not find expected whitespace"
  | .noBlankOrLineEnd => "did not find expected whitespace or line break"
  | .noExclamation => "did not find expected '!'"
  | .noTagEnd => "did not find the expected '>'"
  | .noUri => "did not find expected tag URI"
  | .noOctet => "did not find URI escaped octet"
  | .leadingOctet => "found an incorrect leading UTF-8 octet"
  | .trailingOctet => "found an incorrect trailing UTF-8 octet"
  | .noName => "did not find expected alphabetic or numeric character"
  | .zeroIndentation => "found an indentation indicator equal to 0"
  | .tabIndentation => "found a tab character where an indentation space is expected"
  | .tabInText => "found a tab character that violates indentation"
  | .documentIndicator => "found unexpected document indicator"
  | .endInQuotes => "found unexpected end of stream"
  | .unknownEscape => "found unknown escape character"
  | .noHexDigits => "did not find expected hexdecimal number"
  | .badCodePoint => "found invalid Unicode character escape code"
  | .colonInFlow => "found unexpected ':'"
  | .undefinedHandle => "found undefined tag handle"
  | .noContent => "did not find expected node content"
  | .noDash => "did not find expected '-' indicator"
  | .noKey => "did not find expected key"
  | .noCommaOrBracket => "did not find expected ',' or ']'"
  | .noCommaOrBrace => "did not find expected ',' or '\x7d'"
  | .noDocumentStart => "did not find expected <document start>"
  | .secondVersion => "found duplicate %YAML directive"
  | .wrongVersion => "found incompatible YAML document"
  | .secondHandle => "found duplicate %TAG directive"

/-- The first fault of a text. -/
structure SyntaxError where
  /-- Its cause. -/
  problem : Problem
  /-- Where it was noticed. -/
  place : Place
  /-- What it lies inside of, and where that began. -/
  context : Option (Context × Place) := none
  /-- The bytes before the fault, where that is all that is known. -/
  offset : Nat := 0

/-- A fault inside of something that began at `start`. -/
def SyntaxError.inside (context : Context) (start : Place) (problem : Problem) (place : Place) :
    SyntaxError :=
  { problem, place, context := some (context, start) }

/-- The wording of a fault, its context last. -/
def SyntaxError.message (e : SyntaxError) : String :=
  let spot := if !e.place.isStart then e.place.suffix
    else if e.offset ≠ 0 then " at position " ++ toString e.offset else ""
  let context := match e.context with
    | none => ""
    | some (context, start) =>
      ", " ++ context.text ++ (if start.sameSpot e.place then "" else start.suffix)
  e.problem.text ++ spot ++ context

end Lintscope.Yaml

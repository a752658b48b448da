import Lintscope.Yaml.Error

/-!
# The tokens of a YAML text

A token is an indicator, a scalar, a property of a node, or the start or end of a
collection. The starts and ends of block collections are written by indentation
alone, so they are tokens without characters, and so is the `key` before a scalar
that turned out to be a key only when a colon followed it.
-/

namespace Lintscope.Yaml

/-- How a scalar is written. -/
inductive Style
  | plain | singleQuoted | doubleQuoted | literal | folded
  deriving DecidableEq, Repr

/-- What a token is. -/
inductive TokenKind
  | version (major minor : Nat)
  | handle (name : String) (expansion : String)
  | documentStart | documentEnd | streamEnd
  | blockSequenceStart | blockMappingStart | blockEnd
  | flowSequenceStart | flowSequenceEnd | flowMappingStart | flowMappingEnd
  | blockEntry | flowEntry | key | value
  | anchor (name : String) | alias (name : String)
  | tag (handle : String) (suffix : String)
  | scalar (text : String) (style : Style)
  deriving DecidableEq, Repr

/-- A token and where it starts and ends. -/
structure Token where
  /-- What it is. -/
  kind : TokenKind
  /-- Where it starts. -/
  start : Place
  /-- Where it ends. -/
  stop : Place

/-- The tokens of a text in order. Where the text is at fault, they are those that
    can be told before the fault. -/
structure Tokens where
  /-- The tokens. -/
  tokens : List Token
  /-- The fault. -/
  fault : Option SyntaxError := none

end Lintscope.Yaml

import Lintscope.Regex.CharSet

/-!
# Patterns

A pattern is built from sets of characters and from assertions about a place in a
text, by putting one after the other, by choice, by repetition, and by groups, whose
stretches of the text are kept. Of several ways to match, the first choice counts:
the earlier branch of a choice, and one more round of a greedy repetition.
-/

namespace Lintscope.Regex

/-- An assertion about a place in a text. -/
inductive Look where
  | textStart | textEnd
  | lineStart | lineEnd
  /-- The starts and ends of lines that end with a carriage return, a line feed, or the two
      together. -/
  | lineStartAny | lineEndAny
  | wordBoundary (ascii : Bool) | noWordBoundary (ascii : Bool)
  | wordStart (ascii : Bool) | wordEnd (ascii : Bool)
  | wordStartHalf (ascii : Bool) | wordEndHalf (ascii : Bool)
  deriving DecidableEq

/-- Whether a character is missing or a given one. -/
def isNoneOr (c : Char) (x : Option Char) : Bool := x.all (· == c)

/-- Whether a neighbour of a place is a word character. -/
def isWordAt (ascii : Bool) (x : Option Char) : Bool :=
  x.any fun c => if ascii then c.isAlphanum || c == '_' else Unicode.isWord c

/-- Whether an assertion holds between two neighbours, either of which may be missing. -/
def Look.holds (before after : Option Char) : Look → Bool
  | textStart => before.isNone
  | textEnd => after.isNone
  | lineStart => isNoneOr '\n' before
  | lineEnd => isNoneOr '\n' after
  | lineStartAny => isNoneOr '\n' before || (before == some '\r' && after != some '\n')
  | lineEndAny => isNoneOr '\r' after || (after == some '\n' && before != some '\r')
  | wordBoundary ascii => isWordAt ascii before != isWordAt ascii after
  | noWordBoundary ascii => isWordAt ascii before == isWordAt ascii after
  | wordStart ascii => !isWordAt ascii before && isWordAt ascii after
  | wordEnd ascii => isWordAt ascii before && !isWordAt ascii after
  | wordStartHalf ascii => !isWordAt ascii before
  | wordEndHalf ascii => !isWordAt ascii after

/-- A pattern. -/
inductive Pattern where
  /-- Nothing. -/
  | empty
  /-- A character of a set. -/
  | one (set : CharSet)
  /-- An assertion. -/
  | look (l : Look)
  /-- One part after the other. -/
  | sequence (parts : List Pattern)
  /-- One of some branches. -/
  | choice (branches : List Pattern)
  /-- At least `least` rounds, and at most `most` if there is a limit. -/
  | rounds (least : Nat) (most : Option Nat) (greedy : Bool) (p : Pattern)
  /-- A group, whose stretch is kept. -/
  | group (index : Nat) (name : Option String) (p : Pattern)

namespace Pattern

mutual

/-- Whether a pattern may match without a character. -/
def mayBeEmpty : Pattern → Bool
  | empty => true
  | one _ => false
  | look _ => true
  | sequence parts => allMayBeEmpty parts
  | choice branches => anyMayBeEmpty branches
  | rounds least _ _ p => least == 0 || p.mayBeEmpty
  | group _ _ p => p.mayBeEmpty

/-- Whether each of some patterns may match without a character. -/
def allMayBeEmpty : List Pattern → Bool
  | [] => true
  | p :: rest => p.mayBeEmpty && allMayBeEmpty rest

/-- Whether one of some patterns may match without a character. -/
def anyMayBeEmpty : List Pattern → Bool
  | [] => false
  | p :: rest => p.mayBeEmpty || anyMayBeEmpty rest

/-- Whether a pattern never matches a character. -/
def isAlwaysEmpty : Pattern → Bool
  | empty => true
  | one _ => false
  | look _ => true
  | sequence parts => allAlwaysEmpty parts
  | choice branches => allAlwaysEmpty branches
  | rounds _ most _ p => most == some 0 || p.isAlwaysEmpty
  | group _ _ p => p.isAlwaysEmpty

/-- Whether some patterns never match a character. -/
def allAlwaysEmpty : List Pattern → Bool
  | [] => true
  | p :: rest => p.isAlwaysEmpty && allAlwaysEmpty rest

/-- The named groups of a pattern with their numbers. -/
def names : Pattern → List (String × Nat)
  | sequence parts => allNames parts
  | choice branches => allNames branches
  | rounds _ _ _ p => p.names
  | group index (some name) p => (name, index) :: p.names
  | group _ none p => p.names
  | _ => []

/-- The named groups of some patterns. -/
def allNames : List Pattern → List (String × Nat)
  | [] => []
  | p :: rest => p.names ++ allNames rest

end

/-- A repetition. No round at all is nothing, one round is the pattern itself, and more
    than one round of a pattern that never matches a character is one round. -/
def repeated (least : Nat) (most : Option Nat) (greedy : Bool) (p : Pattern) : Pattern :=
  let (least, most) :=
    if p.isAlwaysEmpty then (min least 1, some (min (most.getD 1) 1)) else (least, most)
  if least == 0 && most == some 0 then empty
  else if least == 1 && most == some 1 then p
  else rounds least most greedy p

end Pattern

end Lintscope.Regex

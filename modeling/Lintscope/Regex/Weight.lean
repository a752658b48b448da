import Lintscope.Regex.Error
import Lintscope.Regex.Pattern

/-!
# The memory that patterns take

A short pattern may ask for a long program, as repetitions are written out. So a
pattern has a *weight*: about how many octets an automaton takes that reads a
text octet by octet, where a set of characters takes the more the wider it is
spread over the code points. A pattern that is too heavy is refused.
-/

namespace Lintscope.Regex

/-- The octets that a step takes. -/
def stepWeight : Nat := 32

/-- The octets that the octets of any character take. -/
def charWeight : Nat := 392

namespace CharSet

mutual

/-- The octets that a set takes besides those of a step. -/
def weight : CharSet → Nat
  | range _ high => if high ≤ '\x7f' then 8 else charWeight
  | digit => 5000
  | blank => 600
  | word => 50000
  | category _ | table _ => 20000
  | union sets => unionWeight sets
  | both a b => min a.weight b.weight
  | without a _ => a.weight
  | either a b => a.weight + b.weight
  | complement a => a.weight + charWeight
  | anyCase a => 2 * a.weight

/-- The octets that the sets of a union take. -/
def unionWeight : List CharSet → Nat
  | [] => 0
  | s :: sets => s.weight + unionWeight sets

end

end CharSet

namespace Pattern

mutual

/-- The octets that a pattern takes. -/
def weight : Pattern → Nat
  | empty => 0
  | one set => stepWeight + set.weight
  | look _ => stepWeight
  | sequence parts => partsWeight parts
  | choice branches => 2 * stepWeight + partsWeight branches
  | rounds least most _ p =>
    match most with
    | some most => most * p.weight + (most - least) * (2 * stepWeight)
    | none => max 1 least * p.weight + 2 * stepWeight
  | group _ _ p => 2 * stepWeight + p.weight

/-- The octets that some patterns take. -/
def partsWeight : List Pattern → Nat
  | [] => 0
  | p :: rest => p.weight + partsWeight rest

end

/-- The octets that a pattern may take. -/
def weightLimit : Nat := 10485760

/-- A pattern, unless it is too heavy. -/
def bearable (p : Pattern) : Except Error Pattern :=
  if p.weight ≤ weightLimit then .ok p else .error ⟨.tooLarge, ⟨0, 0⟩⟩

end Pattern

end Lintscope.Regex

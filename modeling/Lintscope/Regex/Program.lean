import Lintscope.Regex.Pattern

/-!
# Programs of patterns

A pattern is run as a program, a list of steps: a step consumes a character, asserts
something about the place, keeps the place in a slot, goes on elsewhere, or goes on at
two places, the first of which is preferred. The code of a pattern that begins at an
address ends right before the address where its continuation begins.
-/

namespace Lintscope.Regex

/-- A step of a program. -/
inductive Step where
  /-- Consumes a character of a set. -/
  | one (set : CharSet)
  /-- Asserts something about the place. -/
  | look (l : Look)
  /-- Keeps the place in a slot. -/
  | keep (slot : Nat)
  /-- Goes on elsewhere. -/
  | jump (target : Nat)
  /-- Goes on at both targets, the first preferred. -/
  | fork (first second : Nat)
  /-- Ends a match. -/
  | accept

namespace Step

/-- Goes on at the start of a round or behind the repetition. -/
def again (greedy : Bool) (inside outside : Nat) : Step :=
  if greedy then fork inside outside else fork outside inside

end Step

/-- Puts copies of code one after the other, each made for its address. -/
def copies (code : Nat → List Step) : Nat → Nat → List Step
  | 0, _ => []
  | n + 1, start =>
    let first := code start
    first ++ copies code n (start + first.length)

/-- Rounds that may each be the last: before each round the rest may be skipped. -/
def optionalRounds (code : Nat → List Step) (greedy : Bool) (size : Nat) (stop : Nat) :
    Nat → Nat → List Step
  | 0, _ => []
  | n + 1, start =>
    Step.again greedy (start + 1) stop :: code (start + 1)
      ++ optionalRounds code greedy size stop n (start + 1 + size)

/-- Any number of rounds, at least one. -/
def someRounds (code : Nat → List Step) (greedy : Bool) (start : Nat) : List Step :=
  let body := code start
  body ++ [Step.again greedy start (start + body.length + 1)]

/-- Any number of rounds. Where a round may match nothing, the choice to skip them all is
    made once, before the first one. -/
def anyRounds (code : Nat → List Step) (mayBeEmpty greedy : Bool) (start : Nat) : List Step :=
  let body := code (start + 1)
  let stop := start + body.length + 2
  if mayBeEmpty then Step.again greedy (start + 1) stop :: someRounds code greedy (start + 1)
  else Step.again greedy (start + 1) stop :: body ++ [Step.jump start]

/-- The code of a repetition. -/
def roundsCode (code : Nat → List Step) (mayBeEmpty : Bool) (least : Nat) (most : Option Nat)
    (greedy : Bool) (start : Nat) : List Step :=
  match most with
  | some most =>
    let front := copies code least start
    let start := start + front.length
    let size := (code 0).length
    let stop := start + (most - least) * (size + 1)
    front ++ optionalRounds code greedy size stop (most - least) start
  | none =>
    if least = 0 then anyRounds code mayBeEmpty greedy start
    else
      let front := copies code (least - 1) start
      front ++ someRounds code greedy (start + front.length)

namespace Pattern

mutual

/-- The code of a pattern from an address on. -/
def code : Pattern → Nat → List Step
  | empty, _ => []
  | one set, _ => [.one set]
  | look l, _ => [.look l]
  | sequence parts, start => sequenceCode parts start
  | choice branches, start => choiceCode branches start
  | rounds least most greedy p, start =>
    roundsCode p.code p.mayBeEmpty least most greedy start
  | group index _ p, start => .keep (2 * index) :: p.code (start + 1) ++ [.keep (2 * index + 1)]

/-- One pattern after the other. -/
def sequenceCode : List Pattern → Nat → List Step
  | [], _ => []
  | p :: rest, start =>
    let first := p.code start
    first ++ sequenceCode rest (start + first.length)

/-- One pattern or the other, the earlier one preferred. -/
def choiceCode : List Pattern → Nat → List Step
  | [], _ => []
  | [p], start => p.code start
  | p :: q :: rest, start =>
    let first := p.code (start + 1)
    let next := start + first.length + 2
    let others := choiceCode (q :: rest) next
    .fork (start + 1) next :: first ++ [Step.jump (next + others.length)] ++ others

end

/-- The program of a pattern; its first two slots hold the whole match. -/
def program (p : Pattern) : Array Step :=
  ((group 0 none p).code 0 ++ [Step.accept]).toArray

end Pattern

end Lintscope.Regex

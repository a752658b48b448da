import Lintscope.Regex.Program

/-!
# Searching a text

All ways to match are followed at once, character by character. A *thread* is a step
that a way has come to, with the places it has kept; the threads at a place are ordered
from the preferred way on, and of two threads at the same step only the first goes on.
As soon as a thread accepts, the less preferred ones are given up. Until then a new
match may start at every place, as the least preferred way.
-/

namespace Lintscope.Regex

/-- The places that a way has kept, by slot. -/
abbrev Slots := List (Nat × Nat)

/-- A step that a way has come to, and what it has kept. -/
structure Thread where
  /-- The step. -/
  step : Nat
  /-- The places. -/
  slots : Slots

/-- The threads at a place, and the steps that were come to. -/
structure Threads where
  /-- Whether a step was come to. -/
  seen : Array Bool
  /-- The threads, the preferred one first. -/
  found : Array Thread := #[]

/-- A place in a text and its neighbours. -/
structure Spot where
  /-- The number of characters before it. -/
  place : Nat
  /-- The character before it. -/
  before : Option Char
  /-- The character behind it. -/
  after : Option Char

/-- Follows a way as far as it goes without a character. The number bounds the steps that
    were not come to yet. -/
def Threads.add (program : Array Step) (spot : Spot) : Nat → Nat → Slots → Threads → Threads
  | 0, _, _, threads => threads
  | fuel + 1, step, slots, threads =>
    if threads.seen.getD step true then threads
    else
      let threads := { threads with seen := threads.seen.setIfInBounds step true }
      match program[step]? with
      | none => threads
      | some (.jump target) => add program spot fuel target slots threads
      | some (.fork first second) =>
        add program spot fuel second slots (add program spot fuel first slots threads)
      | some (.keep slot) =>
        add program spot fuel (step + 1) ((slot, spot.place) :: slots) threads
      | some (.look l) =>
        if l.holds spot.before spot.after then add program spot fuel (step + 1) slots threads
        else threads
      | some _ => { threads with found := threads.found.push ⟨step, slots⟩ }

/-- No threads. -/
def Threads.none (program : Array Step) : Threads :=
  { seen := .replicate program.size false }

/-- Moves threads over a character, up to the first one that accepts: the threads at the
    next place, and what the accepting one has kept. -/
def advance (program : Array Step) (c : Option Char) (next : Spot) :
    List Thread → Threads → Threads × Option Slots
  | [], moved => (moved, .none)
  | t :: rest, moved =>
    match program[t.step]? with
    | some .accept => (moved, some t.slots)
    | some (.one set) =>
      if c.any set.has then
        advance program c next rest
          (moved.add program next (program.size + 1) (t.step + 1) t.slots)
      else advance program c next rest moved
    | _ => advance program c next rest moved

/-- Searches from a place on. `moved` are the threads there, and `best` is what the best
    match so far has kept. -/
def searchFrom (program : Array Step) (place : Nat) (before : Option Char) (moved : Threads)
    (best : Option Slots) (text : List Char) : Option Slots :=
  let spot : Spot := ⟨place, before, text.head?⟩
  let threads := if best.isSome then moved else moved.add program spot (program.size + 1) 0 []
  match text with
  | [] => ((advance program .none spot threads.found.toList (.none program)).2) <|> best
  | c :: rest =>
    let next : Spot := ⟨place + 1, some c, rest.head?⟩
    let (moved, accepted) := advance program (some c) next threads.found.toList (.none program)
    let best := accepted <|> best
    if best.isSome && moved.found.isEmpty then best
    else searchFrom program (place + 1) (some c) moved best rest

/-- What the preferred match in a text has kept. -/
def search (program : Array Step) (text : List Char) : Option Slots :=
  searchFrom program 0 .none (.none program) .none text

end Lintscope.Regex

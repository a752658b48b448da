import Lintscope.World.Error

/-!
# Programs

A program is known by what it does when it is called: it ends, having written
on its two outputs, or it goes on for ever. A *launch* is an attempt to call
one; the launches of a run are all that the world gets to see of it.
-/

namespace Lintscope.World

/-- How a program ends. -/
inductive Status where
  /-- With a code. -/
  | code (n : Int)
  /-- By a signal. -/
  | signal
  deriving DecidableEq, Repr

/-- What a program does when it is called. -/
inductive Behaviour where
  /-- It never ends. -/
  | hangs
  /-- It ends, having written on its outputs. -/
  | ends (status : Status) (stdout stderr : List UInt8)
  deriving DecidableEq, Repr

/-- A program: what it does, given its arguments and its input. -/
abbrev Program := List String → String → Behaviour

/-- A call of a program. -/
structure Call where
  /-- The program. -/
  program : String
  /-- The arguments. -/
  args : List String
  /-- What it gets to read. -/
  input : String := ""
  deriving DecidableEq, Repr

/-- An attempt to call a program. -/
structure Launch where
  /-- The call. -/
  call : Call
  /-- What comes of it. -/
  result : Except Error Behaviour

end Lintscope.World

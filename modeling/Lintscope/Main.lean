import Lintscope.CommandLine

/-!
# The program

Carries out the command on the command line, in a world without files and
programs.
-/

open Lintscope

/-- A world without files and programs. -/
def emptyWorld : World := { tree := ⟨[]⟩, program? := fun _ => none }

/-- Carries out the command on the command line. -/
def main (args : List String) : IO UInt32 := do
  let (ending, _) := CommandLine.run emptyWorld "/" args
  IO.print ending.stdout
  IO.eprint ending.stderr
  return ending.code.toUInt32

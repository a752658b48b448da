import Lintscope.Shell.Words
import Lintscope.Text.Blank

/-!
# Commands

A command names a program and the arguments that it always gets.
-/

namespace Lintscope.Shell

/-- A program with arguments. -/
structure Command where
  /-- The program. -/
  program : String
  /-- The arguments. -/
  args : List String
  deriving DecidableEq, Repr

/-- Why a text is no command. -/
inductive CommandError where
  /-- A quote is never closed. -/
  | openQuote (command : String)
  /-- There is no word. -/
  | empty
  deriving DecidableEq, Repr

/-- What is wrong with a command. -/
def CommandError.message : CommandError → String
  | openQuote command =>
    "failed to parse command '" ++ command ++
      "': missing closing quote (check for unmatched quotes)"
  | empty => "command is empty"

/-- The command that a text describes. -/
def Command.parse (command : String) : Except CommandError Command :=
  match words? (Text.trim command.toList) with
  | none => .error (.openQuote command)
  | some [] => .error .empty
  | some (program :: args) => .ok ⟨program, args⟩

end Lintscope.Shell

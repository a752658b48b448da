import Lintscope.Diff.File
import Lintscope.Json.Error
import Lintscope.Number.Shortest
import Lintscope.Shell.Command
import Lintscope.World.Program

/-!
# Failures

A linter fails when it has nothing to say about the files it was given: its
tool does not start, does not end or ends badly, or what the tool says cannot
be read. One linter's failure does not keep the others from their work.
-/

namespace Lintscope

/-- An output that cannot be read. -/
inductive Unreadable where
  /-- The first line that is no message, where there must be one. -/
  | line (text : String)
  /-- A diff, and what is wrong with it. -/
  | diff (e : Diff.Error)
  /-- A report, and what is wrong with it. -/
  | report (text : String) (e : Json.Error)

/-- What is shown of an output that cannot be read. -/
def Unreadable.message : Unreadable → String
  | line text => text
  | diff e => "Diff unavailable: " ++ e.message
  | report _ e => e.message

/-- Why a linter has nothing to say. -/
inductive Failure where
  /-- Its tool does not start. -/
  | notStarted (program : String) (e : World.Error)
  /-- Its tool takes more time than it may, in thousandths of a second. -/
  | timedOut (limit : Nat)
  /-- Its tool ends with a code that no tool that did its work ends with, or by
      a signal. -/
  | crashed (code : Option Int) (output : String)
  /-- What its tool says cannot be read. -/
  | unreadable (output : Unreadable)
  /-- The command of its tool is none. -/
  | badCommand (e : Shell.CommandError)
  /-- The header that it is to look for cannot be read. -/
  | noHeader (path : String) (e : World.Error)
  /-- The run is to stop. -/
  | cancelled
  /-- A position does not fit 32 bits. -/
  | hugePosition
  /-- Its tool takes for ever, and it may. -/
  | endless

namespace Failure

/-- A time in thousandths of a second as a text: the seconds and the rest,
    each rounded to a double, and so their sum. -/
def secondsText (millis : Nat) : String :=
  let rest := (Double.ofNat (millis % 1000 * 1000000)).divideBy (Double.ofNat 1000000000)
  ((Double.ofNat (millis / 1000)).extendBy rest).text false

/-- How a failure is told. -/
def message : Failure → String
  | notStarted program e => "failed to start '" ++ program ++ "': " ++ e.message
  | timedOut limit => "timed out after " ++ secondsText limit ++ "s"
  | crashed code output =>
    "exited with " ++ (match code with
      | some n => "unexpected status " ++ toString n
      | none => "a signal") ++ (if output = "" then "" else ":\n" ++ output)
  | unreadable output => "could not parse output: " ++ output.message
  | badCommand e => e.message
  | noHeader path e => "cannot read header file '" ++ path ++ "': " ++ e.message
  | cancelled => "cancelled"
  | hugePosition => "a position is too large"
  | endless => "runs without end"

end Failure

end Lintscope

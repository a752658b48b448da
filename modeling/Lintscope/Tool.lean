import Lintscope.Text.Tail
import Lintscope.Tool.Failure
import Lintscope.World

/-!
# Tools

A tool is a program that looks at files and says what it finds. It is called
in the root of the repository, perhaps with an input, and may take some time;
which codes it may end with depends on the tool.
-/

namespace Lintscope

/-- What a tool says. -/
structure ToolOutput where
  /-- The first output. -/
  stdout : String
  /-- The other output. -/
  stderr : String
  /-- The code that it ends with. -/
  code : Int
  deriving DecidableEq, Repr

namespace ToolOutput

/-- The text of an output. -/
def textOf (octets : List UInt8) : String := .ofList (Utf8.decodeLossy octets)

/-- The part of an output that tells why a tool ended badly. -/
def excerpt (output : String) : String := .ofList (Text.tail 20 2048 output.toList)

/-- What the end of a program means, given the codes that a tool may end with. -/
def ofEnd (accepts : Int → Bool) (status : World.Status) (stdout stderr : String) :
    Except Failure ToolOutput :=
  match status with
  | .signal => .error (.crashed none (excerpt stderr))
  | .code n =>
    if accepts n then .ok ⟨stdout, stderr, n⟩
    else .error (.crashed (some n)
      (excerpt (if Text.allBlank stderr.toList then stdout else stderr)))

end ToolOutput

/-- Where and how long a linter may work. -/
structure Context where
  /-- The root of the repository. -/
  root : String
  /-- The number of linters that work at a time. -/
  jobs : Nat := 1
  /-- The time that the linter may take, in thousandths of a second. -/
  limit : Option Nat := none

/-- What comes of launching a tool. When all work is to stop, no tool is waited
    for. -/
def World.Launch.output (l : World.Launch) (cancelled : Bool) (limit : Option Nat)
    (accepts : Int → Bool) : Except Failure ToolOutput :=
  match l.result with
  | .error e => .error (.notStarted l.call.program e)
  | .ok behaviour =>
    if cancelled then .error .cancelled
    else
      match behaviour with
      | .ends status stdout stderr =>
        ToolOutput.ofEnd accepts status (ToolOutput.textOf stdout) (ToolOutput.textOf stderr)
      | .hangs => .error (limit.elim .endless .timedOut)

/-- A piece of work that calls programs, and may fail; it keeps its launches in
    their order. -/
abbrev Calling (ε α : Type) := ExceptT ε (StateM (List World.Launch)) α

/-- Launches a program. -/
def Calling.launch {ε : Type} (w : World) (directory : String) (call : World.Call) :
    Calling ε World.Launch := do
  let l := w.launch directory call
  modify (· ++ [l])
  return l

/-- Runs a tool. -/
def World.runTool (w : World) (c : Context) (call : World.Call) (accepts : Int → Bool) :
    Calling Failure ToolOutput := do
  MonadExcept.ofExcept ((← Calling.launch w c.root call).output w.cancelled c.limit accepts)

end Lintscope

import Lintscope.Diff.Index
import Lintscope.Text.Lines
import Lintscope.Tool

/-!
# Git

What a run wants to know from version control: the root of the repository, the
files that belong to it, and the diff between two revisions. Each is one call
of the program, or two; the calls are kept in the order in which they are
made.
-/

namespace Lintscope

namespace Git

/-- Why the program does not answer. -/
inductive Error where
  /-- It does not start. -/
  | notStarted (command : String) (e : World.Error)
  /-- It ends badly. -/
  | failed (command : String) (code : Int) (output : String)
  /-- There is no repository. -/
  | noRepository
  /-- It takes for ever. -/
  | endless
  deriving DecidableEq, Repr

/-- How it is told that the program does not answer. -/
def Error.message : Error → String
  | notStarted command e => "failed to execute git " ++ command ++ ": " ++ e.message
  | failed command code output =>
    "git " ++ command ++ " failed (exit code " ++ toString code ++ "): " ++ output
  | noRepository => "not inside a git repository. Run difflint from within a git repository."
  | endless => "runs without end"

/-- What the program answers. -/
structure Answer where
  /-- Its first output, without the line ends at its end. -/
  stdout : String
  /-- Its other output, trimmed. -/
  stderr : String
  deriving DecidableEq, Repr

/-- Whether a character ends a line, or a part of that. -/
def endsLine (c : Char) : Bool := c = '\r' || c = '\n'

/-- The lines of an answer. -/
def Answer.lines (a : Answer) : List String := (Text.lines a.stdout.toList).map String.ofList

/-- The answer that two outputs give. -/
def Answer.ofOutputs (stdout stderr : List UInt8) : Answer :=
  { stdout := .ofList (Text.dropEndWhile endsLine (Utf8.decodeLossy stdout))
    stderr := .ofList (Text.trim (Utf8.decodeLossy stderr)) }

/-- The arguments that come before a command: no name is to be quoted for the
    sake of characters beyond ASCII. -/
def options : List String := ["-c", "core.quotePath=false"]

/-- What the end of the program means. -/
def answerOf (command : String) (status : World.Status) (a : Answer) : Except Error Answer :=
  let output := if a.stderr = "" then a.stdout else a.stderr
  match status with
  | .code 0 => .ok a
  | .code n => .error (.failed command n output)
  | .signal => .error (.failed command (-1) output)

variable (w : World) (directory : String)

/-- Calls the program in a directory. -/
def run (args : List String) : Calling Error Answer := do
  let launch ← Calling.launch w directory { program := "git", args := options ++ args }
  let command := args.headD ""
  match launch.result with
  | .error e => throw (.notStarted command e)
  | .ok .hangs => throw .endless
  | .ok (.ends status stdout stderr) =>
    MonadExcept.ofExcept (answerOf command status (Answer.ofOutputs stdout stderr))

/-- The error for which it is told that there is no repository. -/
def Error.aboutRepository (e : Error) : Error :=
  if Text.contains "not a git repository".toList e.message.toList then .noRepository else e

/-- The root of the repository that a directory is in. -/
def root : Calling Error String := do
  let a ← ExceptT.adapt Error.aboutRepository (run w directory ["rev-parse", "--show-toplevel"])
  return a.stdout

/-- The first of each kind of item. -/
def distinct (names : List String) : List String :=
  names.foldl (fun known name => if name ∈ known then known else known ++ [name]) []

/-- The files among some names, each once. -/
def filesOf (names : List String) : List String :=
  distinct ((names.map Path.canonical).filter fun path => w.isFile (Path.join directory path))

/-- The files that belong to a repository: those that are tracked, and then
    those that are not ignored. -/
def files : Calling Error (List String) := do
  let tracked ← run w directory ["ls-files", "--cached", "--exclude-standard"]
  let others ← run w directory ["ls-files", "--others", "--exclude-standard"]
  return filesOf w directory (tracked.lines ++ others.lines)

/-- Why there is no diff. -/
inductive DiffError where
  /-- The program does not give it. -/
  | git (e : Error)
  /-- It cannot be read. -/
  | malformed (e : Diff.Error)
  deriving DecidableEq, Repr

/-- How it is told that there is no diff. -/
def DiffError.message : DiffError → String
  | git e => e.message
  | malformed e => e.message

/-- The arguments that ask for a diff without context between two revisions, or
    between one and the files. -/
def diffArgs (old : String) (new : Option String) : List String :=
  ["diff", "-U0", "--no-color", "--no-ext-diff", "-M", "--src-prefix=a/", "--dst-prefix=b/", old] ++
    new.toList ++ ["--"]

/-- The diff from a revision to another one, or to the files. -/
def diff (old : String) (new : Option String) : Calling DiffError String := do
  let a ← ExceptT.adapt DiffError.git (run w directory (diffArgs old new))
  return a.stdout

/-- The index of the diff from a revision to another one, or to the files. -/
def index (old : String) (new : Option String) : Calling DiffError Diff.Index := do
  MonadExcept.ofExcept ((Diff.Index.ofDiff (← diff w directory old new)).mapError .malformed)

end Git

end Lintscope

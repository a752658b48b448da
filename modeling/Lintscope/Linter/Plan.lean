import Lintscope.Check.Header
import Lintscope.Check.Imports
import Lintscope.Check.Whitespace
import Lintscope.Output.Coded
import Lintscope.Output.Marked
import Lintscope.Output.Matched
import Lintscope.Output.Paired
import Lintscope.Output.Record
import Lintscope.Output.Reformat
import Lintscope.Output.Template
import Lintscope.Settings.Task

/-!
# Plans

What a linter does about its files is settled before any of it is done: it
calls a tool and reads what that says, or it does a check of its own, or it
cannot do anything because its command is none.
-/

namespace Lintscope

/-- What a linter does about its files. -/
inductive Plan where
  /-- It calls a tool and reads what that says. -/
  | tool (call : World.Call) (accepts : Int → Bool)
      (read : ToolOutput → Except Failure (List Message))
  /-- It does a check of its own. -/
  | check (run : World → Except Failure (List Message))
  /-- It can do nothing. -/
  | refused (reason : Failure)

namespace Plan

/-- Whether a code is from zero up to a greatest one. -/
def upTo (greatest : Int) (code : Int) : Bool := 0 ≤ code && code ≤ greatest

/-- The end of the options, and the files: no file can be taken for an option. -/
def guarded (files : List String) : List String := "--" :: files

/-- An option with its value, if there is one. -/
def option (name : String) (value : Option String) : List String :=
  (value.map (name ++ ·)).toList

/-- Reads the first output of a tool whose code tells that it found something. -/
def fromStdout (read : List Char → Output) (o : ToolOutput) : Except Failure (List Message) :=
  (read o.stdout.toList).require (o.code ≠ 0)

/-- Reads the other output of a tool whose code tells that it found something. -/
def fromStderr (read : List Char → Output) (o : ToolOutput) : Except Failure (List Message) :=
  (read o.stderr.toList).require (o.code ≠ 0)

/-- The plan that a command and further arguments make. -/
def ofCommand (command : String) (args : List String)
    (make : World.Call → Plan) : Plan :=
  match Shell.Command.parse command with
  | .ok c => make { program := c.program, args := c.args ++ args }
  | .error e => .refused (.badCommand e)

/-! ## Tools -/

/-- A tool for Python that writes a code before each text. -/
def coded (program : String) (args files : List String) : Plan :=
  .tool { program, args := args ++ guarded files } (upTo 1)
    (fromStdout (Output.ofLocations Output.withLeadingCode))

/-- The plan for `pydocstyle`. -/
def pydocstyle (config : Option String) (files : List String) : Plan :=
  .tool { program := "pydocstyle", args := option "--config=" config ++ guarded files } (upTo 1)
    (fromStdout Output.ofPairedLines)

/-- The plan for `pylint`, whose code is a sum of flags, of which the largest
    stands for a wrong call. -/
def pylint (rcfile : Option String) (jobs : Nat) (files : List String) : Plan :=
  .tool
    { program := "pylint"
      args := ["--output-format=json", "--jobs=" ++ toString jobs] ++ option "--rcfile=" rcfile ++
        guarded files }
    (upTo 31) fun o => Output.pylintMessages o.stdout

/-- The plan for `black`. -/
def black (o : BlackOptions) (files : List String) : Plan :=
  .tool
    { program := "black"
      args := ["--diff", "--quiet", "--target-version", o.targetVersion] ++
        option "--config=" o.config ++ guarded files }
    (upTo 0) fun out => Output.reformats "black" "" out.stdout

/-- The plan for `autopep8`. -/
def autopep8 (o : Autopep8Options) (files : List String) : Plan :=
  let config := match o.config with
    | some file => ["--global-config=" ++ file, "--ignore-local-config"]
    | none => []
  let range := match o.lineRange with
    | some (low, high) => ["--line-range", toString low, toString high]
    | none => []
  .tool { program := "autopep8", args := ["--diff"] ++ config ++ range ++ guarded files } (upTo 0)
    fun out => Output.reformats "autopep8" "fixed/" out.stdout

/-- The plan for `yamllint`. -/
def yamllint (config : Option String) (files : List String) : Plan :=
  let config := match config with
    | some file => ["-c", file]
    | none => []
  .tool { program := "yamllint", args := ["-f", "parsable"] ++ config ++ guarded files } (upTo 1)
    (fromStdout (Output.ofLocations Output.withLevel))

/-- The plan for `cppcheck`. -/
def cppcheck (o : CppcheckOptions) (jobs : Nat) (files : List String) : Plan :=
  .tool
    { program := "cppcheck"
      args := ["-q", "--enable=all", "-j" ++ toString jobs, "--language=" ++ o.language,
        "--std=" ++ o.standard, "--template=" ++ Output.template] ++
        o.suppress.map ("--suppress=" ++ ·) ++ o.includeDirs.map ("-I" ++ ·) ++ files }
    (upTo 0) fun out => .ok (Output.templatedMessages out.stderr.toList)

/-- Reads the outputs of `cpplint`; a fatal fault is told on the first one. -/
def readCpplint (o : ToolOutput) : Except Failure (List Message) :=
  if Text.contains "FATAL".toList o.stdout.toList then
    .error (.crashed (some o.code) (.ofList (Text.trim o.stdout.toList)))
  else fromStderr (Output.ofLocations Output.withCategory) o

/-- The plan for `cpplint`. -/
def cpplint (o : CpplintOptions) (files : List String) : Plan :=
  let categories :=
    if o.categories = [] then [] else ["--filter=" ++ ",".intercalate o.categories]
  ofCommand o.script (["--linelength=" ++ toString o.lineLength] ++ categories ++ guarded files)
    fun call => .tool call (upTo 1) readCpplint

/-- A file name as a quoted word. -/
def quotedName (file : String) : String :=
  .ofList ('"' :: file.toList.flatMap (fun c => if c = '"' then ['\\', '"'] else [c]) ++ ['"'])

/-- The settings that `doxygen` reads besides its files. -/
def otherSettings : String :=
  "DOXYFILE_ENCODING      = UTF-8\n" ++
    "PROJECT_NAME           = difflint\n" ++
    "GENERATE_HTML          = NO\n" ++
    "GENERATE_LATEX         = NO\n" ++
    "WARNINGS               = YES\n" ++
    "WARN_IF_UNDOCUMENTED   = YES\n" ++
    "WARN_IF_DOC_ERROR      = YES\n" ++
    "WARN_FORMAT            = \"" ++ Output.mark ++ "$file:$line: $text\"\n" ++
    "GENERATE_AUTOGEN_DEF   = NO\n"

/-- The settings that `doxygen` reads. -/
def doxygenSettings (files : List String) : String :=
  "INPUT                  = " ++ " ".intercalate (files.map quotedName) ++ "\n" ++ otherSettings

/-- The plan for `doxygen`. -/
def doxygen (root : String) (files : List String) : Plan :=
  .tool { program := "doxygen", args := ["-"], input := doxygenSettings files } (upTo 0)
    fun o => .ok (Output.markedMessages root o.stderr.toList)

/-- The plan for `rst-lint`, which ends with a two if it found something. -/
def rstLint (files : List String) : Plan :=
  .tool { program := "rst-lint", args := ["--format", "json"] ++ guarded files }
    (fun code => code = 0 || code = 2) fun o => Output.rstMessages o.stdout

/-- The plan for a custom linter. -/
def custom (o : CustomOptions) (files : List String) : Plan :=
  ofCommand o.command files fun call =>
    .tool call (· ∈ o.okExitCodes) fun out =>
      (Output.ofPattern o.pattern (Output.chosen o.stream out.stdout out.stderr).toList).require
        (out.code ≠ 0)

/-! ## All linters -/

/-- What the linter with some options does about some files. -/
def ofOptions (o : Options) (c : Context) (files : List String) : Plan :=
  match o with
  | .flake8 config =>
    coded "flake8" (["--jobs=" ++ toString c.jobs] ++ option "--config=" config) files
  | .pycodestyle config => coded "pycodestyle" (option "--config=" config) files
  | .pydocstyle config => pydocstyle config files
  | .pylint rcfile => pylint rcfile c.jobs files
  | .black o => black o files
  | .autopep8 o => autopep8 o files
  | .imports packages => .check fun w => Check.Imports.run w c.root packages files
  | .yamllint config => yamllint config files
  | .cppcheck o => cppcheck o c.jobs files
  | .cpplint o => cpplint o files
  | .doxygen => doxygen c.root files
  | .rstLint => rstLint files
  | .whitespace _ => .check fun w => Check.Whitespace.run w c.root files
  | .header o => .check fun w => Check.Header.run o w c.root files
  | .custom o => custom o files

/-- Does what is planned. -/
def perform (w : World) (c : Context) : Plan → Calling Failure (List Message)
  | .tool call accepts read => do MonadExcept.ofExcept (read (← w.runTool c call accepts))
  | .check run => MonadExcept.ofExcept (run w)
  | .refused reason => throw reason

end Plan

end Lintscope

import Lintscope.Linter
import Lintscope.Regex
import Lintscope.Shell.Command

/-!
# Options of linters

What can be set about each linter. Everything has a default, except for a
custom linter, which is nothing without its name, its command and the pattern
of its output.
-/

namespace Lintscope

/-- The groups that the pattern of an output must name. -/
def OutputPattern.required : List String := ["path", "text"]

/-- The pattern of a line of output that is a message. -/
structure OutputPattern where
  /-- The regular expression. -/
  regex : Regex
  /-- It names the path of a message and its text. -/
  required_names : ∀ group ∈ OutputPattern.required, group ∈ regex.names

namespace OutputPattern

/-- Why a text is no pattern of an output. -/
inductive Error where
  /-- It is no regular expression. -/
  | malformed (text : String) (reason : Regex.Error)
  /-- It lacks a group. -/
  | noGroup (text group : String)

/-- What is wrong with a pattern. -/
def Error.message : Error → String
  | malformed text reason => "invalid pattern '" ++ text ++ "': " ++ reason.message text
  | noGroup text group => "pattern '" ++ text ++ "' has no named group '" ++ group ++ "'"

/-- The pattern that a text writes. -/
def parse (text : String) : Except Error OutputPattern :=
  match Regex.parse text with
  | .error reason => .error (.malformed text reason)
  | .ok regex =>
    match h : required.find? (· ∉ regex.names) with
    | some group => .error (.noGroup text group)
    | none => .ok ⟨regex, fun group mem => by simpa using List.find?_eq_none.mp h group mem⟩

end OutputPattern

/-- The output of a tool that holds its messages. -/
inductive OutputStream where
  | stdout
  | stderr
  | both
  deriving DecidableEq, Repr

/-- Options of `black`. -/
structure BlackOptions where
  /-- A file with settings. -/
  config : Option String := none
  /-- The version of Python to format for. -/
  targetVersion : String := "py37"
  deriving DecidableEq, Repr

/-- Options of `autopep8`. -/
structure Autopep8Options where
  /-- A file with settings, which replaces those of the project. -/
  config : Option String := none
  /-- The first and the last line to format. -/
  lineRange : Option (Nat × Nat) := none
  deriving DecidableEq, Repr

/-- Options of `cppcheck`. -/
structure CppcheckOptions where
  /-- The language of all files. -/
  language : String := "c++"
  /-- The standard that the files follow. -/
  standard : String := "c++11"
  /-- The checks to leave out. -/
  suppress : List String := ["missingIncludeSystem", "unusedFunction"]
  /-- The directories of headers. -/
  includeDirs : List String := []
  deriving DecidableEq, Repr

/-- Options of `cpplint`. -/
structure CpplintOptions where
  /-- The command that runs it. -/
  script : String := "cpplint"
  /-- The length of a line that is still allowed. -/
  lineLength : Nat := 100
  /-- The categories of messages to show and to hide. -/
  categories : List String := ["-runtime/int"]
  deriving DecidableEq, Repr

/-- Options of the check of headers. -/
structure HeaderOptions where
  /-- The file that holds the text of the header. -/
  header : String := "HEADER"
  /-- What begins each line of the header. -/
  comment : String := "# "
  /-- The line that a script should have above its header, if it should have one. -/
  shebang : Option String := some "#!/usr/bin/env python3"
  /-- The lines above the text. -/
  extra : List String := []
  deriving DecidableEq, Repr

/-- Options of a custom linter. -/
structure CustomOptions where
  /-- The name of the linter. -/
  name : String
  /-- The command that runs it. -/
  command : String
  /-- The pattern of its messages. -/
  pattern : OutputPattern
  /-- The exit codes of runs that went well. -/
  okExitCodes : List Int := [0, 1]
  /-- The output that holds its messages. -/
  stream : OutputStream := .both
  /-- The language that it is for. -/
  language : Language := .generic
  /-- What it works on. -/
  style : Style := .static

/-- The options of a linter. -/
inductive Options where
  | flake8 (config : Option String)
  | pycodestyle (config : Option String)
  | pydocstyle (config : Option String)
  | pylint (rcfile : Option String)
  | black (o : BlackOptions)
  | autopep8 (o : Autopep8Options)
  | imports (packages : List String)
  | yamllint (config : Option String)
  | cppcheck (o : CppcheckOptions)
  | cpplint (o : CpplintOptions)
  | doxygen
  | rstLint
  | whitespace (tabWidth : Option Nat)
  | header (o : HeaderOptions)
  | custom (o : CustomOptions)

namespace Options

/-- The linter that options are for. -/
def linter : Options → Linter
  | flake8 _ => .flake8
  | pycodestyle _ => .pycodestyle
  | pydocstyle _ => .pydocstyle
  | pylint _ => .pylint
  | black _ => .black
  | autopep8 _ => .autopep8
  | imports _ => .imports
  | yamllint _ => .yamllint
  | cppcheck _ => .cppcheck
  | cpplint _ => .cpplint
  | doxygen => .doxygen
  | rstLint => .rstLint
  | whitespace _ => .whitespace
  | header _ => .header
  | custom _ => .custom

/-- The options of a linter that nothing is set about. A custom linter has
    none. -/
def default? : Linter → Option Options
  | .flake8 => some (flake8 none)
  | .pycodestyle => some (pycodestyle none)
  | .pydocstyle => some (pydocstyle none)
  | .pylint => some (pylint none)
  | .black => some (black {})
  | .autopep8 => some (autopep8 {})
  | .imports => some (imports [])
  | .yamllint => some (yamllint none)
  | .cppcheck => some (cppcheck {})
  | .cpplint => some (cpplint {})
  | .doxygen => some doxygen
  | .rstLint => some rstLint
  | .whitespace => some (whitespace none)
  | .header => some (header {})
  | .custom => none

end Options

end Lintscope

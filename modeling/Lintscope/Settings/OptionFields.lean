import Lintscope.Settings.Field
import Lintscope.Settings.OptionError

/-!
# The fields of options

Which options each linter has, by name, and what their values may be.
-/

namespace Lintscope.Settings

open Yaml (Value)

variable {α σ : Type}

/-- A field of options. -/
abbrev OptionField := Field OptionError

/-- The field that a reader and an update make. -/
def field (name : String) (read : Reader α) (update : α → σ → σ) : OptionField σ :=
  { name, set := fun v state => do return update (← (read v).mapError .mismatch) state }

/-- Reads the options of a linter from the entries of a mapping. -/
def options (fields : List (OptionField σ)) (start : σ) (entries : List (Value × Value)) :
    Except OptionError σ :=
  record .mismatch fields start entries

/-- Reads a text. -/
def string : Reader String := text "a string"

/-- Reads the only option of a linter, a file. -/
def file (name : String) : List (Value × Value) → Except OptionError (Option String) :=
  options [field name (optional string) fun a _ => a] none

/-- The fields of `black`. -/
def blackFields : List (OptionField BlackOptions) :=
  [field "config" (optional string) fun a o => { o with config := a },
    field "target_version" string fun a o => { o with targetVersion := a }]

/-- The range of lines under one of its names. -/
def lineRange (name : String) : OptionField Autopep8Options :=
  { field name (optional (pair natural32)) fun a o => { o with lineRange := a } with
    mainName := "line-range" }

/-- The fields of `autopep8`. The range of lines has two names. -/
def autopep8Fields : List (OptionField Autopep8Options) :=
  [field "config" (optional string) fun a o => { o with config := a },
    lineRange "line-range", lineRange "line_range"]

/-- The fields of `cppcheck`. -/
def cppcheckFields : List (OptionField CppcheckOptions) :=
  [field "language" string fun a o => { o with language := a },
    field "standard" string fun a o => { o with standard := a },
    field "suppress" (list string) fun a o => { o with suppress := a },
    field "include" (list string) fun a o => { o with includeDirs := a }]

/-- The fields of `cpplint`. -/
def cpplintFields : List (OptionField CpplintOptions) :=
  [field "script" string fun a o => { o with script := a },
    field "linelength" natural32 fun a o => { o with lineLength := a },
    field "filter" (list string) fun a o => { o with categories := a }]

/-- The fields of the check of headers. -/
def headerFields : List (OptionField HeaderOptions) :=
  [field "header" string fun a o => { o with header := a },
    field "comment" string fun a o => { o with comment := a },
    field "shebang" (optional string) fun a o => { o with shebang := a },
    field "extra" (list string) fun a o => { o with extra := a }]

/-! ## Custom linters -/

/-- The options of a custom linter, as far as they are given. -/
structure CustomDraft where
  /-- The name. -/
  name : Option String := none
  /-- The command. -/
  command : Option String := none
  /-- The pattern. -/
  pattern : Option OutputPattern := none
  /-- The exit codes of runs that went well. -/
  okExitCodes : List Int := [0, 1]
  /-- The output that holds the messages. -/
  stream : OutputStream := .both
  /-- The language. -/
  language : Language := .generic
  /-- The style. -/
  style : Style := .static

/-- Sets the pattern of the messages. -/
def setPattern : OptionField CustomDraft :=
  { name := "pattern"
    set := fun v d => do
      let text ← (string v).mapError .mismatch
      return { d with pattern := some (← (OutputPattern.parse text).mapError .badPattern) } }

/-- The fields of a custom linter. -/
def customFields : List (OptionField CustomDraft) :=
  [field "name" string fun a d => { d with name := some a },
    field "command" string fun a d => { d with command := some a },
    setPattern,
    field "ok_exit_codes" (list integer32) fun a d => { d with okExitCodes := a },
    field "stream" (word [("stdout", .stdout), ("stderr", .stderr), ("both", .both)]) fun a d =>
      { d with stream := a },
    field "language" (word (Language.all.map fun l => (l.name, l))) fun a d =>
      { d with language := a },
    field "style" (word (Style.all.map fun s => (s.name, s))) fun a d => { d with style := a }]

/-- The options of a custom linter that are given in full. -/
def CustomDraft.finish (d : CustomDraft) : Except OptionError CustomOptions := do
  let missing (name : String) : OptionError := .mismatch (.missingField name)
  let some name := d.name | .error (missing "name")
  let some command := d.command | .error (missing "command")
  let some pattern := d.pattern | .error (missing "pattern")
  return { d with name, command, pattern }

/-! ## All linters -/

/-- Reads the options of a linter. -/
def readOptions (l : Linter) (entries : List (Value × Value)) : Except OptionError Options :=
  match l with
  | .flake8 => .flake8 <$> file "config" entries
  | .pycodestyle => .pycodestyle <$> file "config" entries
  | .pydocstyle => .pydocstyle <$> file "config" entries
  | .pylint => .pylint <$> file "rcfile" entries
  | .black => .black <$> options blackFields {} entries
  | .autopep8 => .autopep8 <$> options autopep8Fields {} entries
  | .imports =>
    .imports <$> options [field "packages" (list string) fun a _ => a] [] entries
  | .yamllint => .yamllint <$> file "config" entries
  | .cppcheck => .cppcheck <$> options cppcheckFields {} entries
  | .cpplint => .cpplint <$> options cpplintFields {} entries
  | .doxygen => do
    options [] () entries
    return .doxygen
  | .rstLint => do
    options [] () entries
    return .rstLint
  | .whitespace =>
    .whitespace <$> options [field "tabwidth" (optional natural32) fun a _ => a] none entries
  | .header => .header <$> options headerFields {} entries
  | .custom => do return .custom (← (← options customFields {} entries).finish)

end Lintscope.Settings

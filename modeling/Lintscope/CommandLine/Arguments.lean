import Lintscope.CommandLine.Grammar
import Lintscope.Linter

/-!
# Commands

There are two commands: to check a repository, and to list the linters. The
options that make the program talkative go before a command or behind it; an
option is given once at most.
-/

namespace Lintscope.CommandLine

/-- How a report is written. -/
inductive Format where
  /-- As a text to read. -/
  | text
  /-- As JSON. -/
  | json
  deriving DecidableEq, Repr

/-- The format with a given name. -/
def Format.ofName? : String → Option Format
  | "text" => some text
  | "json" => some json
  | _ => none

/-- How talkative the program is. -/
structure Talk where
  /-- It tells what it does. -/
  verbose : Bool := false
  /-- It tells how it does that. -/
  debug : Bool := false
  deriving DecidableEq, Repr

/-- What is to be checked, and how. -/
structure CheckArgs where
  /-- The names of linters; none for all. -/
  linters : List String := []
  /-- The revision that the messages must have come after. -/
  refspec : Option String := none
  /-- The revision that is checked, if not the files. -/
  newRef : Option String := none
  /-- Whether all messages are to be told. -/
  full : Bool := false
  /-- The number of linters that work at a time. -/
  jobs : Option String := none
  /-- The language of the linters. -/
  language : Option Language := none
  /-- The style of the linters. -/
  style : Option Style := none
  /-- The part of the linters. -/
  part : Option String := none
  /-- The file that holds the settings. -/
  config : Option String := none
  /-- How the report is written. -/
  format : Option Format := none
  /-- How talkative the program is. -/
  talk : Talk := {}
  deriving DecidableEq, Repr

/-- A command. -/
inductive Command where
  /-- To check a repository. -/
  | check (args : CheckArgs)
  /-- To list the linters. -/
  | linters
  deriving DecidableEq, Repr

variable {α σ : Type}

/-- A value for what has none yet. -/
def once (known : Option α) (a : α) : Except Stop (Option α) :=
  if known.isSome then .error .usage else .ok (some a)

/-- A yes for what is not yes yet. -/
def onceTrue (known : Bool) : Except Stop Bool := if known then .error .usage else .ok true

/-- A value that is one of some words. -/
def oneOf (ofName? : String → Option α) (v : String) : Except Stop α :=
  (ofName? v).elim (.error .usage) .ok

/-- The options that every command has. -/
def commonOptions (name : String) (update : (Talk → Except Stop Talk) → σ → Except Stop σ) :
    List (Opt σ) :=
  [{ name := "verbose", letter := 'v', effect := .flag <| update fun t => do
      return { t with verbose := ← onceTrue t.verbose } },
    { name := "debug", effect := .flag <| update fun t => do
      return { t with debug := ← onceTrue t.debug } },
    { name := "help", letter := 'h', effect := .flag fun _ => .error .help },
    { name := "version", letter := 'V', effect := .flag fun _ => .error (.version name) }]

/-- The arguments of the command to check. -/
def checkGrammar : Grammar CheckArgs where
  options :=
    [{ name := "refspec", letter := 'r', effect := .value fun v a => do
        return { a with refspec := ← once a.refspec v } },
      { name := "new-ref", effect := .value fun v a => do
        return { a with newRef := ← once a.newRef v } },
      { name := "full", effect := .flag fun a => do return { a with full := ← onceTrue a.full } },
      { name := "jobs", letter := 'n', effect := .value fun v a => do
        return { a with jobs := ← once a.jobs v } },
      { name := "language", effect := .value fun v a => do
        return { a with language := ← once a.language (← oneOf Language.ofName? v) } },
      { name := "style", effect := .value fun v a => do
        return { a with style := ← once a.style (← oneOf Style.ofName? v) } },
      { name := "part", letter := 'p', effect := .value fun v a => do
        return { a with part := ← once a.part v } },
      { name := "config", letter := 'c', effect := .value fun v a => do
        if v = "" then .error .usage
        return { a with config := ← once a.config v } },
      { name := "format", effect := .value fun v a => do
        return { a with format := ← once a.format (← oneOf Format.ofName? v) } }] ++
    commonOptions "difflint-check" fun f a => do return { a with talk := ← f a.talk }
  operand v a := .ok { a with linters := a.linters ++ [v] }

/-- The arguments of the command to list the linters. -/
def lintersGrammar : Grammar Talk where
  options := commonOptions "difflint-linters" id

/-- The arguments that may come before a command. -/
def programGrammar : Grammar Talk where
  options := commonOptions "difflint" id

/-- The command to check; the revision that is checked needs one before it. -/
def readCheck (args : List String) : Except Stop Command := do
  let a ← checkGrammar.read args {}
  if a.newRef.isSome ∧ a.refspec.isNone then .error .usage
  return .check a

/-- The command of a name with its arguments. -/
def readCommand (name : String) (args : List String) : Except Stop Command :=
  match name with
  | "check" => readCheck args
  | "linters" => do
    let _ ← lintersGrammar.read args {}
    return .linters
  | "help" =>
    if args = [] ∨ args = ["check"] ∨ args = ["linters"] ∨ args = ["help"] then .error .help
    else .error .usage
  | _ => .error .usage

/-- The command that arguments describe. -/
def readArguments : List String → Talk → Except Stop Command
  | [], _ => .error .usage
  | arg :: rest, talk =>
    if arg = "--" then .error .usage
    else if isOption arg then do readArguments rest (← programGrammar.step arg talk).1
    else readCommand arg rest

/-- The command that arguments describe. -/
def Command.parse (args : List String) : Except Stop Command := readArguments args {}

end Lintscope.CommandLine

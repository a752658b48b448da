import Lintscope.CommandLine.Arguments
import Lintscope.Report.Json
import Lintscope.Report.Text
import Lintscope.Run

/-!
# The command line

What the program does with its arguments: it finds the repository, reads the
settings, chooses the linters, lets them work and writes the report; or it
writes a table of the linters.
-/

namespace Lintscope.CommandLine

/-- How the program ends. -/
structure Ending where
  /-- The exit code. -/
  code : Nat
  /-- What it writes. -/
  stdout : String := ""
  /-- What it complains about. -/
  stderr : String := ""
  deriving DecidableEq, Repr

/-! ## Texts -/

/-- The name and the version of the program. -/
def versionText (name : String) : String := name ++ " 0.1.0\n"

/-- How the program is called. -/
def usageText : String :=
  "Usage: difflint [OPTIONS] <COMMAND>\n\n" ++
    "Commands:\n" ++
    "  check    Run the configured linters\n" ++
    "  linters  List the supported linters\n"

/-- A row of the table of linters. -/
def row (id language style description : String) : String :=
  padded 12 id ++ " " ++ padded 8 language ++ " " ++ padded 8 style ++ " " ++ description ++ "\n"

/-- The rows about a linter. -/
def linterRows (l : Linter) : String :=
  row l.id l.language.name l.style.name l.description ++
    padded 30 "" ++ " default files: " ++ ", ".intercalate l.rules ++ "\n"

/-- The table of linters. -/
def linterTable : String :=
  row "ID" "LANGUAGE" "STYLE" "DESCRIPTION" ++ String.join (Linter.all.map linterRows)

/-! ## Checking -/

/-- The number of linters that work at a time: as asked for, or as the settings
    say, or as many as there are processors. -/
def resolveJobs (w : World) (asked : Option String) (configured : Option Nat) :
    Except Fault Nat :=
  match asked with
  | none => .ok (configured.getD w.processors)
  | some value =>
    let value := Text.trim value.toList
    if value = "auto".toList then .ok w.processors
    else
      match Text.natOfNumeral? Text.limit64 value with
      | some n => if 0 < n then .ok n else .error (.badJobs (.ofList value))
      | none => .error (.badJobs (.ofList value))

/-- The settings in a file. -/
def loadSettings (w : World) (path : String) : Except Fault Settings := do
  let text ← (w.readText path).mapError (.noSettings path)
  (Settings.parse text).mapError .badSettings

/-- The linters that are asked for. -/
def selection (a : CheckArgs) : Except Fault Selection := do
  let part ← match a.part with
    | some p => some <$> (Part.parse p).mapError .badPart
    | none => pure none
  return { names := a.linters, language := a.language, style := a.style, part }

/-- The run that is asked for in a repository. -/
def plan (w : World) (a : CheckArgs) (root : String) : Except Fault Run := do
  let settings ← loadSettings w (a.config.getD (Path.join root Settings.fileName))
  let selection ← selection a
  let tasks ← (selection.of settings.tasks).mapError .badSelection
  let jobs ← resolveJobs w a.jobs settings.jobs
  let request := match a.refspec, a.full with
    | some old, false => .changes old a.newRef
    | _, _ => .everything
  return {
    root, tasks, request, jobs
    commonFilter := settings.commonFilter
    failOn := settings.failOn }

/-- The report that is asked for. -/
def check (w : World) (directory : String) (a : CheckArgs) : Calling Fault Report := do
  let root ← ExceptT.adapt Fault.git (Git.root w directory)
  let run ← MonadExcept.ofExcept (plan w a root)
  run.perform w

/-- A report as it is written. -/
def written (format : Format) (r : Report) : String :=
  match format with
  | .text => r.renderText
  | .json => r.toJson.print ++ "\n"

/-! ## The program -/

/-- How a command ends that was kept from being carried out. -/
def Stop.ending : Stop → Ending
  | usage => { code := 2, stderr := usageText }
  | version name => { code := 0, stdout := versionText name }
  | help => { code := 0, stdout := usageText }

/-- How a command ends that is carried out in a directory, and the programs that
    it launched. -/
def perform (w : World) (directory : String) : Command → Ending × List World.Launch
  | .linters => ({ code := 0, stdout := linterTable }, [])
  | .check a =>
    let (result, launches) := (check w directory a).run.run []
    match result with
    | .ok r => ({ code := r.exitCode, stdout := written (a.format.getD .text) r }, launches)
    | .error f => ({ code := f.exitCode, stderr := f.complaint }, launches)

/-- How the program ends when it is called in a directory with arguments, and
    the programs that it launched. -/
def run (w : World) (directory : String) (args : List String) : Ending × List World.Launch :=
  match Command.parse args with
  | .ok c => perform w directory c
  | .error s => (s.ending, [])

end Lintscope.CommandLine

import Lintscope.Message
import Lintscope.Settings.Part
import Lintscope.Settings.Task
import Lintscope.Yaml.Reading

/-!
# Settings

What a project wants to be checked: which files at all, by which linters, how
severe a finding must be to count, and how many linters may work at a time.
Settings are read from a YAML text. Fields that mean nothing here are passed
over, but the options of a linter must all be known.
-/

namespace Lintscope

/-- The settings of a project. -/
structure Settings where
  /-- The files that any linter looks at. -/
  commonFilter : Filter := .all
  /-- The least severity of a finding in scope that fails a run. -/
  failOn : Severity := .warning
  /-- The number of linters that work at a time. -/
  jobs : Option Nat := none
  /-- What the linters are to do. -/
  tasks : List Task := []

namespace Settings

/-- The name of the file that holds the settings of a project. -/
def fileName : String := ".difflint.yml"

/-- What the settings of a project have against a value that fits its field. -/
inductive Refusal where
  /-- A rule for the files is none. -/
  | badRule (e : Filter.RuleError)
  /-- An item describes no task. -/
  | badItem (e : ItemError)

/-- The wording of a refusal. -/
def Refusal.message : Refusal → String
  | badRule e => "Configuration error: " ++ e.message
  | badItem e => "Configuration error: " ++ e.message

/-- Why a text holds no settings. -/
inductive Error where
  /-- It cannot be read. -/
  | unreadable (e : Yaml.Error Refusal)
  /-- No linter may work. -/
  | zeroJobs
  /-- There is nothing to do. -/
  | noTasks
  /-- A name stands for two tasks. -/
  | repeatedTask (id : String)

/-- What is wrong with settings. -/
def Error.message : Error → String
  | unreadable e => "failed to parse config YAML: " ++ e.message Refusal.message
  | zeroJobs => "config validation failed: jobs must be greater than 0"
  | noTasks => "config validation failed: no linters configured"
  | repeatedTask id =>
    "config validation failed: linter '" ++ id ++ "' is configured more than once"

/-! ## Reading -/

open Yaml (Reading Site)

/-- The fields that have been read. -/
structure Draft where
  /-- The files that any linter looks at. -/
  commonFilter : Option Filter := none
  /-- The severity that fails a run. -/
  failOn : Option Severity := none
  /-- The number of linters that work at a time. -/
  jobs : Option (Option Nat) := none
  /-- The tasks. -/
  tasks : Option (List Task) := none

/-- The settings that a draft amounts to. -/
def Draft.finish (d : Draft) : Settings :=
  { commonFilter := d.commonFilter.getD .all
    failOn := d.failOn.getD .warning
    jobs := d.jobs.getD none
    tasks := d.tasks.getD [] }

/-- Reads a filter. -/
def readFilter (site : Site) : Reading Refusal Filter := do
  match Filter.parse (← Reading.list (Reading.text "a string") site) with
  | .ok f => return f
  | .error e => Reading.complain (.refused (.badRule e))

/-- Reads a severity. -/
def readSeverity : Site → Reading Refusal Severity :=
  Reading.word ([Severity.info, .warning, .error].map fun s => (s.name, s))

/-- Reads a task. -/
def readTask (site : Site) : Reading Refusal Task := do
  match Task.ofValue (← Reading.value site.depth site.path site.node) with
  | .ok t => return t
  | .error e => Reading.complain (.refused (.badItem e))

/-- Complains if a field has been read before. -/
def once {α : Type} (name : String) (known : Option α) : Reading Refusal Unit :=
  if known.isSome then Reading.mismatch (.repeatedField name) else return ()

/-- Reads a field of the settings. -/
def readField (name : String) (site : Site) (d : Draft) : Reading Refusal Draft :=
  match name with
  | "pre_filefilter" => do
    once name d.commonFilter
    return { d with commonFilter := some (← readFilter site) }
  | "fail_on" => do
    once name d.failOn
    return { d with failOn := some (← readSeverity site) }
  | "jobs" => do
    once name d.jobs
    return { d with jobs := some (← Reading.optional (Reading.natural "usize") site) }
  | "linters" => do
    once name d.tasks
    return { d with tasks := some (← Reading.list readTask site) }
  | _ => do
    Reading.ignore site
    return d

/-- The settings that a text writes, right or not. -/
def read (text : String) : Except (Yaml.Error Refusal) Settings :=
  Draft.finish <$> Reading.run (Reading.record "struct Config" readField {}) text

/-- The first of some names that is known already or stands among them before. -/
def firstRepeated? (known : List String) : List String → Option String
  | [] => none
  | id :: ids => if id ∈ known then some id else firstRepeated? (id :: known) ids

/-- The settings, if they will do. -/
def check (s : Settings) : Except Error Settings :=
  if s.jobs = some 0 then .error .zeroJobs
  else if s.tasks.isEmpty then .error .noTasks
  else
    match firstRepeated? [] (s.tasks.map Task.id) with
    | some id => .error (.repeatedTask id)
    | none => .ok s

/-- The settings that a text writes. -/
def parse (text : String) : Except Error Settings := do
  check (← (read text).mapError .unreadable)

end Settings

/-! ## Selections -/

/-- Some of the tasks. -/
structure Selection where
  /-- The names of tasks; none for all. -/
  names : List String := []
  /-- The language that they are about. -/
  language : Option Language := none
  /-- What they work on. -/
  style : Option Style := none
  /-- The part of the list, once all else is settled. -/
  part : Option Part := none

namespace Selection

/-- A name that no task has, and the names that tasks have. -/
structure Error where
  /-- The name. -/
  name : String
  /-- The names of all tasks. -/
  known : List String
  deriving DecidableEq, Repr

/-- What is wrong with a selection. -/
def Error.message (e : Error) : String :=
  "linter '" ++ e.name ++ "' is not configured (configured: " ++ ", ".intercalate e.known ++ ")"

variable (s : Selection)

/-- Whether a task meets the selection, parts aside. -/
def admits (t : Task) : Bool :=
  (s.names.isEmpty || t.id ∈ s.names) && s.language.all (· = t.language) &&
    s.style.all (· = t.style)

/-- The selected tasks, in their order. -/
def of (tasks : List Task) : Except Error (List Task) :=
  match s.names.find? (· ∉ tasks.map Task.id) with
  | some name => .error ⟨name, tasks.map Task.id⟩
  | none =>
    let chosen := tasks.filter s.admits
    .ok (s.part.elim chosen (·.of chosen))

end Selection

end Lintscope

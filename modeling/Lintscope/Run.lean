import Lintscope.Fault
import Lintscope.Linter.Plan
import Lintscope.Report
import Lintscope.Scope
import Lintscope.Worklist

/-!
# Runs

A run asks the repository for what has changed and for its files, lets every
linter that has something to look at do so, and puts what they say into a
report. If there is no diff, the report is about everything, and says so. A
message about a file that its linter was not given is dropped; a linter that
fails stands in the report with its failure.
-/

namespace Lintscope

/-- What a run is to tell. -/
inductive Request where
  /-- All messages. -/
  | everything
  /-- The messages on what has changed from a revision to another one, or to
      the files. -/
  | changes (old : String) (new : Option String)
  deriving DecidableEq, Repr

/-- What a run is to do. -/
structure Run where
  /-- The root of the repository. -/
  root : String
  /-- The files that any linter looks at. -/
  commonFilter : Filter
  /-- The severity that fails the run. -/
  failOn : Severity
  /-- What the linters are to do. -/
  tasks : List Task
  /-- What the run is to tell. -/
  request : Request
  /-- The number of linters that work at a time. -/
  jobs : Nat

/-- What came of a task. -/
structure Outcome where
  /-- The task. -/
  task : Task
  /-- The files that it was about. -/
  files : List String
  /-- What its linter said. -/
  result : Except Failure (List Message)

namespace Outcome

variable (o : Outcome)

/-- The messages of an outcome; a failure is one message about the linter. -/
def messages : List Message :=
  match o.result with
  | .ok ms => ms
  | .error e => [.ofLinter .error (o.task.id ++ " failed: " ++ e.message)]

/-- Whether a message is about a file that the linter was given, or about no
    file. -/
def expects (m : Message) : Bool := m.path.all (· ∈ o.files)

/-- The entry of a message in a report; none if it is dropped. -/
def entry? (index : Option Diff.Index) (m : Message) : Option Entry :=
  if o.expects m then (inScope? index m).map fun inScope => ⟨o.task.id, inScope, m⟩ else none

/-- The entries of an outcome in a report. -/
def entries (index : Option Diff.Index) : List Entry := o.messages.filterMap (o.entry? index)

/-- The number of messages of an outcome that are dropped. -/
def dropped (index : Option Diff.Index) : Nat :=
  o.messages.countP fun m => (o.entry? index m).isNone

/-- The fault that an outcome is, if it is one. -/
def fault? : Option Fault :=
  match o.result with
  | .ok _ => none
  | .error e => Fault.ofFailure? e

end Outcome

/-- A piece of work that is given a chance: what comes of it. -/
def Calling.attempt {ε δ α : Type} (work : Calling ε α) : Calling δ (Except ε α) :=
  ExceptT.lift work.run

namespace Run

variable (r : Run) (w : World)

/-- The index of what has changed, if it is asked for, and a warning if it is
    not to be had. -/
def index : Calling Fault (Option Diff.Index × List String) :=
  match r.request with
  | .everything => return (none, [])
  | .changes old new => do
    match ← Calling.attempt (Git.index w r.root old new) with
    | .ok i => return (some i, [])
    | .error (.git .endless) => throw .endless
    | .error e =>
      return (none, ["diff against '" ++ old ++ "' unavailable (" ++ e.message ++
        "); reporting all messages"])

/-- The files that the linters may be given. -/
def candidates (index : Option Diff.Index) (files : List String) : List String :=
  match index with
  | some i => files.filter i.isSelectable
  | none => files

/-- The tasks that have something to look at, each with its files. -/
def assignments (files : List String) : List (Task × List String) :=
  (r.tasks.map fun t => (t, worklist files r.commonFilter t.filter)).filter fun (_, files) =>
    files ≠ []

/-- Where and how long a task may work. -/
def context (t : Task) : Context :=
  { root := r.root, jobs := r.jobs, limit := t.timeout.map (1000 * ·) }

/-- Does a task. -/
def work (t : Task) (files : List String) : Calling Fault Outcome := do
  let c := r.context t
  return ⟨t, files, ← Calling.attempt ((Plan.ofOptions t.options c files).perform w c)⟩

/-- The report on some outcomes. -/
def report (index : Option Diff.Index) (warnings : List String) (outcomes : List Outcome) :
    Report :=
  Report.sort
    { mode := if index.isSome then .changedLines else .full
      failOn := r.failOn
      linters := r.tasks.map Task.id
      warnings
      dropped := outcomes.foldl (fun n o => n + o.dropped index) 0
      entries := outcomes.flatMap (·.entries index) }

/-- The fault that some outcomes are: one that never comes before all others,
    and one that breaks off before a mere stop. -/
def firstFault? (outcomes : List Outcome) : Option Fault :=
  let faults := outcomes.filterMap Outcome.fault?
  faults.find? (· matches .endless) <|> faults.find? (· matches .hugePosition) <|> faults.head?

/-- The report of a run. -/
def perform : Calling Fault Report := do
  let (index, warnings) ← r.index w
  let files ← ExceptT.adapt Fault.git (Git.files w r.root)
  if w.cancelled then throw .cancelled
  let assignments := r.assignments (candidates index files)
  let outcomes ← assignments.mapM fun (t, files) => r.work w t files
  match firstFault? outcomes with
  | some f => throw f
  | none => return r.report index warnings outcomes

end Run

end Lintscope

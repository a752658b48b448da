import Lintscope.Git
import Lintscope.Settings

/-!
# Faults

A fault ends a run without a report: the command or the settings will not do,
the repository does not answer, or the run is asked to stop. Each kind of
fault has its exit code.
-/

namespace Lintscope

/-- Why a run ends without a report. -/
inductive Fault where
  /-- The part of the list of linters is none. -/
  | badPart (e : Part.Error)
  /-- The number of linters that may work at a time is none. -/
  | badJobs (value : String)
  /-- The settings cannot be read. -/
  | noSettings (path : String) (e : World.Error)
  /-- The settings will not do. -/
  | badSettings (e : Settings.Error)
  /-- The selection names a linter that is not there. -/
  | badSelection (e : Selection.Error)
  /-- The repository does not answer. -/
  | git (e : Git.Error)
  /-- The run was asked to stop. -/
  | cancelled
  /-- A linter came upon a position that does not fit 32 bits. -/
  | hugePosition
  /-- A linter goes on for ever. -/
  | endless

namespace Fault

/-- How a fault is told. -/
def message : Fault → String
  | badPart e => e.message
  | badJobs value =>
    "invalid --jobs value '" ++ value ++ "': expected a positive number or 'auto'"
  | noSettings path e =>
    "Configuration error: failed to read config file '" ++ path ++ "': " ++ e.message
  | badSettings e => "Configuration error: " ++ e.message
  | badSelection e => "Configuration error: " ++ e.message
  | git e => "Git operation failed: " ++ e.message
  | cancelled => "Run cancelled by signal; no report produced"
  | hugePosition => Failure.hugePosition.message
  | endless => Failure.endless.message

/-- What is written about a fault. A position that does not fit is nobody's error:
    the program breaks down at it, and does not get to tell one. -/
def complaint : Fault → String
  | hugePosition => hugePosition.message ++ "\n"
  | f => "Error: " ++ f.message ++ "\n"

theorem complaint_of_ne {f : Fault} (h : f ≠ hugePosition) :
    f.complaint = "Error: " ++ f.message ++ "\n" := by
  cases f with
  | hugePosition => exact absurd rfl h
  | _ => rfl

/-- The exit code of a fault. -/
def exitCode : Fault → Nat
  | badPart _ | badJobs _ | noSettings .. | badSettings _ | badSelection _ => 2
  | git _ => 3
  | cancelled => 130
  | hugePosition => 101
  | endless => 124

/-- The fault that a failure of one linter is, if it is one of the whole run. -/
def ofFailure? : Failure → Option Fault
  | .cancelled => some cancelled
  | .hugePosition => some hugePosition
  | .endless => some endless
  | _ => none

end Fault

end Lintscope

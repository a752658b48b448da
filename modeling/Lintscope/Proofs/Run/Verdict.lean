import Lintscope.Proofs.Run.Ending

/-!
# The verdict of a run

A run that ends with a report fails exactly if one of its linters failed, or
said something about changed code that is as grave as the threshold
(`Run.exitCode_perform`). The failure of a linter reaches the report as a
message about no file, so neither the worklist nor the index can keep it back,
and no threshold is above it (`Outcome.any_entries`).
-/

namespace Lintscope

namespace Severity

theorem le_error (s : Severity) : s ≤ error := by
  cases s <;> decide

end Severity

/-! ## Reports -/

namespace Report

theorem exitCode_eq (r : Report) :
    r.exitCode = if r.entries.any (·.blocks r.failOn) then 1 else 0 := by
  rw [exitCode, blocking]
  simp only [List.countP_pos_iff, List.any_eq_true]

@[simp]
theorem failOn_sort (r : Report) : r.sort.failOn = r.failOn := rfl

theorem mem_entries_sort {r : Report} {e : Entry} : e ∈ r.sort.entries ↔ e ∈ r.entries :=
  List.mem_mergeSort

theorem exitCode_sort (r : Report) : r.sort.exitCode = r.exitCode := by
  simp only [exitCode_eq, failOn_sort, List.any_eq_true, mem_entries_sort]

end Report

/-! ## Outcomes -/

namespace Outcome

variable (o : Outcome) (index : Option Diff.Index) (failOn : Severity)

/-- Whether an outcome is to fail a run: its linter failed, or a message that it
    gave is about a file that it was given, or about no file, is in scope, and
    reaches the threshold. -/
def fails : Bool :=
  match o.result with
  | .error _ => true
  | .ok ms => ms.any fun m => o.expects m && inScope? index m = some true && failOn ≤ m.severity

/-- A message makes a report fail if it is expected, in scope and grave enough. -/
theorem any_entry?_blocks (m : Message) :
    (o.entry? index m).any (·.blocks failOn) =
      (o.expects m && inScope? index m = some true && failOn ≤ m.severity) := by
  unfold entry?
  by_cases hm : o.expects m = true
  · rw [if_pos hm]
    rcases inScope? index m with _ | inScope <;> simp [hm, Entry.blocks]
  · simp [hm]

theorem any_entries : (o.entries index).any (·.blocks failOn) = o.fails index failOn := by
  rw [entries, List.any_filterMap]
  change o.messages.any (fun m => (o.entry? index m).any (·.blocks failOn)) = _
  simp only [any_entry?_blocks]
  rcases hr : o.result with e | ms
  · -- The message about a failure is about no file, so it is expected and in scope.
    simp [messages, fails, hr, Message.ofLinter, expects, inScope?, Severity.le_error]
  · simp only [messages, fails, hr]

end Outcome

/-! ## Runs -/

namespace Run

theorem exitCode_report (r : Run) (index : Option Diff.Index) (warnings : List String)
    (outcomes : List Outcome) :
    (r.report index warnings outcomes).exitCode =
      if outcomes.any (·.fails index r.failOn) then 1 else 0 := by
  rw [report, Report.exitCode_sort, Report.exitCode_eq, List.any_flatMap]
  simp only [Outcome.any_entries]

/-- A run that ends with a report has exit code one if one of the linters that
    had something to look at failed, in whatever way, or gave a message in scope
    that reaches the threshold; and exit code zero otherwise. -/
theorem exitCode_perform {r : Run} {w : World} {log : List World.Launch} {report : Report}
    (h : ((r.perform w).run.run log).1 = .ok report) :
    ∃ index warnings files, (r.index w).result = .ok (index, warnings) ∧
      (Git.files w r.root).result = .ok files ∧
        report.exitCode =
          if (r.outcomes w index files).any (·.fails index r.failOn) then 1 else 0 := by
  obtain ⟨index, warnings, files, hindex, hfiles, -, -, rfl⟩ := r.perform_eq_ok_iff w |>.1 h
  exact ⟨index, warnings, files, hindex, hfiles, r.exitCode_report index warnings _⟩

/-- A repository with a file that lost a line, and with a linter that is stopped by
    a signal. -/
def crashWorld : World where
  tree := ⟨[(["a.py"], .file [])]⟩
  program?
    | "git" => some fun args _ =>
      .ends (.code 0) (Utf8.encode <|
        if "diff" ∈ args then "diff --git a/a.py b/a.py\n@@ -1 +0,0 @@\n-x\n".toList
        else if "--cached" ∈ args then "a.py\n".toList
        else []) []
    | "flake8" => some fun _ _ => .ends .signal [] []
    | _ => none

/-- A run about the lines that changed in that repository, of which there are none. -/
def crashRun : Run where
  root := "/"
  commonFilter := .all
  failOn := .error
  tasks := [⟨"flake8", .all, none, .flake8 none⟩]
  request := .changes "main" none
  jobs := 1

theorem exitCode_perform_crash :
    ∃ report, ((crashRun.perform crashWorld).run.run []).1 = .ok report ∧ report.exitCode = 1 := by
  have hindex : (crashRun.index crashWorld).result = .ok (some ⟨[("a.py", [])], [], []⟩, []) := rfl
  have hfiles : (Git.files crashWorld crashRun.root).result = .ok ["a.py"] := rfl
  have hfails : (crashRun.outcomes crashWorld (some ⟨[("a.py", [])], [], []⟩) ["a.py"]).any
      (·.fails (some ⟨[("a.py", [])], [], []⟩) crashRun.failOn) = true := by decide +kernel
  have h : ((crashRun.perform crashWorld).run.run []).1 = .ok _ :=
    (crashRun.perform_eq_ok_iff crashWorld).2 ⟨_, _, _, hindex, hfiles, rfl, rfl, rfl⟩
  refine ⟨_, h, ?_⟩
  obtain ⟨index, warnings, files, hi, hf, hexit⟩ := exitCode_perform h
  obtain ⟨rfl, rfl⟩ := Prod.mk.inj (Except.ok.inj (hindex.symm.trans hi))
  obtain rfl := Except.ok.inj (hfiles.symm.trans hf)
  rw [hexit, if_pos hfails]

end Run

end Lintscope

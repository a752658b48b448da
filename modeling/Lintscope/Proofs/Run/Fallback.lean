import Lintscope.Proofs.Run.Ending

/-!
# Runs without a diff

A run about what has changed needs a diff. If there is none, because version
control does not give it or because what it gives cannot be read, be it in the
last of its lines only, the run does what a run about everything does, and puts
one warning into its report (`Run.gives_perform_changes`). Nothing of a diff
that was read in part is kept: a diff is read as a whole or not at all
(`Git.result_index_of_lacksDiff`), and from there on the run knows of no index.
-/

namespace Lintscope

/-! ## Version control -/

namespace Git

variable (w : World) (directory old : String) (new : Option String)

/-- There is no diff, for some reason: version control does not give it, though
    it ends, or the text that it gives is no diff. -/
def LacksDiff (e : DiffError) : Prop :=
  (∃ failure, answer w directory (diffArgs old new) = .error failure ∧ failure ≠ .endless ∧
    e = .git failure) ∨
  ∃ a fault, answer w directory (diffArgs old new) = .ok a ∧ Diff.parse a.stdout = .error fault ∧
    e = .malformed fault

variable {w directory old new} {e : DiffError}

theorem LacksDiff.ne_endless (h : LacksDiff w directory old new e) : e ≠ .git .endless := by
  rintro rfl
  rcases h with ⟨failure, -, hne, he⟩ | ⟨a, fault, -, -, he⟩
  · exact hne (DiffError.git.inj he).symm
  · cases he

theorem result_index_of_lacksDiff (h : LacksDiff w directory old new e) :
    (index w directory old new).result = .error e := by
  rw [(gives_index w directory old new).result_eq]
  rcases h with ⟨failure, hanswer, -, rfl⟩ | ⟨a, fault, hanswer, hparse, rfl⟩
  · rw [hanswer]
    rfl
  · have hindex : Diff.Index.ofDiff a.stdout = .error fault := by
      rw [Diff.Index.ofDiff, hparse]
      rfl
    rw [hanswer]
    exact congrArg (Except.mapError DiffError.malformed) hindex

end Git

/-! ## Reports -/

/-- The report with other warnings. -/
def Report.warn (warnings : List String) (r : Report) : Report := { r with warnings }

/-- No warning changes the verdict. -/
theorem Report.exitCode_warn (warnings : List String) (r : Report) :
    (r.warn warnings).exitCode = r.exitCode := rfl

/-! ## Runs -/

namespace Run

variable (r : Run) (w : World) {old : String} {new : Option String}

/-- The warning that there is no diff. -/
def noDiffWarning (old : String) (e : Git.DiffError) : String :=
  "diff against '" ++ old ++ "' unavailable (" ++ e.message ++ "); reporting all messages"

/-- Without a diff a run has no index and one warning. -/
theorem result_index_of_error {e : Git.DiffError} (hr : r.request = .changes old new)
    (he : (Git.index w r.root old new).result = .error e) (hne : e ≠ .git .endless) :
    (r.index w).result = .ok (none, [noDiffWarning old e]) := by
  have h := (Git.gives_index w r.root old new).gives_result
  rw [he] at h
  simp only [index, hr]
  refine (h.attempt.bind_ok (b := .ok (none, [noDiffWarning old e])) ?_).result_eq
  -- Only a call without end is no reason to go on without a diff.
  rcases e with failure | fault
  · cases failure with
    | endless => exact absurd rfl hne
    | notStarted | failed | noRepository => exact .pure _
  · exact .pure _

/-- The warnings of a run are in its report, and have no influence on it. -/
theorem dispatch_eq_warn (index : Option Diff.Index) (warnings files : List String) :
    r.dispatch w index warnings files = (r.dispatch w index [] files).map (Report.warn warnings) := by
  rw [dispatch, dispatch, close, close]
  split
  · rfl
  · split <;> rfl

theorem warnings_of_dispatch {index : Option Diff.Index} {warnings files : List String}
    {report : Report} (h : r.dispatch w index warnings files = .ok report) :
    report.warnings = warnings := by
  rw [dispatch_eq_warn] at h
  cases hd : r.dispatch w index [] files with
  | error f =>
    rw [hd] at h
    cases h
  | ok report' =>
    rw [hd] at h
    cases h
    rfl

/-- What comes of a run without an index. -/
def unindexed (warnings : List String) : Except Fault Report := do
  let files ← (Git.files w r.root).result.mapError .git
  r.dispatch w none warnings files

theorem unindexed_eq_warn (warnings : List String) :
    r.unindexed w warnings = (r.unindexed w []).map (Report.warn warnings) := by
  rw [unindexed, unindexed]
  cases (Git.files w r.root).result with
  | error e => rfl
  | ok files => exact r.dispatch_eq_warn w none warnings files

theorem warnings_of_unindexed {warnings : List String} {report : Report}
    (h : r.unindexed w warnings = .ok report) : report.warnings = warnings := by
  obtain ⟨files, -, hdispatch⟩ := bind_eq_ok_iff.1 h
  exact r.warnings_of_dispatch w hdispatch

/-- What a run without an index launches once it has none. -/
def unindexedLaunches : List World.Launch :=
  Git.filesLaunches w r.root ++ Calling.follow (Git.files w r.root).result fun files =>
    if w.cancelled then [] else r.tasksLaunches w none files

theorem gives_perform_of_index {warnings : List String}
    (hi : (r.index w).result = .ok (none, warnings)) :
    (r.perform w).Gives (r.unindexed w warnings)
      (r.indexLaunches w ++ r.unindexedLaunches w) := by
  have h := r.gives_perform w
  rw [hi] at h
  exact h

/-- If there is no diff, a run about what has changed comes to what the run about
    everything comes to: to the same fault, or to the same report but for one
    warning, and so to the same exit code. What it launches is the same, too,
    once it has asked for the diff. -/
theorem gives_perform_changes {e : Git.DiffError} (h : Git.LacksDiff w r.root old new e) :
    ∃ a ls,
      ({ r with request := .everything }.perform w).Gives a ls ∧
      ({ r with request := .changes old new }.perform w).Gives
        (a.map (Report.warn [noDiffWarning old e]))
        (Git.launched w r.root (Git.diffArgs old new) :: ls) ∧
      ∀ full, a = .ok full → full.warnings = [] ∧
        (full.warn [noDiffWarning old e]).exitCode = full.exitCode := by
  have hi : ({ r with request := .changes old new }.index w).result =
      .ok (none, [noDiffWarning old e]) :=
    result_index_of_error _ w rfl (Git.result_index_of_lacksDiff h) h.ne_endless
  have hfull := gives_perform_of_index { r with request := .everything } w rfl
  have hchanges := gives_perform_of_index { r with request := .changes old new } w hi
  rw [unindexed_eq_warn] at hchanges
  -- Once there is no index, no part of a run looks at what it is to tell.
  refine ⟨_, _, hfull, hchanges, fun full ha => ⟨?_, Report.exitCode_warn _ full⟩⟩
  exact warnings_of_unindexed _ w ha

/-- A repository with a file that `flake8` has something to say about, and with a
    diff whose last line is not right. -/
def garbledWorld : World where
  tree := ⟨[(["a.py"], .file [])]⟩
  program?
    | "git" => some fun args _ =>
      .ends (.code 0) (Utf8.encode <|
        if "diff" ∈ args then "diff --git a/a.py b/a.py\n@@ -1 +0,0 @@\n-x\n@@ garbage @@\n".toList
        else if "--cached" ∈ args then "a.py\n".toList
        else []) []
    | "flake8" => some fun _ _ => .ends (.code 1) (Utf8.encode "a.py:1:1: E1 x\n".toList) []
    | _ => none

/-- A run over that repository. -/
def garbledRun : Run where
  root := "/"
  commonFilter := .all
  failOn := .warning
  tasks := [⟨"flake8", .all, none, .flake8 none⟩]
  request := .everything
  jobs := 1

theorem gives_perform_changes_garbled :
    Git.LacksDiff garbledWorld "/" "main" none (.malformed (.badHunkHeader "@@ garbage @@")) ∧
      ∃ full, ((garbledRun.perform garbledWorld).run.run []).1 = .ok full ∧ full.exitCode = 1 ∧
        (({ garbledRun with request := .changes "main" none }.perform garbledWorld).run.run []).1 =
          .ok (full.warn ["diff against 'main' unavailable (malformed hunk header: " ++
            "@@ garbage @@); reporting all messages"]) := by
  have hlacks : Git.LacksDiff garbledWorld garbledRun.root "main" none
      (.malformed (.badHunkHeader "@@ garbage @@")) :=
    .inr ⟨_, _, rfl, rfl, rfl⟩
  have hfiles : (Git.files garbledWorld garbledRun.root).result = .ok ["a.py"] := rfl
  have hfull : ((garbledRun.perform garbledWorld).run.run []).1 = .ok _ :=
    (garbledRun.perform_eq_ok_iff garbledWorld).2 ⟨none, [], _, rfl, hfiles, rfl, rfl, rfl⟩
  obtain ⟨a, ls, ha, hchanges, -⟩ := garbledRun.gives_perform_changes garbledWorld hlacks
  obtain rfl : a = .ok _ := (congrArg Prod.fst (ha [])).symm.trans hfull
  refine ⟨hlacks, _, hfull, by decide +kernel, ?_⟩
  rw [hchanges []]
  rfl

end Run

end Lintscope

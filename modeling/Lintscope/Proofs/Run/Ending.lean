import Lintscope.Proofs.Run.Calling

/-!
# How a run ends

What comes of each part of a run, and what it launches, without the work in
between: a call of version control (`Git.gives_run`), what a linter does about
its files (`Plan.gives_perform`), a task (`Run.gives_work`) and all of a run
(`Run.gives_perform`). A run that ends with a report has an index, perhaps, and
a list of files, and its report is on the outcomes of all tasks that had
something to look at (`Run.perform_eq_ok_iff`).
-/

namespace Lintscope

/-! ## Version control -/

namespace Git

variable (w : World) (directory : String)

/-- The launch of the program with some arguments. -/
def launched (args : List String) : World.Launch :=
  w.launch directory { program := "git", args := options ++ args }

/-- What the program answers to some arguments. -/
def answer (args : List String) : Except Error Answer :=
  match (launched w directory args).result with
  | .error e => .error (.notStarted (args.headD "") e)
  | .ok .hangs => .error .endless
  | .ok (.ends status stdout stderr) =>
    answerOf (args.headD "") status (Answer.ofOutputs stdout stderr)

/-- The arguments that ask for the files that are tracked. -/
def trackedArgs : List String := ["ls-files", "--cached", "--exclude-standard"]

/-- The arguments that ask for the files that are not tracked and not ignored. -/
def othersArgs : List String := ["ls-files", "--others", "--exclude-standard"]

theorem gives_run (args : List String) :
    (run w directory args).Gives (answer w directory args) [launched w directory args] := by
  refine (Calling.Gives.launch w directory _).bind_ok ?_
  rw [answer, launched]
  rcases (w.launch directory { program := "git", args := options ++ args }).result with
    e | _ | ⟨status, stdout, stderr⟩
  · exact .throw _
  · exact .throw _
  · exact .ofExcept _

/-- What is launched for the files; if the first call fails, nothing else. -/
def filesLaunches : List World.Launch :=
  launched w directory trackedArgs ::
    Calling.follow (answer w directory trackedArgs) fun _ => [launched w directory othersArgs]

theorem gives_files :
    (files w directory).Gives
      (do
        let tracked ← answer w directory trackedArgs
        let others ← answer w directory othersArgs
        return filesOf w directory (tracked.lines ++ others.lines))
      (filesLaunches w directory) := by
  refine (gives_run w directory trackedArgs).bind fun tracked _ => ?_
  exact (gives_run w directory othersArgs).bind_silent fun others _ => .pure _

theorem gives_diff (old : String) (new : Option String) :
    (diff w directory old new).Gives
      (((answer w directory (diffArgs old new)).mapError .git).map Answer.stdout)
      [launched w directory (diffArgs old new)] :=
  ((gives_run w directory (diffArgs old new)).adapt DiffError.git).bind_silent fun _ _ => .pure _

theorem gives_index (old : String) (new : Option String) :
    (index w directory old new).Gives
      (do
        let diff ← ((answer w directory (diffArgs old new)).mapError .git).map Answer.stdout
        (Diff.Index.ofDiff diff).mapError .malformed)
      [launched w directory (diffArgs old new)] :=
  (gives_diff w directory old new).bind_silent fun _ _ => .ofExcept _

end Git

/-! ## Linters -/

namespace Plan

variable (w : World) (c : Context) (p : Plan)

/-- What comes of a plan. -/
def outcome : Except Failure (List Message) :=
  match p with
  | tool call accepts read => do read (← (w.launch c.root call).output w.cancelled c.limit accepts)
  | check run => run w
  | refused reason => .error reason

/-- What a plan launches. -/
def launches : List World.Launch :=
  match p with
  | tool call _ _ => [w.launch c.root call]
  | check _ => []
  | refused _ => []

theorem gives_perform : (p.perform w c).Gives (outcome w c p) (launches w c p) := by
  cases p with
  | tool call accepts read =>
    have htool : (w.runTool c call accepts).Gives
        ((w.launch c.root call).output w.cancelled c.limit accepts) [w.launch c.root call] :=
      (Calling.Gives.launch w c.root call).bind_ok (.ofExcept _)
    exact htool.bind_silent fun out _ => .ofExcept (read out)
  | check run => exact .ofExcept (run w)
  | refused reason => exact .throw reason

end Plan

/-! ## Runs -/

namespace Run

variable (r : Run) (w : World)

/-- What a run launches for its index. -/
def indexLaunches : List World.Launch :=
  match r.request with
  | .everything => []
  | .changes old new => [Git.launched w r.root (Git.diffArgs old new)]

theorem gives_index : (r.index w).Gives (r.index w).result (r.indexLaunches w) := by
  have h : ∃ a, (r.index w).Gives a (r.indexLaunches w) := by
    rcases hr : r.request with _ | ⟨old, new⟩
    · simp only [index, indexLaunches, hr]
      exact ⟨_, .pure _⟩
    · simp only [index, indexLaunches, hr]
      obtain ⟨a, ha⟩ : ∃ a, (Git.index w r.root old new).Gives a
          [Git.launched w r.root (Git.diffArgs old new)] :=
        ⟨_, Git.gives_index w r.root old new⟩
      -- Only a call without end is a fault of the run.
      rcases a with (e | e) | i
      · cases e with
        | endless => exact ⟨_, ha.attempt.bind_ok (by exact .throw _)⟩
        | _ => exact ⟨_, ha.attempt.bind_ok (by exact .pure _)⟩
      · exact ⟨_, ha.attempt.bind_ok (by exact .pure _)⟩
      · exact ⟨_, ha.attempt.bind_ok (by exact .pure _)⟩
  obtain ⟨a, h⟩ := h
  exact h.gives_result

theorem result_index_changes {old : String} {new : Option String} {i : Diff.Index}
    (hr : r.request = .changes old new) (hi : (Git.index w r.root old new).result = .ok i) :
    (r.index w).result = .ok (some i, []) := by
  have h := (Git.gives_index w r.root old new).gives_result
  rw [hi] at h
  simp only [index, hr]
  exact (h.attempt.bind_ok (by exact .pure _)).result_eq

/-- What comes of a task. -/
def outcome (t : Task) (files : List String) : Outcome :=
  ⟨t, files, (Plan.ofOptions t.options (r.context t) files).outcome w (r.context t)⟩

/-- What a task launches. -/
def taskLaunches (t : Task) (files : List String) : List World.Launch :=
  (Plan.ofOptions t.options (r.context t) files).launches w (r.context t)

theorem gives_work (t : Task) (files : List String) :
    (r.work w t files).Gives (.ok (r.outcome w t files)) (r.taskLaunches w t files) :=
  (Plan.gives_perform w (r.context t) _).attempt.bind_ok (by exact .pure _)

/-- The outcomes of all tasks that have something to look at. -/
def outcomes (index : Option Diff.Index) (files : List String) : List Outcome :=
  (r.assignments (candidates index files)).map fun (t, files) => r.outcome w t files

/-- What all tasks launch that have something to look at. -/
def tasksLaunches (index : Option Diff.Index) (files : List String) : List World.Launch :=
  (r.assignments (candidates index files)).flatMap fun (t, files) => r.taskLaunches w t files

/-- What comes of a run with some outcomes. -/
def close (index : Option Diff.Index) (warnings : List String) (outcomes : List Outcome) :
    Except Fault Report :=
  match firstFault? outcomes with
  | some f => .error f
  | none => .ok (r.report index warnings outcomes)

/-- What comes of a run once its index and its files are known. -/
def dispatch (index : Option Diff.Index) (warnings files : List String) : Except Fault Report :=
  if w.cancelled then .error .cancelled else r.close index warnings (r.outcomes w index files)

theorem gives_perform :
    (r.perform w).Gives
      (do
        let (index, warnings) ← (r.index w).result
        let files ← (Git.files w r.root).result.mapError .git
        r.dispatch w index warnings files)
      (r.indexLaunches w ++ Calling.follow (r.index w).result fun (index, _) =>
        Git.filesLaunches w r.root ++ Calling.follow (Git.files w r.root).result fun files =>
          if w.cancelled then [] else r.tasksLaunches w index files) := by
  refine (r.gives_index w).bind fun (index, warnings) _ => ?_
  have hfiles := (Git.gives_files w r.root).gives_result.adapt Fault.git
  dsimp only
  rw [← Calling.follow_mapError]
  refine hfiles.bind fun files _ => ?_
  rw [dispatch]
  split
  · exact .throw _
  · have hwork : ((r.assignments (candidates index files)).mapM
        fun (t, files) => r.work w t files).Gives (.ok (r.outcomes w index files))
          (r.tasksLaunches w index files) :=
      .mapM (fun (t, files) => r.gives_work w t files) _
    refine hwork.bind_ok ?_
    rw [close]
    cases firstFault? (r.outcomes w index files) with
    | some f => exact .throw _
    | none => exact .pure _

/-- A run ends with a report if version control answers, nothing is to stop, and
    no outcome is a fault; the report is on the outcomes. -/
theorem perform_eq_ok_iff {log : List World.Launch} {report : Report} :
    ((r.perform w).run.run log).1 = .ok report ↔
      ∃ index warnings files, (r.index w).result = .ok (index, warnings) ∧
        (Git.files w r.root).result = .ok files ∧ w.cancelled = false ∧
          firstFault? (r.outcomes w index files) = none ∧
            report = r.report index warnings (r.outcomes w index files) := by
  rw [(r.gives_perform w).fst_run, (r.gives_perform w).result_eq]
  rcases (r.index w).result with e | ⟨index, warnings⟩
  · simp [Bind.bind, Except.bind]
  rcases (Git.files w r.root).result with e | files
  · refine iff_of_false nofun ?_
    rintro ⟨_, _, _, _, h, _⟩
    cases h
  have hdispatch : r.dispatch w index warnings files = .ok report ↔ w.cancelled = false ∧
      firstFault? (r.outcomes w index files) = none ∧
        report = r.report index warnings (r.outcomes w index files) := by
    rw [dispatch, close]
    split
    · next hw => simp [hw]
    · next hw =>
      split
      · next f hf => simp [hf]
      · next hf => simp [hf, hw, eq_comm]
  refine hdispatch.trans ⟨fun h => ⟨index, warnings, files, rfl, rfl, h⟩, ?_⟩
  rintro ⟨_, _, _, ⟨⟩, ⟨⟩, h⟩
  exact h

end Run

end Lintscope

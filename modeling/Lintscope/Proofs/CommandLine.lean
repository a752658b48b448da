import Lintscope.CommandLine
import Lintscope.Proofs.Run.Launches

/-!
# How a check ends

A check asks version control where the repository is, reads the settings and plans a
run, and only then is there anything to launch but version control
(`CommandLine.gives_check`). If it ends because of its arguments, its settings or
version control, or because it was stopped before it began, then no linter has been
called, and nothing is written but a complaint (`CommandLine.perform_check_of_early`).
-/

namespace Lintscope

namespace Git

variable (w : World) (directory : String)

/-- The arguments that ask for the root of the repository. -/
def rootArgs : List String := ["rev-parse", "--show-toplevel"]

theorem gives_root :
    (root w directory).Gives
      (((answer w directory rootArgs).mapError Error.aboutRepository).map Answer.stdout)
      [launched w directory rootArgs] :=
  ((gives_run w directory rootArgs).adapt Error.aboutRepository).bind_silent fun _ _ => .pure _

end Git

namespace CommandLine

variable (w : World) (directory : String) (a : CheckArgs)

/-- What a check launches once the root of the repository is known; nothing if there is
    no run. -/
def runLaunches (root : String) : List World.Launch :=
  Calling.follow (plan w a root) fun r => r.gitLaunches w ++ r.linterLaunches w

theorem gives_check :
    (check w directory a).Gives
      (do
        let root ← (Git.root w directory).result.mapError .git
        let r ← plan w a root
        (r.perform w).result)
      (Git.launched w directory Git.rootArgs ::
        Calling.follow (Git.root w directory).result (runLaunches w a)) := by
  have hroot := (Git.gives_root w directory).gives_result.adapt Fault.git
  rw [← Calling.follow_mapError]
  refine hroot.bind fun root _ => ?_
  exact (Calling.Gives.ofExcept (plan w a root)).bind fun r _ => r.gives_launches w

theorem root_of_plan {root : String} {r : Run} (h : plan w a root = .ok r) : r.root = root := by
  obtain ⟨settings, -, h⟩ := bind_eq_ok_iff.1 h
  obtain ⟨selection, -, h⟩ := bind_eq_ok_iff.1 h
  obtain ⟨tasks, -, h⟩ := bind_eq_ok_iff.1 h
  obtain ⟨jobs, -, h⟩ := bind_eq_ok_iff.1 h
  cases h
  rfl

/-- Let a check end because of its arguments, its settings or version control, or let it
    be stopped before it begins. Then it complains, and writes nothing else. Version
    control was asked for the root of the repository; if there was a run, it was asked
    for the diff, if any, and for the files, unless one of these calls was the last one;
    and nothing else was launched. -/
theorem perform_check_of_early {w : World} {directory : String} {a : CheckArgs} {f : Fault}
    (h : (check w directory a).result = .error f)
    (hf : f.isEarly = true ∨ w.cancelled = true ∧ f = .cancelled) :
    ∃ launches, perform w directory (.check a) =
        ({ code := f.exitCode, stdout := "", stderr := "Error: " ++ f.message ++ "\n" },
          Git.launched w directory Git.rootArgs :: launches) ∧
      (∀ l ∈ launches, l.call.program = "git") ∧
        (launches = [] ∨ ∃ root r, (Git.root w directory).result = .ok root ∧
          plan w a root = .ok r ∧
            launches <+: r.indexLaunches w ++
              [Git.launched w root Git.trackedArgs, Git.launched w root Git.othersArgs]) := by
  have hcheck := (gives_check w directory a).gives_result
  have hperform := hcheck []
  rw [h] at hperform
  have hcomplaint : f.complaint = "Error: " ++ f.message ++ "\n" := by
    refine Fault.complaint_of_ne ?_
    rintro rfl
    rcases hf with hf | ⟨-, hf⟩ <;> cases hf
  refine ⟨Calling.follow (Git.root w directory).result (runLaunches w a),
    by rw [perform, hperform, ← hcomplaint]; rfl, ?_⟩
  rw [(gives_check w directory a).result_eq] at h
  cases hroot : (Git.root w directory).result with
  | error e => exact ⟨fun l hl => (by cases hl), .inl rfl⟩
  | ok root =>
    rw [hroot] at h
    change (plan w a root >>= fun r => (r.perform w).result) = .error f at h
    rw [Calling.follow, runLaunches]
    cases hplan : plan w a root with
    | error e => exact ⟨fun l hl => (by cases hl), .inl rfl⟩
    | ok r =>
      rw [hplan] at h
      have hlinters := r.linterLaunches_eq_nil w h (hf.imp_right And.left)
      rw [Calling.follow, hlinters, List.append_nil]
      refine ⟨fun l hl => ?_, .inr ⟨root, r, rfl, hplan, ?_⟩⟩
      · obtain ⟨args, rfl⟩ := r.exists_args_of_mem_gitLaunches w hl
        rfl
      · have hprefix := r.gitLaunches_prefix w
        rwa [root_of_plan w a hplan] at hprefix

/-- A repository with settings that name a linter; its files that are not tracked are
    not to be had. -/
def brokenWorld : World where
  tree := ⟨[(["r", Settings.fileName], .file (Utf8.encode "linters: [flake8]\n".toList)),
    (["r", "a.py"], .file [])]⟩
  program?
    | "git" => some fun args _ =>
      if "--others" ∈ args then .ends (.code 1) [] []
      else .ends (.code 0) (Utf8.encode
        (if "rev-parse" ∈ args then "/r\n".toList else "a.py\n".toList)) []
    | "flake8" => some fun _ _ => .ends (.code 0) [] []
    | _ => none

/-- The error of version control about that repository. -/
def brokenError : Git.Error := .failed "ls-files" 1 ""

/-- The tracked files are listed in vain, and the linter is not called. -/
theorem perform_check_of_early_broken :
    (perform brokenWorld "/r" (.check {})).1.code = 3 ∧
      (perform brokenWorld "/r" (.check {})).1.stdout = "" ∧
        ∀ l ∈ (perform brokenWorld "/r" (.check {})).2, l.call.program = "git" := by
  have h : (check brokenWorld "/r" {}).result = .error (.git brokenError) := by
    have hresult : (match (check brokenWorld "/r" {}).result with
        | .error (.git e) => decide (e = brokenError)
        | _ => false) = true := by decide +kernel
    split at hresult
    · next e he => rw [he, of_decide_eq_true hresult]
    · cases hresult
  obtain ⟨launches, hperform, hgit, -⟩ := perform_check_of_early h (.inl rfl)
  rw [hperform]
  exact ⟨rfl, rfl, List.forall_mem_cons.2 ⟨rfl, hgit⟩⟩

end CommandLine

end Lintscope

import Lintscope.Proofs.Git.Files
import Lintscope.Proofs.Linter.Handover
import Lintscope.Proofs.Run.Reordering
import Lintscope.Proofs.Worklist

/-!
# What a run launches

A run launches version control first, and then its linters (`Run.gives_launches`).
Of the linters it launches none if it is stopped, or if it ends with a fault that is
not one of its linters' (`Run.linterLaunches_eq_nil`).

A run that ends with a report has called one program for each task that has files to
look at and a linter with a tool: no other program, none twice and none left out. It
has handed each of them the files of its task, all of them, each once and in the order
in which version control lists them (`Run.launches_perform`).
-/

namespace Lintscope

/-- Whether a fault is one of the command, the settings or version control, not one
    of a linter. -/
def Fault.isEarly : Fault → Bool
  | badPart _ | badJobs _ | noSettings .. | badSettings _ | badSelection _ | git _ => true
  | cancelled | hugePosition | endless => false

/-- No outcome is an early fault. -/
theorem Outcome.isEarly_eq_false {o : Outcome} {f : Fault} (h : o.fault? = some f) :
    f.isEarly = false := by
  rcases o.kind_of_fault? h with rfl | rfl | rfl <;> rfl

theorem Plan.launches_eq (w : World) (c : Context) (p : Plan) :
    p.launches w c = p.call?.toList.map (w.launch c.root) := by
  cases p <;> rfl

namespace Run

/-! ## Version control and linters -/

theorem exists_of_firstFault? {outcomes : List Outcome} {f : Fault}
    (h : firstFault? outcomes = some f) : ∃ o ∈ outcomes, o.fault? = some f := by
  have hmem : f ∈ outcomes.filterMap Outcome.fault? := by
    rw [firstFault?, Option.orElse_eq_some, Option.orElse_eq_some] at h
    rcases h with h | ⟨-, h | ⟨-, h⟩⟩
    · exact List.mem_of_find?_eq_some h
    · exact List.mem_of_find?_eq_some h
    · exact List.mem_of_head? h
  exact List.mem_filterMap.1 hmem

variable (r : Run) (w : World)

/-- What a run launches of version control. -/
def gitLaunches : List World.Launch :=
  r.indexLaunches w ++ Calling.follow (r.index w).result fun _ => Git.filesLaunches w r.root

/-- What a run launches for its linters; nothing if version control has not answered
    or all is to stop. -/
def linterLaunches : List World.Launch :=
  Calling.follow (r.index w).result fun (index, _) =>
    Calling.follow (Git.files w r.root).result fun files =>
      if w.cancelled then [] else r.tasksLaunches w index files

/-- A run launches version control, and then its linters. -/
theorem gives_launches :
    (r.perform w).Gives (r.perform w).result (r.gitLaunches w ++ r.linterLaunches w) := by
  have h := (r.gives_perform w).gives_result
  rw [gitLaunches, linterLaunches, List.append_assoc]
  cases hi : (r.index w).result with
  | error e =>
    rw [hi] at h
    exact h
  | ok found =>
    rw [hi] at h
    exact h

/-- Version control is asked for the diff, if it is, and for the files; a call that
    fails may be the last one. -/
theorem gitLaunches_prefix : r.gitLaunches w <+:
    r.indexLaunches w ++
      [Git.launched w r.root Git.trackedArgs, Git.launched w r.root Git.othersArgs] := by
  rw [gitLaunches, List.prefix_append_right_inj]
  cases (r.index w).result with
  | error e => exact List.nil_prefix
  | ok found =>
    rw [Calling.follow, Git.filesLaunches, List.cons_prefix_cons]
    refine ⟨rfl, ?_⟩
    cases Git.answer w r.root Git.trackedArgs with
    | error e => exact List.nil_prefix
    | ok tracked => exact List.prefix_rfl

theorem exists_args_of_mem_gitLaunches {l : World.Launch} (h : l ∈ r.gitLaunches w) :
    ∃ args, l = Git.launched w r.root args := by
  have hmem := (r.gitLaunches_prefix w).subset h
  rw [List.mem_append, List.mem_cons, List.mem_singleton] at hmem
  rcases hmem with hmem | rfl | rfl
  · rw [indexLaunches] at hmem
    split at hmem
    · cases hmem
    · exact ⟨_, List.mem_singleton.1 hmem⟩
  · exact ⟨_, rfl⟩
  · exact ⟨_, rfl⟩

/-- A run launches no linter if all is to stop, or if it ends with a fault that is not
    one of a linter. -/
theorem linterLaunches_eq_nil {f : Fault} (h : (r.perform w).result = .error f)
    (hf : f.isEarly = true ∨ w.cancelled = true) : r.linterLaunches w = [] := by
  rw [linterLaunches]
  rw [result_perform] at h
  cases hi : (r.index w).result with
  | error e => rfl
  | ok found =>
    obtain ⟨index, warnings⟩ := found
    cases hfiles : (Git.files w r.root).result with
    | error e => rfl
    | ok files =>
      rw [hi, hfiles] at h
      change r.dispatch w index warnings files = .error f at h
      change (if w.cancelled then [] else r.tasksLaunches w index files) = []
      cases hw : w.cancelled with
      | true => rfl
      | false =>
        -- The linters have worked, so the fault is one of theirs.
        have hearly : f.isEarly = true := hf.resolve_right (by simp [hw])
        rw [dispatch, hw, close] at h
        cases hfirst : firstFault? (r.outcomes w index files) with
        | none =>
          rw [hfirst] at h
          cases h
        | some g =>
          rw [hfirst] at h
          cases h
          obtain ⟨o, -, ho⟩ := exists_of_firstFault? hfirst
          exact absurd hearly (by simp [o.isEarly_eq_false ho])

/-! ## Tasks -/

section

variable (index : Option Diff.Index) (files : List String)

/-- The files that a task is about. -/
def own (t : Task) : List String :=
  worklist (candidates index files) r.commonFilter t.filter

/-- The call that is made for a task, if it has something to look at and its linter
    makes one. -/
def call? (t : Task) : Option World.Call :=
  if r.own index files t = [] then none
  else (Plan.ofOptions t.options (r.context t) (r.own index files t)).call?

/-- The calls that are made, each with the task it is made for. -/
def attempts : List (Task × World.Call) :=
  r.tasks.filterMap fun t => (r.call? index files t).map (t, ·)

theorem tasksLaunches_eq :
    r.tasksLaunches w index files =
      (r.attempts index files).map fun a => w.launch r.root a.2 := by
  have htasks : r.tasksLaunches w index files =
      r.tasks.flatMap fun t => (r.call? index files t).toList.map (w.launch r.root) := by
    rw [tasksLaunches, assignments, Filtered.flatMap_filter_eq (g := fun a =>
      (if a.2 = [] then none else (Plan.ofOptions a.1.options (r.context a.1) a.2).call?).toList.map
        (w.launch r.root)), List.flatMap_map]
    · rfl
    · rintro ⟨t, own⟩ - hown
      dsimp only at hown ⊢
      rw [if_neg (of_decide_eq_true hown)]
      exact Plan.launches_eq w (r.context t) _
    · rintro ⟨t, own⟩ - hown
      dsimp only at hown ⊢
      rw [if_pos (by simpa using hown)]
      rfl
  rw [htasks, attempts, List.filterMap_eq_flatMap_toList, List.map_flatMap]
  refine List.flatMap_congr fun t _ => ?_
  cases r.call? index files t <;> rfl

theorem isSome_call?_iff {t : Task} :
    (r.call? index files t).isSome = true ↔ r.own index files t ≠ [] ∧ t.options.Callable := by
  rw [call?]
  split
  · next h => simp [h]
  · next h => simp [h, Plan.isSome_call?_iff]

theorem map_fst_attempts :
    (r.attempts index files).map Prod.fst =
      r.tasks.filter fun t => r.own index files t ≠ [] ∧ t.options.Callable := by
  rw [attempts, List.map_filterMap, ← List.filterMap_eq_filter]
  refine List.filterMap_congr fun t _ => ?_
  have h := r.isSome_call?_iff index files (t := t)
  cases hcall : r.call? index files t <;> simp_all [Option.guard]

theorem nodup_own (h : files.Nodup) (t : Task) : (r.own index files t).Nodup := by
  have hcandidates : (candidates index files).Nodup := by
    cases index with
    | none => exact h
    | some i => exact h.filter _
  exact (hcandidates.filter _).filter _

/-- If no two tasks go by the same name, the worklists that are put down by name are
    those of the tasks. -/
theorem worklists_tasks (hids : (r.tasks.map Task.id).Nodup) :
    worklists (candidates index files) r.commonFilter (r.tasks.map fun t => (t.id, t.filter)) =
      r.tasks.map fun t => (t.id, r.own index files t) := by
  rw [worklists_eq_map (by rwa [List.map_map]), List.map_map]
  rfl

theorem mem_of_mem_own {t : Task} {name : String} (h : name ∈ r.own index files t) :
    name ∈ files :=
  mem_of_mem_candidates (mem_of_mem_worklist h)

end

/-- A run that ends with a report has launched version control, and then, for each of
    its tasks with something to look at and a linter that can be called, in their order,
    the tool of that linter; nothing else. The call is the one on no files with the
    files of the task put in, where these are the files of the repository that the diff
    may touch, if there is one, and that both filters keep, each once. -/
theorem launches_perform {r : Run} {w : World} {log log' : List World.Launch} {report : Report}
    (h : (r.perform w).run.run log = (.ok report, log')) :
    ∃ index warnings files, (r.index w).result = .ok (index, warnings) ∧
      (Git.files w r.root).result = .ok files ∧
        (∀ l ∈ r.gitLaunches w, ∃ args, l = Git.launched w r.root args) ∧
          ∃ attempts : List (Task × World.Call),
            log' = log ++ r.gitLaunches w ++ attempts.map (fun a => w.launch r.root a.2) ∧
              attempts.map Prod.fst =
                r.tasks.filter (fun t => r.own index files t ≠ [] ∧ t.options.Callable) ∧
                  ∀ a ∈ attempts, (r.own index files a.1).Nodup ∧
                    ∃ bare, (Plan.ofOptions a.1.options (r.context a.1) []).call? = some bare ∧
                      a.1.options.Hands bare a.2 (r.own index files a.1) := by
  have hlaunches := r.gives_launches w log
  rw [h] at hlaunches
  obtain ⟨hreport, rfl⟩ := Prod.mk.inj hlaunches
  obtain ⟨index, warnings, files, hindex, hfiles, hw, -, -⟩ :=
    result_perform_eq_ok_iff.1 hreport.symm
  have hlinters : r.linterLaunches w =
      (r.attempts index files).map fun a => w.launch r.root a.2 := by
    rw [linterLaunches, hindex, hfiles, ← tasksLaunches_eq]
    change (if w.cancelled then [] else r.tasksLaunches w index files) = _
    rw [hw, if_neg Bool.false_ne_true]
  refine ⟨index, warnings, files, hindex, hfiles,
    fun l => r.exists_args_of_mem_gitLaunches w, r.attempts index files,
    by rw [hlinters, List.append_assoc], r.map_fst_attempts index files, fun a ha => ?_⟩
  refine ⟨r.nodup_own index files (Git.nodup_files hfiles) a.1, ?_⟩
  obtain ⟨t, -, ht⟩ := List.mem_filterMap.1 ha
  obtain ⟨call, hcall, rfl⟩ := Option.map_eq_some_iff.1 ht
  rw [call?] at hcall
  split at hcall
  · cases hcall
  · -- What version control says of a file is one line, and its path has slashes only.
    refine Plan.exists_hands (fun name hname => ?_) hcall
    exact Git.isLine_of_mem_files hfiles name (r.mem_of_mem_own index files hname)

/-- A repository with a header whose name has a blank in it, and with two scripts, one
    of which is listed twice. -/
def mixedWorld : World where
  tree := ⟨[(["a b.h"], .file []), (["s.py"], .file []), (["t.py"], .file [])]⟩
  program?
    | "git" => some fun args _ =>
      .ends (.code 0) (Utf8.encode <|
        if "--cached" ∈ args then "a b.h\ns.py\n".toList else "t.py\ns.py\n".toList) []
    | "doxygen" | "flake8" => some fun _ _ => .ends (.code 0) [] []
    | _ => none

/-- A run over that repository. The command of one linter is none, another one has no
    tool, and the last one has nothing to look at. -/
def mixedRun : Run where
  root := "/"
  commonFilter := .all
  failOn := .error
  tasks := [⟨"flake8", Linter.flake8.filter, none, .flake8 none⟩,
    ⟨"cpplint", Linter.cpplint.filter, none, .cpplint { script := "cpplint '" }⟩,
    ⟨"whitespace", .all, none, .whitespace none⟩,
    ⟨"doxygen", Linter.doxygen.filter, none, .doxygen⟩,
    ⟨"yamllint", Linter.yamllint.filter, none, .yamllint none⟩]
  request := .everything
  jobs := 1

/-- Two tools are called, one for both scripts and one for the header. -/
theorem launches_perform_mixed :
    ∃ report log', (mixedRun.perform mixedWorld).run.run [] = (.ok report, log') ∧
      ∃ attempts : List (Task × World.Call),
        log' = mixedRun.gitLaunches mixedWorld ++
            attempts.map (fun a => mixedWorld.launch "/" a.2) ∧
          attempts.map (fun a => (a.1.id, mixedRun.own none ["a b.h", "s.py", "t.py"] a.1)) =
              [("flake8", ["s.py", "t.py"]), ("doxygen", ["a b.h"])] ∧
            ∀ a ∈ attempts, ∃ bare,
              a.1.options.Hands bare a.2 (mixedRun.own none ["a b.h", "s.py", "t.py"] a.1) := by
  have hi : (mixedRun.index mixedWorld).result = .ok (none, []) := rfl
  have hf : (Git.files mixedWorld mixedRun.root).result = .ok ["a b.h", "s.py", "t.py"] := rfl
  have hfaults : (mixedRun.outcomes mixedWorld none ["a b.h", "s.py", "t.py"]).all
      (·.fault?.isNone) = true := by decide +kernel
  have hreport : (mixedRun.perform mixedWorld).result =
      .ok (mixedRun.found mixedWorld none [] ["a b.h", "s.py", "t.py"]) :=
    (result_perform_eq_ok_iff_of_files hi hf rfl).2
      ⟨fun o ho => Option.isNone_iff_eq_none.1 (List.all_eq_true.1 hfaults o ho), rfl⟩
  have h := mixedRun.gives_launches mixedWorld []
  rw [hreport] at h
  obtain ⟨index, warnings, files, hi', hf', -, attempts, hlog, htasks, hown⟩ := launches_perform h
  obtain ⟨rfl, rfl⟩ := Prod.mk.inj (Except.ok.inj (hi.symm.trans hi'))
  obtain rfl := Except.ok.inj (hf.symm.trans hf')
  refine ⟨_, _, h, attempts, hlog, ?_, fun a ha => ?_⟩
  · have hmap : attempts.map (fun a => (a.1.id, mixedRun.own none ["a b.h", "s.py", "t.py"] a.1)) =
        (attempts.map Prod.fst).map fun t =>
          (t.id, mixedRun.own none ["a b.h", "s.py", "t.py"] t) := by
      rw [List.map_map]
      rfl
    rw [hmap, htasks]
    decide +kernel
  · obtain ⟨-, bare, -, hbare⟩ := hown a ha
    exact ⟨bare, hbare⟩

end Run

end Lintscope

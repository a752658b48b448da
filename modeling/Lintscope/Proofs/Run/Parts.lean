import Lintscope.Proofs.Run.Accounting
import Lintscope.Proofs.Run.Narrowing
import Lintscope.Proofs.Run.Verdict
import Lintscope.Proofs.Settings.Part
import Mathlib.Algebra.BigOperators.Group.List.Basic
import Mathlib.Algebra.GroupWithZero.Nat
import Mathlib.Data.List.Perm.Basic

/-!
# Runs of parts

The tasks of a run may be shared out to several runs, each of which does one part
of them. Together these find what the one run finds, and a part finds what its
own tasks find in the one run, in the same order (`Run.perform_parts`).

What comes of a task depends on the run, the index and the files only, and not on
the other tasks (`Run.outcomes_eq_filterMap`). So the outcomes are shared out as
the tasks are (`Run.perm_outcomes_part`), and all that a report says is put
together from what it says of each outcome.
-/

namespace Lintscope.Run

/-! ## Outcomes -/

section

variable (r : Run) (w : World) (index : Option Diff.Index) (files : List String)

/-- What comes of a task, if it has something to look at. -/
def outcome? (t : Task) : Option Outcome :=
  let own := worklist (candidates index files) r.commonFilter t.filter
  if own ≠ [] then some (r.outcome w t own) else none

theorem outcomes_eq_filterMap :
    r.outcomes w index files = r.tasks.filterMap (r.outcome? w index files) := by
  rw [outcomes, assignments, ← List.filterMap_eq_filter, ← List.filterMap_eq_map,
    List.filterMap_filterMap, List.filterMap_map]
  refine List.filterMap_congr fun t _ => ?_
  by_cases h : worklist (candidates index files) r.commonFilter t.filter = [] <;>
    simp [outcome?, Option.guard, h]

theorem task_of_outcome? {t : Task} {o : Outcome} (h : r.outcome? w index files t = some o) :
    o.task = t := by
  rw [outcome?] at h
  split at h
  · cases h
    rfl
  · cases h

/-- The run that does a part of the tasks. -/
def part (p : Part) : Run := { r with tasks := p.of r.tasks }

/-- The outcomes are shared out as the tasks are. -/
theorem perm_outcomes_part {count : Nat} (hcount : 0 < count) :
    ((Part.all count).flatMap fun p => (r.part p).outcomes w index files).Perm
      (r.outcomes w index files) := by
  have hparts : ((Part.all count).flatMap fun p => (r.part p).outcomes w index files) =
      ((Part.all count).flatMap (·.of r.tasks)).filterMap (r.outcome? w index files) := by
    rw [List.filterMap_flatMap]
    exact List.flatMap_congr fun p _ => (r.part p).outcomes_eq_filterMap w index files
  rw [hparts, outcomes_eq_filterMap]
  exact (Part.perm_flatMap_of hcount r.tasks).filterMap _

/-- If no two tasks have the same name, the outcomes of a part are those that bear
    one of its names. -/
theorem outcomes_part (hids : (r.tasks.map Task.id).Nodup) (p : Part) :
    (r.part p).outcomes w index files =
      (r.outcomes w index files).filter (·.task.id ∈ (p.of r.tasks).map Task.id) := by
  have hnames : r.tasks.filter (·.id ∈ (p.of r.tasks).map Task.id) = p.of r.tasks :=
    Filtered.filter_mem_map_eq_of_sublist (p.sublist_of r.tasks) hids
  have htasks : (r.part p).tasks =
      r.tasks.filter (·.id ∈ (p.of r.tasks).map Task.id) := hnames.symm
  rw [outcomes_eq_filterMap, outcomes_eq_filterMap, htasks, List.filter_filterMap,
    List.filterMap_filter]
  refine List.filterMap_congr fun t _ => ?_
  -- What comes of a task bears the name of the task.
  change (if _ then r.outcome? w index files t else none) = _
  cases ho : r.outcome? w index files t with
  | none => simp
  | some o =>
    rw [Option.filter_some, task_of_outcome? r w index files ho]

end

/-! ## Reports -/

section

variable (r : Run) (w : World) (index : Option Diff.Index) (warnings files : List String)

/-- The report of a run with some index, warnings and files. -/
def found : Report := r.report index warnings (r.outcomes w index files)

section

variable {count : Nat} (hcount : 0 < count)
include hcount

theorem perm_entries_found :
    (r.found w index warnings files).entries.Perm
      ((Part.all count).flatMap fun p => ((r.part p).found w index warnings files).entries) := by
  -- The entries of a report are sorted, the order of the outcomes is of no matter.
  refine (r.perm_entries_report warnings index _).trans ?_
  refine ((r.perm_outcomes_part w index files hcount).symm.flatMap_right _).trans ?_
  rw [List.flatMap_assoc]
  exact .flatMap_left _ fun p _ => ((r.part p).perm_entries_report warnings index _).symm

theorem dropped_found :
    (r.found w index warnings files).dropped =
      ((Part.all count).map fun p => ((r.part p).found w index warnings files).dropped).sum := by
  have hsum := ((r.perm_outcomes_part w index files hcount).map (·.dropped index)).sum_eq
  rw [found, dropped_report_eq_sum, ← hsum, List.map_flatMap, List.flatMap_def, List.sum_flatten,
    List.map_map]
  exact congrArg List.sum (List.map_congr_left fun p _ =>
    ((r.part p).dropped_report_eq_sum warnings index _).symm)

theorem exitCode_found :
    (r.found w index warnings files).exitCode = 1 ↔
      ∃ p ∈ Part.all count, ((r.part p).found w index warnings files).exitCode = 1 := by
  have hone : ∀ r : Run, (r.found w index warnings files).exitCode = 1 ↔
      ∃ o ∈ r.outcomes w index files, o.fails index r.failOn = true := by
    intro r
    rw [found, exitCode_report, ← List.any_eq_true]
    split <;> simp_all
  simp only [hone, ← (r.perm_outcomes_part w index files hcount).mem_iff, List.mem_flatMap]
  exact ⟨fun ⟨o, ⟨p, hp, ho⟩, hf⟩ => ⟨p, hp, o, ho, hf⟩,
    fun ⟨p, hp, o, ho, hf⟩ => ⟨o, ⟨p, hp, ho⟩, hf⟩⟩

end

theorem entries_found : (r.found w index warnings files).entries =
    ((r.outcomes w index files).flatMap (·.entries index)).mergeSort
      fun a b => (a.compare b).isLE :=
  rfl

/-- The entries of a part are those of its linters, in their order. -/
theorem entries_found_part (hids : (r.tasks.map Task.id).Nodup) (p : Part) :
    ((r.part p).found w index warnings files).entries =
      (r.found w index warnings files).entries.filter
        (·.linter ∈ (p.of r.tasks).map Task.id) := by
  have hentries := Outcome.filter_flatMap_entries
    (fun id => decide (id ∈ (p.of r.tasks).map Task.id)) index (r.outcomes w index files)
  rw [entries_found, entries_found, outcomes_part r w index files hids, ← hentries]
  exact (Filtered.filter_mergeSort Entry.isLE_compare_trans Entry.isLE_compare_total _ _).symm

end

/-! ## Results -/

theorem firstFault?_eq_none_iff {outcomes : List Outcome} :
    firstFault? outcomes = none ↔ ∀ o ∈ outcomes, o.fault? = none := by
  refine ⟨fun h => ?_, firstFault?_eq_none⟩
  rw [← List.filterMap_eq_nil_iff]
  cases hfaults : outcomes.filterMap Outcome.fault? with
  | nil => rfl
  | cons f fs =>
    -- The last resort is the first fault, whatever it is.
    have hlast : ∀ a b : Option Fault, (a <|> b <|> some f) ≠ none := by
      rintro (_ | _) (_ | _) <;> nofun
    rw [firstFault?, hfaults] at h
    exact absurd h (hlast _ _)

section

variable {r : Run} {w : World} {report : Report}

theorem result_perform_eq_ok_iff :
    (r.perform w).result = .ok report ↔
      ∃ index warnings files, (r.index w).result = .ok (index, warnings) ∧
        (Git.files w r.root).result = .ok files ∧ w.cancelled = false ∧
          (∀ o ∈ r.outcomes w index files, o.fault? = none) ∧
            report = r.found w index warnings files := by
  rw [Calling.result, perform_eq_ok_iff]
  simp only [firstFault?_eq_none_iff, found]

/-- Once version control has answered and nothing is to stop, a run comes to a
    report, unless one of its linters breaks it off. -/
theorem result_perform_eq_ok_iff_of_files {index : Option Diff.Index} {warnings files : List String}
    (hi : (r.index w).result = .ok (index, warnings))
    (hf : (Git.files w r.root).result = .ok files) (hw : w.cancelled = false) :
    (r.perform w).result = .ok report ↔
      (∀ o ∈ r.outcomes w index files, o.fault? = none) ∧
        report = r.found w index warnings files := by
  rw [result_perform_eq_ok_iff]
  constructor
  · rintro ⟨index', warnings', files', hi', hf', -, hfaults, hreport⟩
    obtain ⟨rfl, rfl⟩ := Prod.mk.inj (Except.ok.inj (hi.symm.trans hi'))
    obtain rfl := Except.ok.inj (hf.symm.trans hf')
    exact ⟨hfaults, hreport⟩
  · exact fun ⟨hfaults, hreport⟩ => ⟨index, warnings, files, hi, hf, hw, hfaults, hreport⟩

end

/-- Settings name tasks, a selection chooses some of them, and a count shares these
    out. Let version control answer, and let nothing be to stop. Then the run of all
    the chosen tasks comes to a report if no linter breaks it off, and that is if
    the run of each part comes to a report. The entries of the one report are the
    entries of the reports on the parts taken together, and what it dropped is what
    they dropped. The entries of a part are those that its linters have in the one
    report, in the same order. And the one run fails if the run of a part does. -/
theorem perform_parts {text : String} {s : Settings} (hs : Settings.parse text = .ok s)
    {sel : Selection} (hsel : sel.part = none)
    (hnames : ∀ name ∈ sel.names, name ∈ s.tasks.map Task.id) {count : Nat} (hcount : 0 < count)
    (r : Run) {w : World} {index : Option Diff.Index} {warnings files : List String}
    (hi : (r.index w).result = .ok (index, warnings))
    (hf : (Git.files w r.root).result = .ok files) (hw : w.cancelled = false) :
    ∃ tasks, sel.of s.tasks = .ok tasks ∧
      (∀ p : Part, { sel with part := some p }.of s.tasks = .ok (p.of tasks)) ∧
      ((∃ whole, ({ r with tasks }.perform w).result = .ok whole) ↔
        ∀ o ∈ { r with tasks }.outcomes w index files, o.fault? = none) ∧
      ((∃ whole, ({ r with tasks }.perform w).result = .ok whole) ↔
        ∀ p ∈ Part.all count, ∃ part,
          ({ r with tasks := p.of tasks }.perform w).result = .ok part) ∧
      ∀ (whole : Report) (parts : Part → Report),
        ({ r with tasks }.perform w).result = .ok whole →
        (∀ p ∈ Part.all count,
          ({ r with tasks := p.of tasks }.perform w).result = .ok (parts p)) →
        whole.entries.Perm ((Part.all count).flatMap fun p => (parts p).entries) ∧
        whole.dropped = ((Part.all count).map fun p => (parts p).dropped).sum ∧
        (∀ p ∈ Part.all count, (parts p).entries =
          whole.entries.filter (·.linter ∈ (p.of tasks).map Task.id)) ∧
        (whole.exitCode = 1 ↔ ∃ p ∈ Part.all count, (parts p).exitCode = 1) := by
  obtain ⟨tasks, hsub, htasks, hparts⟩ := Selection.of_part hsel hnames
  have hids : (tasks.map Task.id).Nodup := (Settings.nodup_ids hs).sublist (hsub.map Task.id)
  -- The index and the files do not depend on the tasks.
  have hresult : ∀ (ts : List Task) (report : Report),
      ({ r with tasks := ts }.perform w).result = .ok report ↔
        (∀ o ∈ { r with tasks := ts }.outcomes w index files, o.fault? = none) ∧
          report = { r with tasks := ts }.found w index warnings files :=
    fun ts _ => result_perform_eq_ok_iff_of_files (r := { r with tasks := ts }) hi hf hw
  have hmem := fun o =>
    (perm_outcomes_part { r with tasks } w index files hcount).mem_iff (a := o)
  refine ⟨tasks, htasks, hparts, ?_, ?_, ?_⟩
  · simp only [hresult, exists_and_left, exists_eq, and_true]
  · simp only [hresult, exists_and_left, exists_eq, and_true, ← hmem, List.mem_flatMap]
    exact ⟨fun h p hp o ho => h o ⟨p, hp, ho⟩, fun h o ⟨p, hp, ho⟩ => h p hp o ho⟩
  · intro whole parts hwhole hpart
    obtain ⟨-, rfl⟩ := (hresult _ _).1 hwhole
    have heq : ∀ p ∈ Part.all count,
        parts p = (part { r with tasks } p).found w index warnings files :=
      fun p hp => ((hresult _ _).1 (hpart p hp)).2
    refine ⟨?_, ?_, fun p hp => ?_, ?_⟩
    · rw [List.flatMap_congr fun p hp => congrArg Report.entries (heq p hp)]
      exact perm_entries_found _ w index warnings files hcount
    · rw [List.map_congr_left fun p hp => congrArg Report.dropped (heq p hp)]
      exact dropped_found _ w index warnings files hcount
    · rw [heq p hp]
      exact entries_found_part { r with tasks } w index warnings files hids p
    · rw [exitCode_found _ w index warnings files hcount]
      exact exists_congr fun p => and_congr_right fun hp => by rw [heq p hp]

/-- A text that names two linters. -/
def sharedText : String := "linters:\n- flake8\n- whitespace\n"

/-- The settings in that text. -/
def sharedSettings : Settings := (Settings.parse sharedText).toOption.getD {}

/-- A repository with a file that both linters have something to say about. -/
def sharedWorld : World where
  tree := ⟨[(["a.py"], .file (Utf8.encode "x \n".toList))]⟩
  program?
    | "git" => some fun args _ =>
      .ends (.code 0) (Utf8.encode (if "--cached" ∈ args then "a.py\n".toList else [])) []
    | "flake8" => some fun _ _ => .ends (.code 1) (Utf8.encode "a.py:1:1: E1 x\n".toList) []
    | _ => none

/-- A run over that repository. -/
def sharedRun : Run where
  root := "/"
  commonFilter := .all
  failOn := .warning
  tasks := sharedSettings.tasks
  request := .everything
  jobs := 1

theorem parse_sharedText : Settings.parse sharedText = .ok sharedSettings := by
  have hsome : (Settings.parse sharedText).toOption.isSome = true := by decide +kernel
  rw [sharedSettings]
  cases h : Settings.parse sharedText with
  | ok s => rfl
  | error e =>
    rw [h] at hsome
    cases hsome

/-- Two linters are shared out to three runs, of which the last has nothing to do. -/
theorem perform_parts_shared :
    ∃ whole : Report, (sharedRun.perform sharedWorld).result = .ok whole ∧
      whole.entries.length = 2 ∧ whole.exitCode = 1 ∧
        ∃ parts : Part → Report,
          (∀ p ∈ Part.all 3, ((sharedRun.part p).perform sharedWorld).result = .ok (parts p)) ∧
            whole.entries.Perm ((Part.all 3).flatMap fun p => (parts p).entries) ∧
              ∃ p ∈ Part.all 3, (parts p).exitCode = 1 := by
  have hi : (sharedRun.index sharedWorld).result = .ok (none, []) := rfl
  have hf : (Git.files sharedWorld sharedRun.root).result = .ok ["a.py"] := rfl
  have hsel : ({} : Selection).part = none := rfl
  have hchosen : sharedSettings.tasks.filter ({} : Selection).admits = sharedRun.tasks :=
    List.filter_eq_self.2 fun t _ => rfl
  obtain ⟨tasks, htasks, -, hwhole, hparts, hsum⟩ := perform_parts parse_sharedText hsel nofun
    (Nat.succ_pos 2) sharedRun hi hf rfl
  obtain rfl : tasks = sharedRun.tasks :=
    (Except.ok.inj (htasks.symm.trans (Selection.of_eq_ok nofun))).trans hchosen
  have hfaults : (sharedRun.outcomes sharedWorld none ["a.py"]).all (·.fault?.isNone) = true := by
    decide +kernel
  obtain ⟨whole, hresult⟩ := hwhole.2 fun o ho =>
    Option.isNone_iff_eq_none.1 (List.all_eq_true.1 hfaults o ho)
  have hpart : ∀ p ∈ Part.all 3, ((sharedRun.part p).perform sharedWorld).result =
      .ok ((sharedRun.part p).found sharedWorld none [] ["a.py"]) := by
    intro p hp
    obtain ⟨part, hpart⟩ := hparts.1 ⟨whole, hresult⟩ p hp
    have hi' : ((sharedRun.part p).index sharedWorld).result = .ok (none, []) := hi
    have hf' : (Git.files sharedWorld (sharedRun.part p).root).result = .ok ["a.py"] := hf
    obtain ⟨-, rfl⟩ := (result_perform_eq_ok_iff_of_files hi' hf' rfl).1 hpart
    exact hpart
  obtain ⟨hperm, -, -, hexit⟩ := hsum whole _ hresult hpart
  have hfound : whole = sharedRun.found sharedWorld none [] ["a.py"] :=
    ((result_perform_eq_ok_iff_of_files (r := sharedRun) hi hf rfl).1 hresult).2
  rw [hfound] at hresult hperm hexit
  have hfails : (sharedRun.outcomes sharedWorld none ["a.py"]).any
      (·.fails none sharedRun.failOn) = true := by decide +kernel
  have hcode : (sharedRun.found sharedWorld none [] ["a.py"]).exitCode = 1 := by
    rw [found, exitCode_report, if_pos hfails]
  have hlength := (sharedRun.perm_entries_report [] none
    (sharedRun.outcomes sharedWorld none ["a.py"])).length_eq
  have htwo : ((sharedRun.outcomes sharedWorld none ["a.py"]).flatMap (·.entries none)).length = 2 :=
    by decide +kernel
  exact ⟨_, hresult, hlength.trans htwo, hcode, _, hpart, hperm, hexit.1 hcode⟩

end Lintscope.Run

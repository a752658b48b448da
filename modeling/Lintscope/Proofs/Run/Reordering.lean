import Lintscope.Proofs.Run.Parts

/-!
# Runs with their tasks in another order

The tasks of a run may stand in any order, and any number of linters may work at
a time: what the run finds is the same, in the same order (`Run.perform_perm`).

Entries that a report leaves in the order in which they came are alike in their
linter too (`Entry.linter_eq_of_isLE`). If no two tasks go by the same name, such
entries are from one outcome, so it does not matter in which order the outcomes
are put together (`Run.report_of_perm`). Nor does it matter which of several
faults came first, since what breaks off a run before all else does so wherever it
stands (`Run.firstFault?_of_perm`).
-/

namespace Lintscope

theorem Entry.linter_eq_of_isLE {a b : Entry} (hab : (a.compare b).isLE)
    (hba : (b.compare a).isLE) : a.linter = b.linter := by
  have heq : a.compare b = .eq := Std.OrientedCmp.isLE_antisymm hab hba
  simp only [Entry.compare, Ordering.then_eq_eq] at heq
  exact Std.compare_eq_iff_eq.1 heq.2.2.1

/-- A fault that is an outcome is one of three. -/
theorem Outcome.kind_of_fault? {o : Outcome} {f : Fault} (h : o.fault? = some f) :
    f = .endless ∨ f = .hugePosition ∨ f = .cancelled := by
  rw [fault?] at h
  cases hr : o.result with
  | ok ms =>
    rw [hr] at h
    cases h
  | error e =>
    rw [hr] at h
    cases e <;> simp_all [Fault.ofFailure?]

namespace Run

/-! ## Outcomes in another order -/

/-- Which fault breaks off a run before the others does not depend on their order,
    where `p` and `q` tell the two that come before a stop. -/
theorem first_of_perm {faults faults' : List Fault} (h : faults'.Perm faults)
    (hkind : ∀ f ∈ faults, f = .endless ∨ f = .hugePosition ∨ f = .cancelled)
    {p q : Fault → Bool} (hp : ∀ f, p f = true ↔ f = .endless)
    (hq : ∀ f, q f = true ↔ f = .hugePosition) :
    (faults'.find? p <|> faults'.find? q <|> faults'.head?) =
      (faults.find? p <|> faults.find? q <|> faults.head?) := by
  have hfind : ∀ (p : Fault → Bool) (f : Fault), (∀ g, p g = true ↔ g = f) →
      faults'.find? p = faults.find? p := fun p f hp =>
    Filtered.find?_eq_of_perm h fun a _ b _ ha hb => ((hp a).1 ha).trans ((hp b).1 hb).symm
  rw [hfind p _ hp, hfind q _ hq]
  cases hendless : faults.find? p with
  | some f => rfl
  | none =>
    cases hhuge : faults.find? q with
    | some f => rfl
    | none =>
      -- What is left are stops, and all of them are alike.
      have hstop : ∀ f ∈ faults, f = .cancelled := by
        intro f hf
        rcases hkind f hf with rfl | rfl | rfl
        · exact absurd ((hp _).2 rfl) (List.find?_eq_none.1 hendless _ hf)
        · exact absurd ((hq _).2 rfl) (List.find?_eq_none.1 hhuge _ hf)
        · rfl
      rw [List.eq_replicate_of_mem hstop] at h ⊢
      rw [List.perm_replicate.1 h]

section

variable {outcomes outcomes' : List Outcome} (h : outcomes'.Perm outcomes)
include h

theorem firstFault?_of_perm : firstFault? outcomes' = firstFault? outcomes := by
  have hkind : ∀ f ∈ outcomes.filterMap Outcome.fault?,
      f = .endless ∨ f = .hugePosition ∨ f = .cancelled := by
    intro f hf
    obtain ⟨o, -, ho⟩ := List.mem_filterMap.1 hf
    exact Outcome.kind_of_fault? ho
  rw [firstFault?, firstFault?]
  refine first_of_perm (h.filterMap Outcome.fault?) hkind ?_ ?_
  · rintro (_ | _) <;> simp
  · rintro (_ | _) <;> simp

section

variable (r : Run) (index : Option Diff.Index) (warnings : List String)
  (hids : (outcomes.map (·.task.id)).Nodup)
include hids

theorem entries_report_of_perm :
    (r.report index warnings outcomes').entries = (r.report index warnings outcomes).entries := by
  have hsorted : ∀ outcomes, (r.report index warnings outcomes).entries.Pairwise
      fun a b => (a.compare b).isLE := fun _ => Report.pairwise_entries_sort _
  have hlinter : ∀ a b : Entry, (a.compare b).isLE → (b.compare a).isLE → a.linter = b.linter :=
    fun _ _ => Entry.linter_eq_of_isLE
  refine Filtered.eq_of_filter_key_eq hlinter (hsorted _) (hsorted _) fun id => ?_
  -- One outcome at most bears the id, and a stable sort keeps its entries in their order.
  rw [report, report, Report.filter_entries_sort, Report.filter_entries_sort]
  dsimp only
  rw [Outcome.filter_flatMap_entries (· = id), Outcome.filter_flatMap_entries (· = id),
    Filtered.filter_key_eq_of_perm h hids]

theorem report_of_perm :
    r.report index warnings outcomes' = r.report index warnings outcomes := by
  have hentries := entries_report_of_perm h r index warnings hids
  have hdropped : (r.report index warnings outcomes').dropped =
      (r.report index warnings outcomes).dropped := by
    rw [dropped_report_eq_sum, dropped_report_eq_sum, (h.map _).sum_eq]
  rw [Report.mk.injEq]
  exact ⟨rfl, rfl, rfl, rfl, hdropped, hentries⟩

/-- A run with its tasks in another order makes the same of the outcomes, but that
    it names its linters in that order. -/
theorem close_of_perm (tasks : List Task) (jobs : Nat) :
    { r with tasks, jobs }.close index warnings outcomes' =
      (r.close index warnings outcomes).map fun report =>
        { report with linters := tasks.map Task.id } := by
  rw [close, close, firstFault?_of_perm h]
  cases firstFault? outcomes with
  | some f => rfl
  | none =>
    have hreport : { r with tasks, jobs }.report index warnings outcomes' =
        { r.report index warnings outcomes' with linters := tasks.map Task.id } := rfl
    exact congrArg Except.ok (by rw [hreport, report_of_perm h r index warnings hids])

end

end

/-! ## Tasks in another order -/

section

variable (r : Run) (w : World)

theorem result_perform : (r.perform w).result =
    (do
      let (index, warnings) ← (r.index w).result
      let files ← (Git.files w r.root).result.mapError .git
      r.dispatch w index warnings files) :=
  (r.gives_perform w).result_eq

section

variable (index : Option Diff.Index) (files : List String)

theorem nodup_ids_outcomes (hids : (r.tasks.map Task.id).Nodup) :
    ((r.outcomes w index files).map (·.task.id)).Nodup := by
  rw [outcomes_eq_filterMap]
  refine List.pairwise_map.2 ((List.pairwise_map.1 hids).filterMap _ fun t t' hne o ho o' ho' => ?_)
  rw [task_of_outcome? r w index files ho, task_of_outcome? r w index files ho']
  exact hne

/-- Each task has its outcome, wherever it stands among the others. -/
theorem perm_outcomes_of_perm {tasks : List Task} (hperm : tasks.Perm r.tasks) {jobs : Nat}
    (hsame : ∀ t ∈ r.tasks,
      { r with jobs }.outcome? w index files t = r.outcome? w index files t) :
    ({ r with tasks, jobs }.outcomes w index files).Perm (r.outcomes w index files) := by
  rw [outcomes_eq_filterMap, outcomes_eq_filterMap, List.filterMap_congr (g := r.outcome? w index files)]
  · exact hperm.filterMap _
  · exact fun t ht => hsame t (hperm.mem_iff.1 ht)

end

/-- Let no two tasks of a run go by the same name, and let nothing come of them
    that hangs on how many linters work at a time. Then the run with its tasks in
    another order, and with any number of linters at work, ends as the run does; its
    report differs in nothing but the list of the linters. And if version control
    answers and no linter breaks off the run, then there is a report, it is the same
    in whatever order the outcomes are put together, and so is its exit code. -/
theorem perform_perm {tasks : List Task} (hperm : tasks.Perm r.tasks)
    (hids : (r.tasks.map Task.id).Nodup) (jobs : Nat)
    (hsame : ∀ index warnings files, (r.index w).result = .ok (index, warnings) →
      (Git.files w r.root).result = .ok files → ∀ t ∈ r.tasks,
        { r with jobs }.outcome? w index files t = r.outcome? w index files t) :
    ({ r with tasks, jobs }.perform w).result =
        ((r.perform w).result.map fun report => { report with linters := tasks.map Task.id }) ∧
      ∀ index warnings files, (r.index w).result = .ok (index, warnings) →
        (Git.files w r.root).result = .ok files → w.cancelled = false →
          (∀ o ∈ r.outcomes w index files, o.fault? = none) →
            ∃ report report', (r.perform w).result = .ok report ∧
              ({ r with tasks, jobs }.perform w).result = .ok report' ∧
                report' = { report with linters := tasks.map Task.id } ∧
                  report'.exitCode = report.exitCode ∧
                    ∀ outcomes, outcomes.Perm (r.outcomes w index files) →
                      r.report index warnings outcomes = report := by
  have hresult : ({ r with tasks, jobs }.perform w).result =
      (r.perform w).result.map fun report => { report with linters := tasks.map Task.id } := by
    rw [result_perform, result_perform]
    have hindex : { r with tasks, jobs }.index w = r.index w := rfl
    rw [hindex]
    rcases hi : (r.index w).result with e | ⟨index, warnings⟩
    · rfl
    rcases hf : (Git.files w r.root).result with e | files
    · rfl
    change { r with tasks, jobs }.dispatch w index warnings files =
      (r.dispatch w index warnings files).map _
    rw [dispatch, dispatch]
    cases w.cancelled with
    | true => rfl
    | false =>
      exact close_of_perm (r.perm_outcomes_of_perm w index files hperm (hsame _ _ _ hi hf)) r index
        warnings (r.nodup_ids_outcomes w index files hids) tasks jobs
  refine ⟨hresult, fun index warnings files hi hf hw hfaults => ?_⟩
  have hreport : (r.perform w).result = .ok (r.found w index warnings files) :=
    (result_perform_eq_ok_iff_of_files hi hf hw).2 ⟨hfaults, rfl⟩
  refine ⟨_, _, hreport, by rw [hresult, hreport]; rfl, rfl, rfl, fun outcomes hperm' => ?_⟩
  exact report_of_perm hperm' r index warnings (r.nodup_ids_outcomes w index files hids)

end

/-- A repository with a file about which one linter says the same twice, but not as
    gravely, and another one says something about the same place. -/
def tiedWorld : World where
  tree := ⟨[(["a.py"], .file [])]⟩
  program?
    | "git" => some fun args _ =>
      .ends (.code 0) (Utf8.encode (if "--cached" ∈ args then "a.py\n".toList else [])) []
    | "yamllint" => some fun _ _ =>
      .ends (.code 1) (Utf8.encode "a.py:1:1: [error] x\na.py:1:1: [warning] x\n".toList) []
    | "flake8" => some fun _ _ => .ends (.code 1) (Utf8.encode "a.py:1:1: E1 x\n".toList) []
    | _ => none

/-- A run over that repository. -/
def tiedRun : Run where
  root := "/"
  commonFilter := .all
  failOn := .error
  tasks := [⟨"yamllint", .all, none, .yamllint none⟩, ⟨"flake8", .all, none, .flake8 none⟩]
  request := .everything
  jobs := 1

/-- The other linter comes first, and it is told that eight may work at a time. -/
theorem perform_perm_tied :
    tiedRun.tasks.reverse.Perm tiedRun.tasks ∧ (tiedRun.tasks.map Task.id).Nodup ∧
      ∃ report report', (tiedRun.perform tiedWorld).result = .ok report ∧
        ({ tiedRun with tasks := tiedRun.tasks.reverse, jobs := 8 }.perform tiedWorld).result =
          .ok report' ∧
            report'.entries = report.entries ∧ report'.exitCode = 1 ∧
              report'.linters = ["flake8", "yamllint"] := by
  have hperm : tiedRun.tasks.reverse.Perm tiedRun.tasks := List.reverse_perm _
  have hids : (tiedRun.tasks.map Task.id).Nodup := by decide
  have hi : (tiedRun.index tiedWorld).result = .ok (none, []) := rfl
  have hf : (Git.files tiedWorld tiedRun.root).result = .ok ["a.py"] := rfl
  have hsame : ∀ index warnings files, (tiedRun.index tiedWorld).result = .ok (index, warnings) →
      (Git.files tiedWorld tiedRun.root).result = .ok files → ∀ t ∈ tiedRun.tasks,
        { tiedRun with jobs := 8 }.outcome? tiedWorld index files t =
          tiedRun.outcome? tiedWorld index files t := by
    intro index warnings files hi' hf'
    obtain ⟨rfl, rfl⟩ := Prod.mk.inj (Except.ok.inj (hi.symm.trans hi'))
    obtain rfl := Except.ok.inj (hf.symm.trans hf')
    rw [tiedRun, List.forall_mem_cons, List.forall_mem_singleton]
    exact ⟨rfl, rfl⟩
  have hfaults : (tiedRun.outcomes tiedWorld none ["a.py"]).all (·.fault?.isNone) = true := by
    decide +kernel
  obtain ⟨report, report', hreport, hreport', heq, hexit, -⟩ :=
    (perform_perm tiedRun tiedWorld hperm hids 8 hsame).2 none [] ["a.py"] hi hf rfl fun o ho =>
      Option.isNone_iff_eq_none.1 (List.all_eq_true.1 hfaults o ho)
  have hfails : (tiedRun.outcomes tiedWorld none ["a.py"]).any
      (·.fails none tiedRun.failOn) = true := by decide +kernel
  have hfound : report = tiedRun.found tiedWorld none [] ["a.py"] :=
    ((result_perform_eq_ok_iff_of_files (r := tiedRun) hi hf rfl).1 hreport).2
  refine ⟨hperm, hids, report, report', hreport, hreport', by rw [heq], ?_, by rw [heq]; rfl⟩
  rw [hexit, hfound, found, exitCode_report, if_pos hfails]

end Run

end Lintscope

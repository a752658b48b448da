import Lintscope.Proofs.Check.Remarks
import Lintscope.Proofs.Git.Files
import Lintscope.Proofs.Scope
import Mathlib.Data.List.Basic

/-!
# Narrowing a run to what has changed

A run about what has changed looks at fewer files than a run about everything,
and then leaves out messages. If all linters are checks of their own, nothing
is lost or made up by looking at fewer files: the entries in scope are the
entries of the run about everything that concern changed code, in their order
(`Run.inScope_changes`).

Since a check says of each file what it says of it alone, the files that are
left out at first are the files whose messages are left out in the end
(`Run.touched_eq_nil`); and what is left out before a stable sort could as
well be left out after it (`Report.filter_entries_sort`).
-/

namespace Lintscope

/-! ## The order of entries -/

namespace Entry

instance : Std.TransCmp compare :=
  inferInstanceAs <| Std.TransCmp <|
    compareLex (compareOn path) <|
    compareLex (compareOn (·.message.line.getD 0)) <|
    compareLex (compareOn linter) <|
    compareLex (compareOn (·.message.column.getD 0)) <|
    compareLex (compareOn (·.message.code.getD "")) <|
    compareOn (·.message.text)

theorem isLE_compare_trans (a b c : Entry) (hab : (a.compare b).isLE) (hbc : (b.compare c).isLE) :
    (a.compare c).isLE :=
  Std.TransCmp.isLE_trans hab hbc

theorem isLE_compare_total (a b : Entry) : (a.compare b).isLE || (b.compare a).isLE := by
  have hswap : b.compare a = (a.compare b).swap := Std.OrientedCmp.eq_swap
  rw [hswap]
  cases a.compare b <;> rfl

end Entry

theorem Report.pairwise_entries_sort (r : Report) :
    r.sort.entries.Pairwise fun a b => (a.compare b).isLE :=
  List.pairwise_mergeSort Entry.isLE_compare_trans Entry.isLE_compare_total _

theorem Report.filter_entries_sort (r : Report) (p : Entry → Bool) :
    r.sort.entries.filter p = (r.entries.filter p).mergeSort fun a b => (a.compare b).isLE :=
  Filtered.filter_mergeSort Entry.isLE_compare_trans Entry.isLE_compare_total p r.entries

/-! ## What a diff touches -/

/-- The index of a run is built from a diff. -/
theorem Git.built_of_index {w : World} {directory old : String} {new : Option String}
    {i : Diff.Index} (h : (Git.index w directory old new).result = .ok i) : i.Built := by
  rw [(Git.gives_index w directory old new).result_eq, bind_eq_ok_iff] at h
  obtain ⟨diff, -, h⟩ := h
  exact .inl ⟨diff, mapError_eq_ok_iff.1 h⟩

namespace Entry

/-- A diff touches what an entry is about: its file is new, or its file is changed
    and it has no line, or one of its lines is changed. -/
def Concerns (e : Entry) (i : Diff.Index) : Prop :=
  ∃ path ∈ e.message.path, Path.canonical path ∈ i.added ∨
    ∃ c ∈ i.changed, c.1 = Path.canonical path ∧ e.message.Meets c.2

instance (e : Entry) (i : Diff.Index) : Decidable (e.Concerns i) :=
  inferInstanceAs <| Decidable <| ∃ path ∈ e.message.path, Path.canonical path ∈ i.added ∨
    ∃ c ∈ i.changed, c.1 = Path.canonical path ∧ e.message.Meets c.2

variable {i : Diff.Index} {id path : String} {m : Message}

/-- The questions that a run asks of its index come to whether the diff touches what
    an entry is about. -/
theorem concerns_iff (hi : i.Settled) {inScope : Bool} (hm : m.path = some path) :
    (Entry.mk id inScope m).Concerns i ↔ i.covers? path m = some true := by
  rw [hi.covers?_eq_some_true_iff]
  simp [Concerns, hm]

theorem isSelectable_of_concerns (hi : i.Settled) {inScope : Bool} (hm : m.path = some path)
    (h : (Entry.mk id inScope m).Concerns i) : i.isSelectable path = true := by
  rw [Diff.Index.isSelectable_iff, hi.lookup_eq_new_iff]
  obtain ⟨_, hpath, h⟩ := h
  obtain rfl := Option.some.inj (hm.symm.trans hpath)
  rcases h with hadded | ⟨⟨_, lines⟩, hchanged, rfl, -⟩
  · exact .inl hadded
  · exact .inr ⟨lines, hi.lookup_eq_changed_iff.2 hchanged⟩

end Entry

/-! ## Outcomes of checks -/

namespace Run

variable {r : Run} {w : World} {t : Task} {files : List String}

/-- The entries about a file that a diff touches. -/
def touched (r : Run) (w : World) (i : Diff.Index) (t : Task) (name : String) : List Entry :=
  ((t.options.remarks w r.root name).map (⟨t.id, true, ·⟩)).filter (·.Concerns i)

/-- A message about a file is in scope if the diff touches what it is about. -/
theorem filter_inScope_entry {i : Diff.Index} (hi : i.Settled) {id path : String} {m : Message}
    (hm : m.path = some path) :
    ((inScope? (some i) m).map (Entry.mk id · m)).filter (·.inScope) =
      (some (Entry.mk id true m)).filter (·.Concerns i) := by
  have hconcerns : (Entry.mk id true m).Concerns i ↔ i.covers? path m = some true :=
    Entry.concerns_iff hi hm
  rw [inScope?_of_path hm]
  rcases h : i.covers? path m with _ | _ | _ <;> simp [Option.filter_some, hconcerns, h]

theorem inScope?_none (m : Message) : inScope? none m = some true := by
  rcases hm : m.path <;> simp [inScope?]

section

variable (ht : t.options.IsCheck w r.root) (hw : w.cancelled = false)
  (hfiles : ∀ name ∈ files, Path.canonical name = name)
include ht hw hfiles

/-- No message of a check is dropped for its path: it is about a file that the
    check was given. -/
theorem entries_outcome (index : Option Diff.Index) :
    (r.outcome w t files).entries index = files.flatMap fun name =>
      (t.options.remarks w r.root name).filterMap fun m =>
        (inScope? index m).map (Entry.mk t.id · m) := by
  have hresult := Options.outcome_ofOptions (c := r.context t) ht hw files
  rw [Outcome.entries, Outcome.messages, outcome, hresult, List.filterMap_flatMap]
  refine List.flatMap_congr fun name hname => List.filterMap_congr fun m hm => ?_
  have hpath := Options.path_of_mem_remarks w r.root t.options name m hm
  rw [hfiles name hname] at hpath
  simp [Outcome.entry?, Outcome.expects, hpath, hname]

theorem filter_inScope_entries_outcome {i : Diff.Index} (hi : i.Settled) :
    ((r.outcome w t files).entries (some i)).filter (·.inScope) =
      files.flatMap (r.touched w i t) := by
  rw [entries_outcome ht hw hfiles, List.filter_flatMap]
  refine List.flatMap_congr fun name _ => ?_
  rw [touched, ← List.filterMap_eq_map, List.filter_filterMap, List.filter_filterMap]
  exact List.filterMap_congr fun m hm =>
    filter_inScope_entry hi (Options.path_of_mem_remarks w r.root t.options name m hm)

theorem filter_concerns_entries_outcome (i : Diff.Index) :
    ((r.outcome w t files).entries none).filter (·.Concerns i) =
      files.flatMap (r.touched w i t) := by
  rw [entries_outcome ht hw hfiles, List.filter_flatMap]
  simp only [inScope?_none, Option.map_some, List.filterMap_eq_map']
  rfl

end

/-! ## Runs of checks -/

theorem touched_eq_nil {i : Diff.Index} (hi : i.Settled) {name : String}
    (hname : Path.canonical name = name) (hs : i.isSelectable name = false) (t : Task) :
    r.touched w i t name = [] := by
  rw [touched, List.filter_eq_nil_iff]
  intro e he hconcerns
  obtain ⟨m, hm, rfl⟩ := List.mem_map.1 he
  have hpath := Options.path_of_mem_remarks w r.root t.options name m hm
  rw [hname] at hpath
  have htrue := Entry.isSelectable_of_concerns hi hpath (of_decide_eq_true hconcerns)
  rw [hs] at htrue
  cases htrue

theorem mem_of_mem_worklist {common own : Filter} {name : String}
    (h : name ∈ worklist files common own) : name ∈ files :=
  (List.mem_filter.1 (List.mem_filter.1 h).1).1

theorem mem_of_mem_candidates {index : Option Diff.Index} {name : String}
    (h : name ∈ candidates index files) : name ∈ files := by
  cases index with
  | none => exact h
  | some i => exact (List.mem_filter.1 h).1

/-- A file that the diff leaves alone may be left out of a worklist. -/
theorem flatMap_worklist_candidates (hfiles : ∀ name ∈ files, Path.canonical name = name)
    {i : Diff.Index} (hi : i.Settled) (common : Filter) (t : Task) :
    (worklist (candidates (some i) files) common t.filter).flatMap (r.touched w i t) =
      (worklist files common t.filter).flatMap (r.touched w i t) := by
  have hcomm : worklist (candidates (some i) files) common t.filter =
      (worklist files common t.filter).filter i.isSelectable := by
    rw [worklist, worklist, candidates, Filtered.filter_filter_comm common.keeps,
      Filtered.filter_filter_comm t.filter.keeps i.isSelectable]
  rw [hcomm]
  refine Filtered.flatMap_filter_eq (fun _ _ _ => rfl) fun name hname hs => ?_
  exact touched_eq_nil hi (hfiles name (mem_of_mem_worklist hname)) hs t

theorem firstFault?_eq_none {outcomes : List Outcome} (h : ∀ o ∈ outcomes, o.fault? = none) :
    firstFault? outcomes = none := by
  rw [firstFault?, List.filterMap_eq_nil_iff.2 h]
  rfl

/-- The entries that a predicate leaves of a report, if it leaves those that a
    diff touches. -/
theorem filter_entries_report {index : Option Diff.Index} {i : Diff.Index} {p : Entry → Bool}
    (h : ∀ t ∈ r.tasks, ∀ fs, (∀ name ∈ fs, name ∈ files) →
      ((r.outcome w t fs).entries index).filter p = fs.flatMap (r.touched w i t))
    (warnings : List String) :
    (r.report index warnings (r.outcomes w index files)).entries.filter p =
      (r.tasks.flatMap fun t =>
        (worklist (candidates index files) r.commonFilter t.filter).flatMap
          (r.touched w i t)).mergeSort fun a b => (a.compare b).isLE := by
  rw [report, Report.filter_entries_sort]
  congr 1
  rw [List.filter_flatMap, outcomes, List.flatMap_map, assignments,
    Filtered.flatMap_filter_eq (g := fun a => a.2.flatMap (r.touched w i a.1)), List.flatMap_map]
  · rintro ⟨t, fs⟩ ha -
    obtain ⟨t', ht, he⟩ := List.mem_map.1 ha
    obtain ⟨rfl, rfl⟩ := Prod.mk.inj he
    exact h t' ht _ fun name hname => mem_of_mem_candidates (mem_of_mem_worklist hname)
  · -- A task without files has no outcome, and would have had no entries.
    rintro ⟨t, fs⟩ - hfs
    simp only [ne_eq, decide_not, Bool.not_eq_false', decide_eq_true_eq] at hfs
    rw [hfs]
    rfl

section

variable (hr : ∀ t ∈ r.tasks, t.options.IsCheck w r.root) (hw : w.cancelled = false)
include hr hw

/-- Checks never break off a run. -/
theorem firstFault?_outcomes (index : Option Diff.Index) (files : List String) :
    firstFault? (r.outcomes w index files) = none := by
  refine firstFault?_eq_none fun o ho => ?_
  obtain ⟨⟨t, fs⟩, ha, rfl⟩ := List.mem_map.1 ho
  obtain ⟨t', ht, he⟩ := List.mem_map.1 (List.mem_filter.1 ha).1
  obtain ⟨rfl, -⟩ := Prod.mk.inj he
  have hresult := Options.outcome_ofOptions (c := r.context t') (hr t' ht) hw fs
  change (r.outcome w t' fs).fault? = none
  rw [Outcome.fault?, outcome, hresult]

/-- The entries in scope of a narrowed report are those of the full report that
    concern changed code. -/
theorem inScope_report (hfiles : ∀ name ∈ files, Path.canonical name = name) {i : Diff.Index}
    (hi : i.Settled) (warnings warnings' : List String) :
    (r.report (some i) warnings (r.outcomes w (some i) files)).inScope =
      (r.report none warnings' (r.outcomes w none files)).entries.filter (·.Concerns i) := by
  rw [Report.inScope, filter_entries_report, filter_entries_report]
  · congr 1
    exact List.flatMap_congr fun t _ => flatMap_worklist_candidates hfiles hi r.commonFilter t
  · intro t ht fs hfs
    exact filter_concerns_entries_outcome (hr t ht) hw (fun name hn => hfiles name (hfs name hn)) i
  · intro t ht fs hfs
    exact filter_inScope_entries_outcome (hr t ht) hw (fun name hn => hfiles name (hfs name hn)) hi

end

/-- If all linters do checks of their own and the diff is to be had, the entries
    in scope of a run about what has changed are those entries of the run about
    everything that concern changed code: no other ones, all of them, and in
    their order. -/
theorem inScope_changes (r : Run) {w : World} {old : String} {new : Option String}
    {i : Diff.Index} (hr : ∀ t ∈ r.tasks, t.options.IsCheck w r.root)
    (hi : (Git.index w r.root old new).result = .ok i)
    (hf : (Git.files w r.root).result = .ok files) (hw : w.cancelled = false)
    (log log' : List World.Launch) :
    ∃ full narrow,
      (({ r with request := .everything }.perform w).run.run log).1 = .ok full ∧
        (({ r with request := .changes old new }.perform w).run.run log').1 = .ok narrow ∧
          narrow.inScope = full.entries.filter (·.Concerns i) := by
  refine ⟨_, _, (perform_eq_ok_iff ..).2 ⟨none, [], files, rfl, hf, hw, ?_, rfl⟩,
    (perform_eq_ok_iff ..).2 ⟨some i, [], files, ?_, hf, hw, ?_, rfl⟩, ?_⟩
  · exact firstFault?_outcomes (r := { r with request := .everything }) hr hw none files
  · exact result_index_changes { r with request := .changes old new } w rfl hi
  · exact firstFault?_outcomes (r := { r with request := .changes old new }) hr hw (some i) files
  · exact inScope_report hr hw (Git.canonical_of_mem_files hf) (Git.built_of_index hi).settled [] []

/-- A repository with two files whose lines all end with blanks; one of the files
    got its second line. -/
def blankWorld : World where
  tree := ⟨[(["a.py"], .file (Utf8.encode "x \ny \n".toList)),
    (["b.py"], .file (Utf8.encode "z \n".toList)), (["HEADER"], .file [])]⟩
  program?
    | "git" => some fun args _ =>
      .ends (.code 0) (Utf8.encode <|
        if "diff" ∈ args then "diff --git a/a.py b/a.py\n@@ -1,0 +2 @@\n+y \n".toList
        else if "--cached" ∈ args then "a.py\nb.py\n".toList
        else []) []
    | _ => none

/-- A run over that repository. -/
def blankRun : Run where
  root := "/"
  commonFilter := .all
  failOn := .info
  tasks := [⟨"whitespace", .all, none, .whitespace none⟩, ⟨"header", .all, none, .header {}⟩]
  request := .everything
  jobs := 1

/-- The entry about the blank at the end of a line of the file that changed. -/
def blankEntry (line : Nat) : Entry :=
  ⟨"whitespace", true,
    { path := some "a.py", line := some line, column := some 2, text := "trailing whitespace" }⟩

theorem inScope_changes_blank :
    ∃ full narrow,
      (({ blankRun with request := .everything }.perform blankWorld).run.run []).1 = .ok full ∧
        (({ blankRun with request := .changes "main" none }.perform blankWorld).run.run []).1 =
          .ok narrow ∧
            narrow.inScope = full.entries.filter (·.Concerns ⟨[("a.py", [2])], [], []⟩) ∧
              blankEntry 2 ∈ narrow.inScope ∧ blankEntry 1 ∈ full.entries ∧
                blankEntry 1 ∉ narrow.inScope := by
  have hr : ∀ t ∈ blankRun.tasks, t.options.IsCheck blankWorld blankRun.root := by
    rw [blankRun, List.forall_mem_cons, List.forall_mem_singleton]
    exact ⟨trivial, "", rfl⟩
  have hf : (Git.files blankWorld blankRun.root).result = .ok ["a.py", "b.py"] := rfl
  have hi : (Git.index blankWorld blankRun.root "main" none).result =
      .ok ⟨[("a.py", [2])], [], []⟩ := rfl
  obtain ⟨full, narrow, hfull, hnarrow, hscope⟩ := inScope_changes blankRun hr hi hf rfl [] []
  have hentries : ∀ line ∈ [1, 2], blankEntry line ∈ full.entries := by
    obtain ⟨_, _, _, hindex, hfiles, -, -, rfl⟩ := (perform_eq_ok_iff ..).1 hfull
    cases hindex
    cases hf.symm.trans hfiles
    rw [report, Report.sort]
    simp only [List.mem_mergeSort]
    decide +kernel
  refine ⟨full, narrow, hfull, hnarrow, hscope, ?_, hentries 1 (by decide), ?_⟩
  · rw [hscope]
    exact List.mem_filter.2 ⟨hentries 2 (by decide), by decide⟩
  · rw [hscope]
    exact fun h => absurd (List.mem_filter.1 h).2 (by decide)

end Run

end Lintscope

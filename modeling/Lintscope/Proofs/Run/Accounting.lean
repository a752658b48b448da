import Lintscope.Proofs.Order.Filtered
import Lintscope.Proofs.Run.Ending
import Lintscope.Proofs.Scope
import Mathlib.Algebra.GroupWithZero.Nat
import Mathlib.Data.List.Basic

/-!
# Where the messages of a run go

A run that ends with a report accounts for every message of its linters
(`Run.accounts_perform`). A message is in the report, once and with its linter,
or it is about a file that the linter was not given; the number of the latter is
what the report says was dropped.

The index could drop messages too, but those that come so far are about files
that linters were given, and a run about what has changed gives out only files
that are new or changed (`Run.selectable_of_mem_outcomes`). So all that the index
does is to tell which entries are in scope, and those that are not lie on lines
that did not change.
-/

namespace Lintscope

/-! ## Outcomes -/

namespace Outcome

/-- The files of the outcome, if there is an index, are ones that it leaves there. -/
def Selectable (o : Outcome) (index : Option Diff.Index) : Prop :=
  ∀ i ∈ index, ∀ path ∈ o.files, i.isSelectable path = true

variable {o : Outcome} {index : Option Diff.Index} {m : Message} {e : Entry}

theorem mem_files_of_expects (hm : o.expects m = true) : ∀ path ∈ m.path, path ∈ o.files := by
  intro path hpath
  rw [expects, Option.mem_def.1 hpath] at hm
  exact of_decide_eq_true hm

theorem exists_of_mem_entries (he : e ∈ o.entries index) :
    ∃ m ∈ o.messages, o.expects m = true ∧ inScope? index m = some e.inScope ∧
      e = ⟨o.task.id, e.inScope, m⟩ := by
  obtain ⟨m, hm, he⟩ := List.mem_filterMap.1 he
  unfold entry? at he
  split at he
  · next hexpects =>
    obtain ⟨inScope, hs, rfl⟩ := Option.map_eq_some_iff.1 he
    exact ⟨m, hm, hexpects, hs, rfl⟩
  · cases he

theorem linter_of_mem_entries (he : e ∈ o.entries index) : e.linter = o.task.id := by
  obtain ⟨m, -, -, -, he⟩ := exists_of_mem_entries he
  rw [he]

/-- All entries of an outcome bear its id, so they are kept or left out together. -/
theorem filter_flatMap_entries (p : String → Bool) (index : Option Diff.Index)
    (outcomes : List Outcome) :
    (outcomes.flatMap (·.entries index)).filter (fun e => p e.linter) =
      (outcomes.filter fun o => p o.task.id).flatMap (·.entries index) := by
  rw [List.filter_flatMap]
  refine (Filtered.flatMap_filter_eq (fun o _ hid => ?_) fun o _ hid => ?_).symm
  · refine (List.filter_eq_self.2 fun e he => ?_).symm
    rw [linter_of_mem_entries he]
    exact hid
  · refine List.filter_eq_nil_iff.2 fun e he => ?_
    rw [linter_of_mem_entries he, hid]
    exact Bool.false_ne_true

section

variable (ho : o.Selectable index)
include ho

/-- The index drops no message about a file that the linter was given. -/
theorem exists_inScope? (hm : o.expects m = true) : ∃ inScope, inScope? index m = some inScope := by
  rcases index with _ | i
  · exact ⟨true, rfl⟩
  rcases hpath : m.path with _ | path
  · exact ⟨true, by simp [inScope?, hpath]⟩
  have hselectable := ho i rfl path (mem_files_of_expects hm path hpath)
  rw [inScope?_of_path hpath]
  rcases Diff.Index.isSelectable_iff.1 hselectable with hnew | ⟨lines, hchanged⟩
  · exact ⟨true, by simp [Diff.Index.covers?, hnew]⟩
  · rw [Diff.Index.covers?, hchanged]
    cases m.lineRange with
    | none => exact ⟨true, rfl⟩
    | some range => exact ⟨touches range lines, rfl⟩

theorem entry?_eq_none_iff : o.entry? index m = none ↔ o.expects m = false := by
  unfold entry?
  split
  · next hm =>
    obtain ⟨inScope, hs⟩ := exists_inScope? ho hm
    rw [hs, hm]
    exact iff_of_false nofun nofun
  · next hm => exact iff_of_true rfl (Bool.eq_false_iff.2 hm)

/-- The messages of the entries are those that were expected, in their order. -/
theorem map_message_entries : (o.entries index).map Entry.message = o.messages.filter o.expects := by
  rw [entries, List.map_filterMap, ← List.filterMap_eq_filter]
  refine List.filterMap_congr fun m _ => ?_
  by_cases hm : o.expects m = true
  · obtain ⟨inScope, hs⟩ := exists_inScope? ho hm
    simp [ entry?, Option.guard, hm, hs]
  · simp [ entry?, Option.guard, hm]

theorem dropped_eq : o.dropped index = (o.messages.filter (!o.expects ·)).length := by
  rw [dropped, List.countP_eq_length_filter]
  congr 1
  refine List.filter_congr fun m _ => ?_
  rw [Bool.eq_iff_iff, Option.isNone_iff_eq_none, entry?_eq_none_iff ho, Bool.not_eq_true']

end

/-- What is out of scope lies on a changed file, off its changed lines. -/
theorem exists_changed_of_not_inScope {i : Diff.Index} (ho : o.Selectable (some i))
    (he : e ∈ o.entries (some i)) (hs : e.inScope = false) :
    ∃ path lines range, e.message.path = some path ∧ i.lookup path = .changed lines ∧
      e.message.lineRange = some range ∧ ∀ l ∈ lines, ¬(range.1 ≤ l ∧ l ≤ range.2) := by
  obtain ⟨m, -, hm, hscope, he⟩ := exists_of_mem_entries he
  rw [hs] at hscope
  rw [show e.message = m from congrArg Entry.message he]
  rcases hpath : m.path with _ | path
  · simp [inScope?, hpath] at hscope
  have hselectable := ho i rfl path (mem_files_of_expects hm path hpath)
  rw [inScope?_of_path hpath] at hscope
  rcases Diff.Index.isSelectable_iff.1 hselectable with hnew | ⟨lines, hchanged⟩
  · simp [Diff.Index.covers?, hnew] at hscope
  rcases hrange : m.lineRange with _ | range
  · simp [Diff.Index.covers?, hchanged, hrange] at hscope
  · simp only [Diff.Index.covers?, hchanged, hrange] at hscope
    have htouches : ¬touches range lines = true := Bool.eq_false_iff.1 (Option.some.inj hscope)
    rw [touches_iff] at htouches
    exact ⟨path, lines, range, rfl, hchanged, rfl, fun l hl hrange => htouches ⟨l, hl, hrange⟩⟩

end Outcome

/-! ## Reports -/

namespace Run

section

variable (r : Run) {index : Option Diff.Index} (warnings : List String) {outcomes : List Outcome}

theorem perm_entries_report (index : Option Diff.Index) (outcomes : List Outcome) :
    (r.report index warnings outcomes).entries.Perm (outcomes.flatMap (·.entries index)) :=
  List.mergeSort_perm ..

theorem dropped_report_eq_sum (index : Option Diff.Index) (outcomes : List Outcome) :
    (r.report index warnings outcomes).dropped = (outcomes.map (·.dropped index)).sum := by
  rw [List.sum_eq_foldl, List.foldl_map]
  rfl

theorem dropped_report (ho : ∀ o ∈ outcomes, o.Selectable index) :
    (r.report index warnings outcomes).dropped =
      (outcomes.flatMap fun o => o.messages.filter (!o.expects ·)).length := by
  rw [dropped_report_eq_sum, List.length_flatMap]
  congr 1
  exact List.map_congr_left fun o h => Outcome.dropped_eq (ho o h)

/-- The entries of a linter are the messages of its outcomes that were expected. -/
theorem perm_messages_report (ho : ∀ o ∈ outcomes, o.Selectable index) (id : String) :
    (((r.report index warnings outcomes).entries.filter (·.linter = id)).map Entry.message).Perm
      ((outcomes.filter (·.task.id = id)).flatMap fun o => o.messages.filter o.expects) := by
  refine (((perm_entries_report r warnings index outcomes).filter _).map _).trans ?_
  rw [Outcome.filter_flatMap_entries (· = id), List.map_flatMap]
  refine .of_eq (List.flatMap_congr fun o h => ?_)
  exact Outcome.map_message_entries (ho o (List.mem_filter.1 h).1)

end

/-! ## Runs -/

variable {r : Run} {w : World}

/-- The filters of a run and of its tasks only take files away. -/
theorem mem_candidates_of_mem_outcomes {index : Option Diff.Index} {files : List String}
    {o : Outcome} (ho : o ∈ r.outcomes w index files) :
    ∀ path ∈ o.files, path ∈ candidates index files := by
  intro path hpath
  obtain ⟨⟨t, fs⟩, ha, rfl⟩ := List.mem_map.1 ho
  obtain ⟨t', -, he⟩ := List.mem_map.1 (List.mem_filter.1 ha).1
  obtain ⟨rfl, rfl⟩ := Prod.mk.inj he
  exact (List.mem_filter.1 (List.mem_filter.1 hpath).1).1

/-- A run about what has changed gives out only files that the diff touches and
    leaves there. -/
theorem selectable_of_mem_outcomes (index : Option Diff.Index) (files : List String) :
    ∀ o ∈ r.outcomes w index files, o.Selectable index := by
  intro o ho i hi path hpath
  obtain rfl := Option.mem_def.1 hi
  exact (List.mem_filter.1 (mem_candidates_of_mem_outcomes ho path hpath)).2

/-- A repository with two files, one of which got its second line, and with a linter
    that speaks about both. -/
def talkativeWorld : World where
  tree := ⟨[(["a.py"], .file []), (["b.py"], .file [])]⟩
  program?
    | "git" => some fun args _ =>
      .ends (.code 0) (Utf8.encode <|
        if "diff" ∈ args then "diff --git a/a.py b/a.py\n@@ -1,0 +2 @@\n+y\n".toList
        else if "--cached" ∈ args then "a.py\nb.py\n".toList
        else []) []
    | "flake8" => some fun _ _ =>
      .ends (.code 1) (Utf8.encode "a.py:1:1: E1 x\na.py:2:1: E1 y\nb.py:1:1: E1 z\n".toList) []
    | _ => none

/-- A run about the lines that changed in that repository. -/
def talkativeRun : Run where
  root := "/"
  commonFilter := .all
  failOn := .error
  tasks := [⟨"flake8", .all, none, .flake8 none⟩]
  request := .changes "main" none
  jobs := 1

end Run

end Lintscope

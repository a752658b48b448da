import Lintscope.Proofs.Git.Listing
import Lintscope.Proofs.Run.Accounting
import Lintscope.Proofs.Run.Narrowing
import Lintscope.Report.Text
import Mathlib.Data.String.Basic

/-!
# What a report reads like

The entries of a report that are in scope stand in sections, each with the entries about
one path under its heading. In the report of a run every path has one section at most, and
the sections stand in the order of the paths, the one without a path first
(`Run.renderText_perform`).

A heading is put wherever the path differs from that of the entry before. This makes one
section for a path since the entries are sorted by it, and since no run speaks of the empty
path, which the order cannot tell from none (`Run.path_ne_empty_of_mem_report`).
-/

namespace Lintscope

/-! ## Lines of entries -/

/-- A line tells an entry: its place, which is a line with a column, a line or none, its
    linter, severity and text, and before the text its code, if it has one, with blanks
    between them. -/
def Entry.IsToldBy (e : Entry) (line : String) : Prop :=
  ∃ place gap gap' : String,
    (∀ n ∈ e.message.line, ∀ k ∈ e.message.column, place = toString n ++ ":" ++ toString k) ∧
    (∀ n ∈ e.message.line, e.message.column = none → place = toString n) ∧
    (e.message.line = none → place = "-") ∧
    (∀ c ∈ gap.toList ++ gap'.toList, c = ' ') ∧
    line = "  " ++ place ++ gap ++ " " ++ e.linter ++ gap' ++ " " ++ e.message.severity.name ++
      " " ++ ((e.message.code.map (· ++ " ")).getD "" ++ e.message.text) ++ "\n"

theorem exists_padded_eq (width : Nat) (s : String) :
    ∃ gap, padded width s = s ++ gap ∧ ∀ c ∈ gap.toList, c = ' ' :=
  ⟨_, rfl, by simp⟩

theorem Entry.isToldBy_line (e : Entry) : e.IsToldBy e.line := by
  obtain ⟨gap, hplace, hgap⟩ := exists_padded_eq 8 e.message.location
  obtain ⟨gap', hlinter, hgap'⟩ := exists_padded_eq 12 e.linter
  refine ⟨e.message.location, gap, gap', ?_, ?_, ?_, ?_, ?_⟩
  · intro n hn k hk
    rw [Message.location, Option.mem_def.1 hn, Option.mem_def.1 hk]
  · intro n hn hcolumn
    rw [Message.location, Option.mem_def.1 hn, hcolumn]
  · intro hline
    rw [Message.location, hline]
  · exact fun c hc => (List.mem_append.1 hc).elim (hgap c) (hgap' c)
  · rw [line, hplace, hlinter]
    cases e.message.code <;> simp [String.append_assoc]

/-! ## Sections -/

namespace Report

/-- Entries about one path, at least one. -/
structure Section where
  /-- The first of them. -/
  first : Entry
  /-- The others. -/
  others : List Entry
  path_eq : ∀ e ∈ others, e.message.path = first.message.path

namespace Section

variable (s : Section)

/-- The path of the entries. -/
def path : Option String := s.first.message.path

/-- The entries. -/
def entries : List Entry := s.first :: s.others

/-- The lines of the entries. -/
def lines : String := String.join (s.entries.map Entry.line)

/-- The heading and the lines of the entries. -/
def text : String := heading s.path ++ s.lines

/-- A section is its heading, and a line for each of its entries. -/
theorem exists_text_eq : ∃ lines, s.text = s.path.getD "(linter)" ++ "\n" ++ String.join lines ∧
    List.Forall₂ Entry.IsToldBy s.entries lines := by
  refine ⟨_, rfl, List.forall₂_map_right_iff.2 ?_⟩
  exact List.forall₂_same.2 fun e _ => e.isToldBy_line

theorem path_of_mem_entries : ∀ e ∈ s.entries, e.message.path = s.path :=
  List.forall_mem_cons.2 ⟨rfl, s.path_eq⟩

end Section

/-- The sections of entries, each as long as it can be. -/
def sections : List Entry → List Section
  | [] => []
  | e :: es =>
    match sections es with
    | [] => [⟨e, [], nofun⟩]
    | s :: ss =>
      if h : s.path = e.message.path then
        ⟨e, s.entries, fun e' he' => (s.path_of_mem_entries e' he').trans h⟩ :: ss
      else ⟨e, [], nofun⟩ :: s :: ss

theorem flatMap_sections (es : List Entry) : (sections es).flatMap Section.entries = es := by
  induction es with
  | nil => rfl
  | cons e es ih =>
    rw [sections]
    cases hs : sections es with
    | nil =>
      rw [hs] at ih
      rw [← ih]
      rfl
    | cons s ss =>
      rw [hs] at ih
      dsimp only
      split
      · exact congrArg (e :: ·) ih
      · exact congrArg (e :: ·) ih

/-- Sections that others come before, each with an empty line in front. -/
def further (ss : List Section) : String := String.join (ss.map fun s => "\n" ++ s.text)

theorem intercalate_text (s : Section) (ss : List Section) :
    "\n".intercalate ((s :: ss).map Section.text) = s.text ++ further ss := by
  induction ss generalizing s with
  | nil => simp [further]
  | cons t ts ih =>
    rw [List.map_cons, List.map_cons, String.intercalate_cons_cons, ← List.map_cons, ih, further,
      further, List.map_cons, String.join_cons]
    simp only [String.append_assoc]

/-- What is printed of sections behind an entry about the path `last`: no heading for
    that path. -/
def textAfter (last : Option String) : List Section → String
  | [] => ""
  | s :: ss => (if last = s.path then s.lines else "\n" ++ s.text) ++ further ss

/-- An entry begins a section, which goes on as the entries behind it do. -/
theorem exists_sections_cons (e : Entry) (es : List Entry) :
    ∃ s ss, sections (e :: es) = s :: ss ∧ s.path = e.message.path ∧
      s.lines ++ further ss = e.line ++ textAfter e.message.path (sections es) := by
  rw [sections]
  cases sections es with
  | nil => exact ⟨_, _, rfl, rfl, by simp [Section.lines, Section.entries, further, textAfter]⟩
  | cons s ss =>
    dsimp only
    split
    · next h =>
      refine ⟨_, _, rfl, rfl, ?_⟩
      rw [textAfter, if_pos h.symm]
      simp [Section.lines, Section.entries, String.append_assoc]
    · next h =>
      refine ⟨_, _, rfl, rfl, ?_⟩
      rw [textAfter, if_neg fun heq => h heq.symm]
      simp [Section.lines, Section.entries, further, String.append_assoc]

theorem join_entryLines_some (last : Option String) (es : List Entry) :
    String.join (entryLines (some last) es) = textAfter last (sections es) := by
  induction es generalizing last with
  | nil => rfl
  | cons e es ih =>
    obtain ⟨s, ss, hs, hpath, hlines⟩ := exists_sections_cons e es
    rw [← ih] at hlines
    rw [hs, textAfter, hpath, entryLines]
    split
    · rw [hlines, String.join_cons]
    · rw [String.join_cons, String.join_cons, String.join_cons, ← hlines, Section.text, hpath]
      simp only [String.append_assoc]

/-- The lines of entries are those of their sections, with an empty line between them. -/
theorem join_entryLines (es : List Entry) :
    String.join (entryLines none es) = "\n".intercalate ((sections es).map Section.text) := by
  cases es with
  | nil => rfl
  | cons e es =>
    obtain ⟨s, ss, hs, hpath, hlines⟩ := exists_sections_cons e es
    rw [← join_entryLines_some] at hlines
    rw [hs, intercalate_text, entryLines, Section.text, hpath, String.append_assoc, hlines]
    simp only [String.join_cons]

example :
    String.join (entryLines none
      [⟨"lint", true, ⟨none, none, none, none, .error, none, "gone"⟩⟩,
        ⟨"lint", true, ⟨some "a", some 2, none, some 1, .info, some "E1", "x"⟩⟩,
        ⟨"trim", true, ⟨some "a", some 3, none, none, .info, none, "y"⟩⟩]) =
      "(linter)\n  -        lint         error gone\n" ++
        "\na\n  2:1      lint         info E1 x\n  3        trim         info y\n" := by
  decide +kernel

/-! ## The order of sections -/

/-- The order of entries tells paths apart, the empty path and none excepted. -/
theorem getD_ne_getD {p q : Option String} (hp : p ≠ some "") (hq : q ≠ some "") (h : p ≠ q) :
    p.getD "" ≠ q.getD "" := by
  cases p <;> cases q <;> simp_all [eq_comm]

theorem lt_of_getD_lt_getD {p q : Option String} (h : p.getD "" < q.getD "") : p < q := by
  cases q with
  | none =>
    rw [Option.getD_none, String.lt_iff_toList_lt] at h
    exact absurd h (List.not_lt_nil _)
  | some q =>
    cases p with
    | none => exact Option.none_lt_some
    | some p => exact Option.some_lt_some.2 h

/-- If entries are sorted by their paths, and none of these is empty, each path has one
    section, and the sections stand in the order of the paths. -/
theorem pairwise_sections {es : List Entry} (hsorted : es.Pairwise fun a b => a.path ≤ b.path)
    (hne : ∀ e ∈ es, e.message.path ≠ some "") :
    (sections es).Pairwise fun s t => s.path < t.path := by
  suffices h : (sections es).Pairwise fun s t => s.first.path < t.first.path from
    h.imp lt_of_getD_lt_getD
  induction es with
  | nil => exact List.Pairwise.nil
  | cons e es ih =>
    rw [List.pairwise_cons] at hsorted
    rw [List.forall_mem_cons] at hne
    have hsections := ih hsorted.2 hne.2
    have hmem := flatMap_sections es
    rw [sections]
    cases hs : sections es with
    | nil => exact List.pairwise_singleton _ _
    | cons s ss =>
      rw [hs] at hsections hmem
      dsimp only
      split
      · -- The entry joins the first section, whose path stays.
        next h =>
        rw [List.pairwise_cons] at hsections ⊢
        refine ⟨fun t ht => ?_, hsections.2⟩
        have hfirst : e.path = s.first.path := congrArg (·.getD "") h.symm
        rw [hfirst]
        exact hsections.1 t ht
      · -- It begins a section of its own, before all others.
        next h =>
        have hfirst : s.first ∈ es := hmem ▸ List.mem_append_left _ List.mem_cons_self
        have hlt : e.path < s.first.path := lt_of_le_of_ne (hsorted.1 _ hfirst)
          (getD_ne_getD hne.1 (hne.2 _ hfirst) fun heq => h heq.symm)
        rw [List.pairwise_cons]
        refine ⟨List.forall_mem_cons.2 ⟨hlt, fun t ht => ?_⟩, hsections⟩
        exact lt_trans hlt ((List.pairwise_cons.1 hsections).1 t ht)

/-! ## What is counted -/

variable (r : Report)

theorem blocking_eq_countP :
    r.blocking = r.inScope.countP (r.failOn ≤ ·.message.severity) := by
  rw [blocking, inScope, List.countP_filter]
  exact List.countP_congr fun e _ => by rw [Entry.blocks, Bool.and_comm]

theorem suppressed_eq_length_sub : r.suppressed = r.entries.length - r.inScope.length := by
  have hlength := List.length_eq_countP_add_countP (·.inScope) (l := r.entries)
  have hscope : r.inScope.length = r.entries.countP (·.inScope) :=
    List.countP_eq_length_filter.symm
  have hrest : r.suppressed = r.entries.countP fun e => decide ¬e.inScope = true :=
    List.countP_congr fun e _ => by cases e.inScope <;> rfl
  omega

end Report

theorem Entry.path_le_of_isLE {a b : Entry} (h : (a.compare b).isLE) : a.path ≤ b.path :=
  Std.LawfulLECmp.isLE_iff_le.1 (Ordering.isLE_left_of_isLE_then h)

/-! ## Runs -/

namespace Run

variable {r : Run} {w : World}

/-- What a report says about a file, it says about one that some linter was given. -/
theorem path_ne_empty_of_mem_report {files : List String}
    (hfiles : (Git.files w r.root).result = .ok files) (index : Option Diff.Index)
    (warnings : List String) :
    ∀ e ∈ (r.report index warnings (r.outcomes w index files)).entries,
      e.message.path ≠ some "" := by
  intro e he hpath
  obtain ⟨o, ho, he⟩ := List.mem_flatMap.1 ((perm_entries_report r warnings ..).mem_iff.1 he)
  obtain ⟨m, -, hm, -, heq⟩ := Outcome.exists_of_mem_entries he
  have hmessage : e.message = m := congrArg Entry.message heq
  rw [hmessage] at hpath
  have hfile := mem_candidates_of_mem_outcomes ho "" (Outcome.mem_files_of_expects hm "" hpath)
  exact Git.ne_empty_of_mem_files hfiles "" (mem_of_mem_candidates hfile) rfl

/-- If a run ends with a report, its text has the entries in scope in sections: each of
    these entries once, none out of scope, and in the order of the entries of the report.
    A section has the entries about one path under its heading, each told by a line; no two
    sections are about the same path, and they come in the order of the paths, the one about
    no path first.
    The numbers behind them are those of the linters, of the entries that are printed, of
    those among them that reach the threshold, and, in a report about what has changed,
    of the entries that are not printed. -/
theorem renderText_perform {log : List World.Launch} {report : Report}
    (h : ((r.perform w).run.run log).1 = .ok report) :
    ∃ parts : List Report.Section,
      parts.flatMap Report.Section.entries = report.entries.filter (·.inScope) ∧
      report.entries.Pairwise (fun a b => (a.compare b).isLE) ∧
      parts.Pairwise (fun s t => s.path < t.path) ∧
      (∀ s ∈ parts, ∃ lines, s.text = s.path.getD "(linter)" ++ "\n" ++ String.join lines ∧
        List.Forall₂ Entry.IsToldBy s.entries lines) ∧
      report.renderText =
        String.join (report.warnings.map fun w => "warning: " ++ w ++ "\n") ++
          "\n".intercalate (parts.map Report.Section.text) ++
          (if report.entries.isEmpty then "" else "\n") ++
          (toString report.linters.length ++ " linter(s), " ++
            toString (report.entries.filter (·.inScope)).length ++ " message(s) in scope, " ++
            toString ((report.entries.filter (·.inScope)).countP
              (report.failOn ≤ ·.message.severity)) ++
            " blocking at '" ++ report.failOn.name ++ "' or above" ++
            (match report.mode with
              | .full => ""
              | .changedLines =>
                ", " ++ toString (report.entries.length -
                  (report.entries.filter (·.inScope)).length) ++
                  " on unchanged lines suppressed") ++
            "\n") := by
  obtain ⟨index, warnings, files, -, hfiles, -, -, rfl⟩ := (r.perform_eq_ok_iff w).1 h
  have hne := path_ne_empty_of_mem_report hfiles index warnings
  have hsorted : (r.report index warnings (r.outcomes w index files)).entries.Pairwise
      fun a b => (a.compare b).isLE := Report.pairwise_entries_sort _
  refine ⟨_, Report.flatMap_sections _, hsorted, Report.pairwise_sections ?_ ?_,
    fun s _ => s.exists_text_eq, ?_⟩
  · exact (hsorted.imp Entry.path_le_of_isLE).filter _
  · exact fun e he => hne e (List.mem_filter.1 he).1
  · rw [Report.renderText, Report.join_entryLines, Report.summary, Report.blocking_eq_countP,
      Report.suppressed_eq_length_sub]
    rfl

/-- A repository with two files, each of which got its second line. One linter speaks
    about both, and the other one is not there. -/
def scatteredWorld : World where
  tree := ⟨[(["a.py"], .file []), (["b.py"], .file [])]⟩
  program?
    | "git" => some fun args _ =>
      .ends (.code 0) (Utf8.encode <|
        if "diff" ∈ args then
          ("diff --git a/a.py b/a.py\n@@ -1,0 +2 @@\n+y\n" ++
            "diff --git a/b.py b/b.py\n@@ -1,0 +2 @@\n+y\n").toList
        else if "--cached" ∈ args then "a.py\nb.py\n".toList
        else []) []
    | "flake8" => some fun _ _ =>
      .ends (.code 1) (Utf8.encode "b.py:2:1: E1 x\na.py:1:1: E1 y\na.py:2:1: E1 z\n".toList) []
    | _ => none

/-- The lines that changed in that repository. -/
def scatteredIndex : Diff.Index := ⟨[("a.py", [2]), ("b.py", [2])], [], []⟩

/-- A run about these lines. -/
def scatteredRun : Run where
  root := "/"
  commonFilter := .all
  failOn := .error
  tasks := [⟨"flake8", .all, none, .flake8 none⟩, ⟨"yamllint", .all, none, .yamllint none⟩]
  request := .changes "main" none
  jobs := 1

/-- One of four entries is out of scope, and one is about no file. -/
theorem renderText_perform_scattered :
    ∃ report, ((scatteredRun.perform scatteredWorld).run.run []).1 = .ok report ∧
      report.mode = .changedLines ∧ report.entries.length = 4 ∧
        ∃ parts : List Report.Section, parts.Pairwise (fun s t => s.path < t.path) ∧
          ((parts.flatMap Report.Section.entries).map (·.message.path)).Perm
            [some "b.py", some "a.py", none] := by
  have hindex : (scatteredRun.index scatteredWorld).result = .ok (some scatteredIndex, []) := rfl
  have hfiles : (Git.files scatteredWorld scatteredRun.root).result = .ok ["a.py", "b.py"] := rfl
  have hlength : ((scatteredRun.outcomes scatteredWorld scatteredIndex ["a.py", "b.py"]).flatMap
      (·.entries scatteredIndex)).length = 4 := by decide +kernel
  have hpaths : (((scatteredRun.outcomes scatteredWorld scatteredIndex ["a.py", "b.py"]).flatMap
      (·.entries scatteredIndex)).filter (·.inScope)).map (·.message.path) =
        [some "b.py", some "a.py", none] := by decide +kernel
  have h : ((scatteredRun.perform scatteredWorld).run.run []).1 = .ok _ :=
    (scatteredRun.perform_eq_ok_iff scatteredWorld).2 ⟨_, _, _, hindex, hfiles, rfl, rfl, rfl⟩
  have hperm := scatteredRun.perm_entries_report [] scatteredIndex
    (scatteredRun.outcomes scatteredWorld scatteredIndex ["a.py", "b.py"])
  obtain ⟨parts, hentries, -, hordered, -⟩ := renderText_perform h
  refine ⟨_, h, rfl, hperm.length_eq.trans hlength, parts, hordered, ?_⟩
  rw [hentries, ← hpaths]
  exact (hperm.filter _).map _

end Run

end Lintscope

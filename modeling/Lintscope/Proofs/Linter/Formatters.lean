import Lintscope.Proofs.Diff.Formatted
import Lintscope.Proofs.Linter.Silence
import Lintscope.Proofs.Order.Filtered
import Lintscope.Proofs.Path

/-!
# Formatters

A formatter's diff is read with the rules for the diffs of version control. Each
hunk is then a message about the lines that it covers, but a message can be
about another file than the formatter wrote about, or there is none: the rules
take an `a/` or a `b/` before a path for the side that it is on.

* `Patch.Dialect.reformats_text`: what is read of a formatter's diff;
* `Patch.Dialect.path?_autopep8`: `autopep8` writes a directory of its own before
  each path, so every path is read right;
* `Patch.Dialect.path?_black_iff`: `black` writes paths as they are, so that one
  in a directory `b` is read wrong;
* `Formatter.places_perform_iff`: when the messages are about the files that the
  formatter wrote about. The messages about `b/x.py` are not
  (`Formatter.places_black`).
-/

namespace Lintscope

open Text

/-! ## Places -/

/-- What a message is about: a file, and lines of it. -/
def Message.place (m : Message) : Option String × Option (Nat × Nat) := (m.path, m.lineRange)

theorem place_reformatting (tool path : String) {first last : Nat} (hfirst : 0 < first)
    (hlast : first ≤ last) :
    (Output.reformatting tool path first last).place =
      (some (Path.canonical path), some (first, last)) := by
  have hline : Message.positive? (some first) = some first := by
    simp [Message.positive?, hfirst]
  rcases Nat.eq_or_lt_of_le hlast with rfl | hlt
  · simp [Message.place, Output.reformatting, Message.withLineEnd, Message.about,
      Message.lineRange, hline]
  · have hmax : max first last = last := Nat.max_eq_right hlast
    simp [Message.place, Output.reformatting, Message.withLineEnd, Message.about,
      Message.lineRange, hline, hlt, hmax]

namespace Diff.Patch

open Output

/-! ## Hunks -/

namespace PlacedHunk

variable (h : PlacedHunk)

theorem extent_bounds : 0 < h.extent.1 ∧ h.extent.1 ≤ h.extent.2 := by
  rw [extent]
  split
  · exact ⟨Nat.le_max_right h.old 1, Nat.le_refl _⟩
  · next h0 => exact ⟨Nat.succ_pos _, Nat.add_le_add_left (Nat.pos_of_ne_zero h0) h.old⟩

variable {h}

theorem stretch?_span (hf : h.Fits) : stretch? h.span = some h.extent := by
  obtain ⟨ho, -⟩ := hf
  rw [stretch?, extent, span, stretch]
  by_cases h0 : h.hunk.oldLength = 0
  · simp only [h0, ↓reduceIte]
  · -- The end of the stretch, which is the line behind the last one, is below the limit.
    have hlt : h.old + 1 + h.hunk.oldLength < limit32 := by omega
    have hlast : h.old + 1 + h.hunk.oldLength - 1 = h.old + h.hunk.oldLength := by omega
    simp only [h0, ↓reduceIte, if_pos hlt, hlast]

/-- The message about a hunk of the file with a path. -/
def message (tool path : String) (h : PlacedHunk) : Message :=
  reformatting tool path h.extent.1 h.extent.2

theorem place_message (tool path : String) (h : PlacedHunk) :
    (h.message tool path).place = (some (Path.canonical path), some h.extent) :=
  place_reformatting tool path h.extent_bounds.1 h.extent_bounds.2

end PlacedHunk

/-- What the messages about a file should be about: its path, and the lines that
    each hunk covers. -/
def Reformat.places (f : Reformat) : List (Option String × Option (Nat × Nat)) :=
  f.hunks.map fun h => (some (.ofList f.path.chars), some h.extent)

namespace Dialect

variable (d : Dialect) (f : Reformat) (tool directory : String)

/-! ## Messages -/

/-- The path that the messages about a file have; none if there are no messages,
    as when only one side is read, and the file is taken for a new one or for
    one that is gone. The directory is what is before the path on the new side. -/
def path? : Option String :=
  match sidePath? "a/".toList (d.old f).1, sidePath? "b/".toList (d.new f).1 with
  | some _, some path =>
    if path = "" then none
    else some (Path.canonical (.ofList (dropLead directory.toList path.toList)))
  | _, _ => none

/-- The messages about a file. -/
def messages : List Message :=
  match d.path? f directory with
  | some path => f.hunks.map (·.message tool path)
  | none => []

variable {d f tool directory}

theorem mapM_span {hunks : List PlacedHunk} (hf : ∀ h ∈ hunks, h.Fits) (path : String) :
    (hunks.map PlacedHunk.span).mapM (fun span =>
      match stretch? span with
      | some (first, last) => Except.ok (reformatting tool path first last)
      | none => .error Failure.hugePosition) = .ok (hunks.map (·.message tool path)) := by
  induction hunks with
  | nil => rfl
  | cons h hs ih =>
    rw [List.forall_mem_cons] at hf
    rw [List.map_cons, List.mapM_cons, PlacedHunk.stretch?_span hf.1, ih hf.2]
    rfl

theorem reformatsOf_file (hf : ∀ h ∈ f.hunks, h.Fits) :
    reformatsOf tool directory (d.draft f).file =
      .ok (if (d.draft f).status = .modified then
        f.hunks.map (·.message tool (.ofList (dropLead directory.toList (d.draft f).path.toList)))
      else []) := by
  have hspans : (d.draft f).file.oldSpans = f.hunks.map PlacedHunk.span := by
    simp [draft, Draft.file, Draft.addPlaced, Draft.ofSides]
  rw [reformatsOf, hspans]
  by_cases hs : (d.draft f).status = .modified
  · rw [if_pos hs]
    exact (if_pos hs).trans (mapM_span hf _)
  · rw [if_neg hs]
    exact if_neg hs

theorem message_canonical (tool path : String) (h : PlacedHunk) :
    h.message tool (Path.canonical path) = h.message tool path := by
  rw [PlacedHunk.message, PlacedHunk.message, reformatting, reformatting, Message.about,
    Message.about, Path.canonical_canonical]

theorem messages_eq : d.messages f tool directory =
    if (d.draft f).path ≠ "" ∧ (d.draft f).status = .modified then
      f.hunks.map (·.message tool (.ofList (dropLead directory.toList (d.draft f).path.toList)))
    else [] := by
  rw [messages, path?, draft, Draft.addPlaced, Draft.ofSides]
  -- A file is modified if it has both sides.
  rcases sidePath? "a/".toList (d.old f).1 with _ | old
  · rcases sidePath? "b/".toList (d.new f).1 with _ | new <;> simp
  · rcases sidePath? "b/".toList (d.new f).1 with _ | new
    · simp
    · by_cases hnew : new = ""
      · simp [hnew]
      · simp [hnew, message_canonical]

theorem exists_mapM_changes (hf : ∀ h ∈ f.hunks, h.Fits) :
    ∃ ms, (d.changes f).mapM (reformatsOf tool directory) = .ok ms ∧
      ms.flatten = d.messages f tool directory := by
  rw [messages_eq, changes]
  by_cases hpath : (d.draft f).path = ""
  · -- A file without a path is not among those that are read.
    rw [if_pos hpath]
    exact ⟨[], rfl, (if_neg fun h => h.1 hpath).symm⟩
  · rw [if_neg hpath, List.mapM_cons, reformatsOf_file hf]
    refine ⟨_, rfl, ?_⟩
    simp [hpath]

/-- A formatter's diff has messages about each file for itself. -/
theorem reformats_text {files : List Reformat} (hf : ∀ f ∈ files, ∀ h ∈ f.hunks, h.Fits) :
    reformats tool directory (d.text files) =
      .ok (files.flatMap (d.messages · tool directory)) := by
  have hmapM : ∃ ms, (files.flatMap d.changes).mapM (reformatsOf tool directory) = .ok ms ∧
      ms.flatten = files.flatMap (d.messages · tool directory) := by
    induction files with
    | nil => exact ⟨[], rfl, rfl⟩
    | cons f fs ih =>
      rw [List.forall_mem_cons] at hf
      obtain ⟨ms, hms, hflatten⟩ := exists_mapM_changes (d := d) hf.1
      obtain ⟨ns, hns, hflatten'⟩ := ih hf.2
      refine ⟨ms ++ ns, ?_, by rw [List.flatten_append, hflatten, hflatten', List.flatMap_cons]⟩
      rw [List.flatMap_cons, List.mapM_append, hms, hns]
      rfl
  obtain ⟨ms, hms, hflatten⟩ := hmapM
  rw [reformats, parse_text hf, ← hflatten]
  exact congrArg (List.flatten <$> ·) hms

theorem exists_of_path?_eq_some {path : String} (h : d.path? f directory = some path) :
    ∃ old new, sidePath? "a/".toList (d.old f).1 = some old ∧
      sidePath? "b/".toList (d.new f).1 = some new ∧
        path = Path.canonical (.ofList (dropLead directory.toList new.toList)) := by
  rw [path?] at h
  split at h
  · next old new hold hnew =>
    split at h
    · cases h
    · exact ⟨old, new, hold, hnew, (Option.some.inj h).symm⟩
  · cases h

theorem canonical_of_path? {path : String} (h : d.path? f directory = some path) :
    Path.canonical path = path := by
  obtain ⟨_, _, -, -, rfl⟩ := exists_of_path?_eq_some h
  exact Path.canonical_canonical _

theorem length_map_place_le :
    ((d.messages f tool directory).map Message.place).length ≤ f.places.length := by
  rw [List.length_map, messages, Reformat.places, List.length_map]
  split
  · exact Nat.le_of_eq (List.length_map _)
  · exact Nat.zero_le _

theorem map_place_messages_iff :
    (d.messages f tool directory).map Message.place = f.places ↔
      d.path? f directory = some (.ofList f.path.chars) := by
  -- The path can be seen at the first hunk.
  obtain ⟨h, hs, hhunks⟩ := List.exists_cons_of_ne_nil f.hunks_ne_nil
  rw [messages, Reformat.places]
  cases hpath : d.path? f directory with
  | none => simp [hhunks]
  | some path =>
    have hplace (h : PlacedHunk) : (h.message tool path).place = (some path, some h.extent) := by
      rw [h.place_message, canonical_of_path? hpath]
    simp only [List.map_map, Function.comp_def, hplace, Option.some.injEq]
    refine ⟨fun heq => ?_, fun heq => by rw [heq]⟩
    rw [hhunks, List.map_cons, List.map_cons] at heq
    simpa using (List.cons.inj heq).1

/-- The messages about some files are where they should be if and only if the
    path of each file is read as it is. -/
theorem map_place_flatMap_iff (files : List Reformat) :
    (files.flatMap (d.messages · tool directory)).map Message.place =
        files.flatMap Reformat.places ↔
      ∀ f ∈ files, d.path? f directory = some (.ofList f.path.chars) := by
  rw [List.map_flatMap, Filtered.flatMap_eq_flatMap_iff fun _ _ => length_map_place_le]
  exact forall₂_congr fun _ _ => map_place_messages_iff

end Dialect

/-! ## Dialects -/

/-- How `black` names the sides: by the path as it is, and the time. -/
def black : Dialect where
  old f := ⟨f.path.chars ++ '\t' :: f.oldTime.1, by simp [newline_not_mem_chars, f.oldTime.2]⟩
  new f := ⟨f.path.chars ++ '\t' :: f.newTime.1, by simp [newline_not_mem_chars, f.newTime.2]⟩

/-- How `autopep8` names the sides: by the path in a directory for each side. -/
def autopep8 : Dialect where
  old f := ⟨"original/".toList ++ f.path.chars, by simp [newline_not_mem_chars]⟩
  new f := ⟨"fixed/".toList ++ f.path.chars, by simp [newline_not_mem_chars]⟩

/-- A side in a directory that version control does not write is read as it is. -/
theorem sidePath?_directory {side directory : List Char} (hside : side ≠ [])
    (hne : directory ≠ []) (hhead : directory.head?.all (· ∉ ['/', '.']) = true)
    (hother : side.head? ≠ directory.head?) (hall : directory.all isPlain = true) (p : PlainPath) :
    sidePath? side (directory ++ p.chars) = some (.ofList (directory ++ p.chars)) := by
  have hplain := List.all_eq_true.1 hall
  have hread := sidePath?_append_stamp side hplain p (t := []) (.inl rfl)
  -- All that matters is what the directory starts with.
  obtain ⟨a, side, rfl⟩ := List.exists_cons_of_ne_nil hside
  obtain ⟨b, directory, rfl⟩ := List.exists_cons_of_ne_nil hne
  obtain ⟨hslash, hdot⟩ : b ≠ '/' ∧ b ≠ '.' := by simpa using hhead
  have hnowhere : b :: directory ++ p.chars ≠ nowhere := fun h => hslash (List.cons.inj h).1
  have hdrop : dropLead (a :: side) (b :: directory ++ p.chars) = b :: directory ++ p.chars :=
    dropLead_of_not_isPrefix fun ⟨_, h⟩ => hother (congrArg some (List.cons.inj h).1)
  have hcanonical := canonicalChars_of_isPlain (List.forall_mem_append.2 ⟨hplain, p.isPlain_of_mem⟩)
    fun _ h => hdot (List.cons.inj h).1
  have hfull : b :: directory ++ p.chars ≠ [] := List.cons_ne_nil _ _
  rw [List.append_nil, hdrop, if_neg (not_or.2 ⟨hnowhere, hfull⟩)] at hread
  rw [hread, canonicalPath, hcanonical]

/-- `autopep8` is read right about every path. -/
theorem path?_autopep8 (f : Reformat) :
    autopep8.path? f "fixed/" = some (.ofList f.path.chars) := by
  have hold : sidePath? "a/".toList (autopep8.old f).1 =
      some (.ofList ("original/".toList ++ f.path.chars)) :=
    sidePath?_directory (by decide) (by decide) (by decide) (by decide) (by decide) f.path
  have hnew : sidePath? "b/".toList (autopep8.new f).1 =
      some (.ofList ("fixed/".toList ++ f.path.chars)) :=
    sidePath?_directory (by decide) (by decide) (by decide) (by decide) (by decide) f.path
  have hne : String.ofList ("fixed/".toList ++ f.path.chars) ≠ "" := by
    rw [ne_eq, String.ofList_eq_empty_iff]
    exact List.cons_ne_nil _ _
  rw [Dialect.path?, hold, hnew]
  simp only [if_neg hne, String.toList_ofList, dropLead_append, Path.canonical,
    f.path.canonicalChars_chars]

/-- A path that is read as it is where version control would name a side: it is
    not the name of a side that does not exist, and no directory of it can be
    taken for a side. On the old side, only a directory alone matters. -/
def PlainPath.IsBare (p : PlainPath) : Prop :=
  p.chars ≠ nowhere ∧ p.chars ≠ "a/".toList ∧ ¬"b/".toList <+: p.chars

theorem sidePath?_time (side : List Char) (p : PlainPath) (time : List Char) :
    sidePath? side (p.chars ++ '\t' :: time) =
      if p.chars = nowhere ∨ dropLead side p.chars = [] then none
      else some (canonicalPath (dropLead side p.chars)) :=
  sidePath?_append_stamp side (List.forall_mem_nil _) p (.inr ⟨time, rfl⟩)

theorem length_canonical_canonicalPath_le (s : List Char) :
    (Path.canonical (canonicalPath s)).toList.length ≤ s.length := by
  rw [canonicalPath, Path.canonical, String.toList_ofList, String.toList_ofList]
  exact Nat.le_trans (Path.length_canonicalChars_le _) (Path.length_canonicalChars_le s)

theorem path?_black {f : Reformat} (h : f.path.IsBare) :
    black.path? f "" = some (.ofList f.path.chars) := by
  obtain ⟨hnowhere, ha, hb⟩ := h
  have hold : sidePath? "a/".toList (black.old f).1 =
      some (canonicalPath (dropLead "a/".toList f.path.chars)) := by
    refine (sidePath?_time _ _ _).trans (if_neg ?_)
    rw [dropLead_eq_nil_iff]
    exact not_or.2 ⟨hnowhere, not_or.2 ⟨ha, f.path.ne_nil⟩⟩
  have hnew : sidePath? "b/".toList (black.new f).1 = some (.ofList f.path.chars) := by
    refine (sidePath?_time _ _ _).trans ?_
    rw [dropLead_of_not_isPrefix hb, if_neg (not_or.2 ⟨hnowhere, f.path.ne_nil⟩),
      f.path.canonicalPath_chars]
  rw [Dialect.path?, hold, hnew]
  simp [Path.canonical, dropLead, dropLead?, f.path.canonicalChars_chars, f.path.ne_nil]

theorem isBare_of_path?_black {f : Reformat}
    (h : black.path? f "" = some (.ofList f.path.chars)) : f.path.IsBare := by
  obtain ⟨old, new, ho, hn, hpath⟩ := Dialect.exists_of_path?_eq_some h
  replace ho := (sidePath?_time _ _ _).symm.trans ho
  replace hn := (sidePath?_time _ _ _).symm.trans hn
  rw [Option.ite_none_left_eq_some, not_or, dropLead_eq_nil_iff, not_or] at ho
  rw [Option.ite_none_left_eq_some, Option.some.injEq] at hn
  refine ⟨ho.1.1, ho.1.2.1, ?_⟩
  rintro ⟨rest, hrest⟩
  -- What is left of the path is shorter than the path.
  obtain rfl : canonicalPath rest = new := by rw [← hn.2, ← hrest, dropLead_append]
  change .ofList f.path.chars = Path.canonical (.ofList (canonicalPath rest).toList) at hpath
  have hle := length_canonical_canonicalPath_le rest
  rw [String.ofList_toList] at hpath
  rw [← hpath, String.toList_ofList, ← hrest, List.length_append] at hle
  exact absurd hle (Nat.not_le_of_gt (Nat.lt_add_of_pos_left (by decide)))

/-- `black` is read right about a path that no side can be seen in, and about no other. -/
theorem path?_black_iff {f : Reformat} :
    black.path? f "" = some (.ofList f.path.chars) ↔ f.path.IsBare :=
  ⟨isBare_of_path?_black, path?_black⟩

end Diff.Patch

/-! ## Linters -/

open Diff.Patch

/-- A formatter, with what can be set about it. -/
inductive Formatter where
  | black (o : BlackOptions)
  | autopep8 (o : Autopep8Options)

namespace Formatter

/-- The formatter as a linter. -/
def options : Formatter → Options
  | black o => .black o
  | autopep8 o => .autopep8 o

/-- How the formatter names the sides of a file. -/
def dialect : Formatter → Dialect
  | black _ => Diff.Patch.black
  | autopep8 _ => Diff.Patch.autopep8

/-- The name of the formatter in its messages. -/
def tool : Formatter → String
  | black _ => "black"
  | autopep8 _ => "autopep8"

/-- The directory that the formatter writes before a path on the new side. -/
def directory : Formatter → String
  | black _ => ""
  | autopep8 _ => "fixed/"

/-- The paths that are read right in the diffs of the formatter. -/
def Names (F : Formatter) (p : PlainPath) : Prop :=
  match F with
  | black _ => p.IsBare
  | autopep8 _ => True

theorem path?_iff_names (F : Formatter) (f : Reformat) :
    F.dialect.path? f F.directory = some (.ofList f.path.chars) ↔ F.Names f.path := by
  cases F with
  | black o => exact path?_black_iff
  | autopep8 o => exact iff_of_true (path?_autopep8 f) trivial

theorem exists_ofOptions_eq (F : Formatter) (c : Context) (names : List String) :
    ∃ call, Plan.ofOptions F.options c names = .tool call (Plan.upTo 0) fun out =>
      Output.reformats F.tool F.directory out.stdout := by
  cases F <;> exact ⟨_, rfl⟩

section

variable {F : Formatter} {c : Context} {names : List String} {w : World} {l : World.Launch}
  {files : List Reformat} {stdout stderr : List UInt8}
  (hl : l ∈ (Plan.ofOptions F.options c names).launches w c)
  (hend : l.result = .ok (.ends (.code 0) stdout stderr))
  (htext : ToolOutput.textOf stdout = F.dialect.text files)
  (hf : ∀ f ∈ files, ∀ h ∈ f.hunks, h.Fits) (hw : w.cancelled = false)
include hl hend htext hf hw

/-- If a formatter ends well and has written a diff, its linter has the messages
    that are read of the diff. -/
theorem perform_text (log : List World.Launch) :
    (((Plan.ofOptions F.options c names).perform w c).run.run log).1 =
      .ok (files.flatMap (F.dialect.messages · F.tool F.directory)) := by
  obtain ⟨call, hplan⟩ := exists_ofOptions_eq F c names
  rw [(Plan.gives_perform w c _).fst_run, (Plan.gives_perform w c _).result_eq]
  refine (Plan.outcome_eq_ok_iff hplan hl hend).2 ⟨hw, rfl, ?_⟩
  rw [htext]
  exact Dialect.reformats_text hf

/-- If a formatter ends well and has written a diff, its linter has messages. They
    are, hunk by hunk, about the files and the lines that the diff is about, if and
    only if the paths of the files are read right. -/
theorem places_perform_iff (log : List World.Launch) :
    ∃ ms, (((Plan.ofOptions F.options c names).perform w c).run.run log).1 = .ok ms ∧
      (ms.map Message.place = files.flatMap Reformat.places ↔ ∀ f ∈ files, F.Names f.path) := by
  refine ⟨_, perform_text hl hend htext hf hw log, ?_⟩
  rw [Dialect.map_place_flatMap_iff]
  exact forall₂_congr fun f _ => path?_iff_names F f

end

/-- A world in which `black` writes a diff, whatever it is asked. -/
def formattingWorld (files : List Reformat) : World where
  tree := ⟨[(["a.py"], .file [])]⟩
  program?
    | "black" => some fun _ _ =>
      .ends (.code 0) (Utf8.encode (Diff.Patch.black.text files).toList) []
    | _ => none

/-- A file in which a line would be replaced, whatever it says, and two lines would
    be inserted below. -/
def replacing (path : PlainPath) : Reformat where
  path := path
  hunks :=
    [{ old := 0
       new := 0
       hunk :=
        { skipped := []
          edits :=
            [⟨.kept, ⟨"import re".toList, by decide⟩, false⟩,
              ⟨.removed, ⟨"-- b/y".toList, by decide⟩, false⟩,
              ⟨.added, ⟨"++ b/y".toList, by decide⟩, false⟩]
          heading := ⟨"class A:".toList, by decide⟩ } },
      { old := 10
        new := 10
        hunk :=
        { skipped := []
          edits :=
            [⟨.added, ⟨"y = 2".toList, by decide⟩, false⟩,
              ⟨.added, ⟨"z = 3".toList, by decide⟩, false⟩]
          heading := ⟨"class A:".toList, by decide⟩ } }]
  oldTime := ⟨"10:00:00".toList, by decide⟩
  newTime := ⟨"10:00:01".toList, by decide⟩

/-- A file in a directory of some name. -/
def packaged : Reformat := replacing { chars := "pkg/a.py".toList }

/-- A file in a directory that has the name of a side. -/
def sidelong : Reformat := replacing { chars := "b/x.py".toList }

theorem places_perform_iff_packaged :
    ∃ ms, (((Plan.ofOptions (.black {}) { root := "/" } ["pkg/a.py"]).perform
        (formattingWorld [packaged]) { root := "/" }).run.run []).1 = .ok ms ∧
      ms.map Message.place =
        [(some "pkg/a.py", some (1, 2)), (some "pkg/a.py", some (10, 10))] := by
  obtain ⟨l, hl, hend⟩ : ∃ l ∈ (Plan.ofOptions (black {}).options { root := "/" }
      ["pkg/a.py"]).launches (formattingWorld [packaged]) { root := "/" },
        l.result = .ok (.ends (.code 0)
          (Utf8.encode (Diff.Patch.black.text [packaged]).toList) []) :=
    ⟨_, List.mem_cons_self, rfl⟩
  have htext : ToolOutput.textOf (Utf8.encode (Diff.Patch.black.text [packaged]).toList) =
      (black {}).dialect.text [packaged] := congrArg String.ofList (by decide +kernel)
  have hbare : packaged.path.IsBare := ⟨by decide, by decide, by decide⟩
  obtain ⟨ms, hms, hplaces⟩ := places_perform_iff hl hend htext (by decide) rfl []
  refine ⟨ms, hms, (hplaces.2 fun f hf => ?_).trans (by decide)⟩
  rwa [List.mem_singleton.1 hf]

/-- The messages about a file in a directory `b` are about another file. -/
theorem places_black :
    ∃ l ∈ (Plan.ofOptions (.black {}) { root := "/" } ["b/x.py"]).launches
        (formattingWorld [sidelong]) { root := "/" },
      l.result = .ok (.ends (.code 0)
        (Utf8.encode (Diff.Patch.black.text [sidelong]).toList) []) ∧
      ∃ ms, (((Plan.ofOptions (.black {}) { root := "/" } ["b/x.py"]).perform
          (formattingWorld [sidelong]) { root := "/" }).run.run []).1 = .ok ms ∧
        ms.map Message.place = [(some "x.py", some (1, 2)), (some "x.py", some (10, 10))] ∧
          sidelong.places = [(some "b/x.py", some (1, 2)), (some "b/x.py", some (10, 10))] := by
  refine ⟨_, List.mem_cons_self, rfl, ?_⟩
  have htext : ToolOutput.textOf (Utf8.encode (Diff.Patch.black.text [sidelong]).toList) =
      (black {}).dialect.text [sidelong] := congrArg String.ofList (by decide +kernel)
  exact ⟨_, perform_text (F := black {}) List.mem_cons_self rfl htext (by decide) rfl [],
    by decide +kernel, by decide⟩

end Formatter

end Lintscope

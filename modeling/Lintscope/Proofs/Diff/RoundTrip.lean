import Lintscope.Proofs.Diff.Reading
import Lintscope.Proofs.Order.Ascending

/-!
# Reading back a patch

A patch reads back as the changes that it was written from (`parse_render`),
each file by itself (`exists_foldlM_lines`): its kind may be told by several
headers, which agree in the end, and its hunks are taken by the lengths that
their headers announce.
-/

namespace Lintscope.Diff

open Text Patch

/-! ## Lines without newlines -/

theorem newline_not_mem_chars (p : PlainPath) : '\n' ∉ p.chars := p.not_mem_chars (by decide)

theorem newline_not_mem_modeLines {modes : Option (Line × Line)} :
    ∀ l ∈ modeLines modes, '\n' ∉ l := by
  rcases modes with _ | ⟨old, new⟩
  · simp [modeLines]
  · simp [modeLines, old.2, new.2]

theorem newline_not_mem_kindLines (path : PlainPath) (k : Kind) :
    ∀ l ∈ k.lines path, '\n' ∉ l := by
  cases k with
  | added mode => simp [Kind.lines, mode.2]
  | deleted mode => simp [Kind.lines, mode.2]
  | modified modes => exact newline_not_mem_modeLines
  | renamed source modes similarity =>
    rw [Kind.lines, List.forall_mem_append]
    refine ⟨newline_not_mem_modeLines, ?_⟩
    simp [similarity.2, newline_not_mem_chars]

theorem newline_not_mem_edits (es : List Edit) : ∀ l ∈ es.flatMap Edit.lines, '\n' ∉ l := by
  intro l hl
  obtain ⟨e, -, hl⟩ := List.mem_flatMap.1 hl
  have hsign : '\n' ≠ e.fate.sign := by cases e.fate <;> decide
  rcases List.mem_cons.1 hl with rfl | hl
  · exact List.not_mem_cons_of_ne_of_not_mem hsign e.text.2
  · split at hl
    · rw [List.mem_singleton.1 hl]
      decide
    · cases hl

theorem newline_not_mem_header (h : FileHunk) (old new : Nat) : '\n' ∉ h.header old new := by
  have hspan := not_mem_writeSpan (c := '\n') (by decide) (by decide)
  have hheading : '\n' ∉ writeHeading h.heading.1 := by
    rw [writeHeading]
    split
    · simp
    · exact List.not_mem_cons_of_ne_of_not_mem (by decide) h.heading.2
  have hmark : '\n' ∉ hunkMark := by decide
  simp [FileHunk.header, hmark, hspan, hheading]

theorem newline_not_mem_hunkLines (old new : Nat) (hunks : List FileHunk) :
    ∀ l ∈ hunkLines old new hunks, '\n' ∉ l := by
  induction hunks generalizing old new with
  | nil => simp [hunkLines]
  | cons h hs ih =>
    rw [hunkLines, FileHunk.lines, List.forall_mem_append, List.forall_mem_cons]
    exact ⟨⟨newline_not_mem_header h _ _, newline_not_mem_edits h.edits⟩, ih _ _⟩

theorem newline_not_mem_oldSide (c : FilePatch) : '\n' ∉ c.oldSide := by
  rw [FilePatch.oldSide]
  split
  · decide
  · simp [newline_not_mem_chars]

theorem newline_not_mem_newSide (c : FilePatch) : '\n' ∉ c.newSide := by
  rw [FilePatch.newSide]
  split
  · decide
  · simp [newline_not_mem_chars]

theorem newline_not_mem_sideLine {marker side : List Char} (hm : '\n' ∉ marker)
    (hs : '\n' ∉ side) : '\n' ∉ sideLine marker side := by
  rw [sideLine]
  split <;> simp [hm, hs]

theorem newline_not_mem_contentLines (c : FilePatch) : ∀ l ∈ c.contentLines, '\n' ∉ l := by
  have ho := newline_not_mem_oldSide c
  have hn := newline_not_mem_newSide c
  have htext : ∀ l ∈ c.textLines, '\n' ∉ l := by
    rw [FilePatch.textLines]
    split
    · simp
    · rw [List.forall_mem_cons, List.forall_mem_cons]
      exact ⟨newline_not_mem_sideLine (by decide) ho, newline_not_mem_sideLine (by decide) hn,
        newline_not_mem_hunkLines 0 0 c.hunks⟩
  rw [FilePatch.contentLines]
  split
  · simp
  · next index _ => simp [index.2, ho, hn]
  · next index _ _ =>
    rw [List.forall_mem_cons]
    exact ⟨by simp [index.2], htext⟩

theorem newline_not_mem_lines (c : FilePatch) : ∀ l ∈ c.lines, '\n' ∉ l := by
  rw [FilePatch.lines, List.forall_mem_cons, List.forall_mem_append]
  refine ⟨?_, newline_not_mem_kindLines c.path c.kind, newline_not_mem_contentLines c⟩
  have hmark : '\n' ∉ fileMark := by decide
  simp [FilePatch.header, hmark, newline_not_mem_chars]

/-! ## One file -/

theorem turns_modeLines (d : Draft) (modes : Option (Line × Line)) :
    Turns d ((modeLines modes).map dropReturn) d := by
  rcases modes with _ | ⟨old, new⟩
  · exact .nil d
  · exact .cons (silent_oldMode.turns (by decide) d old.1)
      (silent_newMode.turns (by decide) d new.1)

/-- The headers about what a file is agree on its path and its kind, also where
    the line that begins it does not give the path of a file that was moved. -/
theorem exists_turns_kindLines (path : PlainPath) (k : Kind) :
    ∃ p, filePath? ("a/".toList ++ (k.oldPath path).chars ++ " b/".toList ++ path.chars) = some p ∧
      Turns { path := p } ((k.lines path).map dropReturn)
        { path := .ofList path.chars, status := k.status } := by
  cases k with
  | added mode => exact ⟨_, filePath?_same path, turns_newFile _ mode.1⟩
  | deleted mode => exact ⟨_, filePath?_same path, turns_deletedFile _ mode.1⟩
  | modified modes => exact ⟨_, filePath?_same path, turns_modeLines _ modes⟩
  | renamed source modes similarity =>
    -- The first line may be cut at the wrong place, but a later one gives the path.
    obtain ⟨p, hp⟩ := exists_filePath? ("a/".toList ++ source.chars) path
    refine ⟨p, hp, ?_⟩
    rw [Kind.lines, List.map_append]
    exact (turns_modeLines _ modes).append <| .cons (silent_similarity.turns (by decide) _ similarity.1) <|
      .cons (turns_renameFrom _ source) (turns_renameTo _ path)

/-- The line that names the old side says what is known. -/
theorem turns_oldSideLine (c : FilePatch) {d : Draft} (hs : d.status = c.kind.status)
    (hh : d.inHunks = false) :
    Turns d [dropReturn (sideLine "--- ".toList c.oldSide)] d := by
  rw [FilePatch.oldSide]
  split
  · next mode hk =>
    have hd : { d with status := .added } = d := by
      rw [hk] at hs
      exact congrArg (fun s => { d with status := s }) hs.symm
    simpa only [hd] using turns_oldSide_nowhere hh
  · exact turns_oldSide hh _

/-- The line that names the new side says what is known. -/
theorem turns_newSideLine (c : FilePatch) {d : Draft} (hs : d.status = c.kind.status)
    (hp : d.path = .ofList c.path.chars) :
    Turns d [dropReturn (sideLine "+++ ".toList c.newSide)] d := by
  rw [FilePatch.newSide]
  split
  · next mode hk =>
    have hd : { d with status := .deleted } = d := by
      rw [hk] at hs
      exact congrArg (fun s => { d with status := s }) hs.symm
    simpa only [hd] using turns_newSide_nowhere d
  · have hd : { d with path := .ofList c.path.chars } = d := by rw [← hp]
    simpa only [hd] using turns_newSide d c.path

theorem turns_contentLines (c : FilePatch) (hc : c.Fits) {d : Draft} (hs : d.status = c.kind.status)
    (hp : d.path = .ofList c.path.chars) (hh : d.inHunks = false) :
    Turns d (c.contentLines.map dropReturn) (d.addHunks 0 0 c.hunks) := by
  have hnone : d.addHunks 0 0 [] = d := Draft.addHunks_nil d 0 0
  have htext : Turns d (c.textLines.map dropReturn) (d.addHunks 0 0 c.hunks) := by
    rw [FilePatch.textLines]
    split
    · next h0 =>
      rw [h0, hnone]
      exact .nil d
    · exact .cons (turns_oldSideLine c hs hh) <| .cons (turns_newSideLine c hs hp) <|
        turns_hunkLines d c.hunks (by simpa using hc.1) (by simpa using hc.2)
  rw [FilePatch.contentLines]
  split
  · next hk =>
    rw [FilePatch.hunks, hk, hnone]
    exact .nil d
  · next index hk =>
    rw [FilePatch.hunks, hk, hnone]
    refine .cons (silent_index.turns (by decide) d index.1) ?_
    simp only [List.append_assoc]
    exact silent_binary.turns (by decide) d _
  · next index _ hk => exact .cons (silent_index.turns (by decide) d index.1) htext

theorem readHeader_fileMark (r : Reader) (rest : List Char) :
    r.readHeader (fileMark ++ rest) = r.readFileHeader (fileMark ++ rest) rest := rfl

theorem path_ne_empty (p : PlainPath) : String.ofList p.chars ≠ "" := by
  rw [ne_eq, String.ofList_eq_empty_iff]
  exact p.ne_nil

/-- The draft that all lines about a file make describes the file. -/
theorem file_addHunks (c : FilePatch) :
    (Draft.addHunks { path := .ofList c.path.chars, status := c.kind.status } 0 0 c.hunks).file =
      c.file := by
  simp [Draft.file, Draft.addHunks, FilePatch.file,
    Ascending.ofList_of_pairwise (pairwise_addedLines 1 (script c.hunks))]

/-- The lines about a file are read as they were written, whatever was read
    before them. -/
theorem exists_foldlM_lines (c : FilePatch) (hc : c.Fits) {r : Reader}
    (hr : r.cursor.isOpen = false) :
    ∃ r', (c.lines.map dropReturn).foldlM Reader.readLine r = .ok r' ∧
      r'.cursor.isOpen = false ∧ r'.finish = r.finish ++ [c.file] := by
  -- The first line finishes the file before; the others turn a draft of their own.
  obtain ⟨p, hp, hkind⟩ := exists_turns_kindLines c.path c.kind
  have hheader : r.readLine (dropReturn c.header) = .ok (r.begin { path := p }) := by
    have hd : dropReturn c.header = c.header := by
      rw [FilePatch.header, ← List.append_assoc, dropReturn_append_chars]
    rw [hd, Reader.readLine_of_closed hr, FilePatch.header, readHeader_fileMark,
      Reader.readFileHeader, hp]
  have hbegin : (r.begin { path := p }).Drafts r.finish { path := p } := ⟨rfl, rfl, rfl⟩
  obtain ⟨r', hr', hd⟩ := hkind.append (turns_contentLines c hc rfl rfl rfl) _ _ hbegin
  refine ⟨r', ?_, hd.closed, ?_⟩
  · rw [FilePatch.lines, List.map_cons, List.map_append, List.foldlM_cons, hheader]
    exact hr'
  · rw [hd.finish (path_ne_empty c.path), file_addHunks]

/-! ## All files -/

/-- A text is read by the lines that it was written from. -/
theorem parse_written {ls : List (List Char)} (h : ∀ l ∈ ls, '\n' ∉ l) :
    parse (.ofList (written ls)) =
      Reader.finish <$> (ls.map dropReturn).foldlM Reader.readLine {} := by
  rw [parse, String.toList_ofList, lines_written h]

/-- What is written one behind the other is read one after the other, if each can be
    read where the reader stands, and leaves it where the next one can be read. -/
theorem exists_foldlM_flatMap {α : Type} {lines : α → List (List Char)}
    {changes : α → List FileChange} {Stands : Reader → Prop} {items : List α}
    (step : ∀ a ∈ items, ∀ r, Stands r →
      ∃ r', ((lines a).map dropReturn).foldlM Reader.readLine r = .ok r' ∧ Stands r' ∧
        r'.finish = r.finish ++ changes a) {r : Reader} (hr : Stands r) :
    ∃ r', ((items.flatMap lines).map dropReturn).foldlM Reader.readLine r = .ok r' ∧
      r'.finish = r.finish ++ items.flatMap changes := by
  induction items generalizing r with
  | nil => exact ⟨r, rfl, (List.append_nil _).symm⟩
  | cons a items ih =>
    rw [List.forall_mem_cons] at step
    obtain ⟨r', hr', hstands, hfinish⟩ := step.1 r hr
    obtain ⟨r'', hr'', hfinish'⟩ := ih step.2 hstands
    refine ⟨r'', ?_, by rw [hfinish', hfinish, List.append_assoc, List.flatMap_cons]⟩
    rw [List.flatMap_cons, List.map_append, List.foldlM_append, hr']
    exact hr''

theorem exists_foldlM_flatMap_lines {changes : List FilePatch} (hc : ∀ c ∈ changes, c.Fits)
    {r : Reader} (hr : r.cursor.isOpen = false) :
    ∃ r', ((changes.flatMap FilePatch.lines).map dropReturn).foldlM Reader.readLine r = .ok r' ∧
      r'.finish = r.finish ++ changes.map FilePatch.file := by
  -- The reader may hold any file; all that is asked is that it owes no line.
  rw [List.map_eq_flatMap (f := FilePatch.file)]
  exact exists_foldlM_flatMap (fun c hmem _ hclosed => exists_foldlM_lines c (hc c hmem) hclosed) hr

/-- A patch reads back as the changes that it was written from, in their order:
    each with its path and its kind, with the numbers of the lines that it adds
    and with the old stretches of its hunks. So neither what a line of a hunk
    says nor how many kept lines stay around a change is of any matter. -/
theorem parse_render (changes : List FilePatch) (hc : ∀ c ∈ changes, c.Fits) :
    parse (render changes) = .ok (changes.map FilePatch.file) := by
  obtain ⟨r, hr, hfinish⟩ := exists_foldlM_flatMap_lines hc (r := {}) rfl
  rw [render, parse_written (List.forall_mem_flatMap.2 fun c _ => newline_not_mem_lines c), hr]
  exact congrArg Except.ok hfinish

/-- A moved file whose hunks are full of lines that look like headers, and a new
    file without a newline at its end. -/
def imitations : List FilePatch :=
  [{ path := { chars := "b c.py".toList }
     kind := .renamed { chars := "a.py".toList } none ⟨"80%".toList, by decide⟩
     content := .text ⟨"1..2 100644".toList, by decide⟩
      [{ skipped := [⟨"import os".toList, by decide⟩]
         edits :=
          [⟨.kept, ⟨[], by decide⟩, false⟩,
            ⟨.removed, ⟨"-- a/x".toList, by decide⟩, false⟩,
            ⟨.added, ⟨"++ b/x".toList, by decide⟩, false⟩,
            ⟨.added, ⟨"diff --git a/x b/x".toList, by decide⟩, false⟩]
         heading := ⟨"@@ -1 +1 @@".toList, by decide⟩ },
       { skipped := []
         edits := [⟨.removed, ⟨"x = 1".toList, by decide⟩, false⟩] }] },
   { path := { chars := "d.py".toList }
     kind := .added ⟨"100644".toList, by decide⟩
     content := .text ⟨"0..3".toList, by decide⟩
      [{ skipped := []
         edits := [⟨.added, ⟨"@@ -1 +1 @@".toList, by decide⟩, true⟩] }] }]

theorem parse_render_imitations :
    (∀ c ∈ imitations, c.Fits) ∧
      parse (render imitations) =
        .ok [⟨"b c.py", .renamed "a.py", [3, 4], [⟨2, 2⟩, ⟨4, 1⟩]⟩,
          ⟨"d.py", .added, [1], [⟨0, 0⟩]⟩] := by
  have hfits : ∀ c ∈ imitations, c.Fits := by decide
  exact ⟨hfits, parse_render imitations hfits⟩

end Lintscope.Diff

import Lintscope.Proofs.Diff.RoundTrip

/-!
# Reading the diffs of formatters

A formatter writes no line that begins a file, only the two lines that name its
sides, and it has its own way to write these (`Dialect`). The reader takes the
line of the old side for the beginning of a file, once the file before has had
a hunk. So the files of the diff are all there (`Dialect.parse_text`), each with
its own hunks, but with what the reader makes of its two sides; a side that
starts with `a/` or `b/` is taken to be written by version control.
-/

namespace Lintscope.Diff

open Text Patch

namespace Patch

/-! ## What is written -/

/-- A hunk at some place, after `old` and `new` lines of the revisions. What is
    left out before it is told by these numbers. -/
structure PlacedHunk where
  /-- The number of lines of the old revision before it. -/
  old : Nat
  /-- The number of lines of the new revision before it. -/
  new : Nat
  /-- What is written. -/
  hunk : FileHunk

namespace PlacedHunk

variable (h : PlacedHunk)

/-- The lines of the hunk. -/
def lines : List (List Char) := h.hunk.lines h.old h.new

/-- The stretch that the hunk covers in the old revision. -/
def span : Span := stretch h.old h.hunk.oldLength

/-- The numbers of the lines that the hunk adds. -/
def added : List Nat := addedLines (h.new + 1) h.hunk.edits

/-- The first and the last line that the hunk covers in the old revision. One
    that only inserts lines is at the line before them, or at the first one. -/
def extent : Nat × Nat :=
  if h.hunk.oldLength = 0 then (max h.old 1, max h.old 1)
  else (h.old + 1, h.old + h.hunk.oldLength)

/-- The lines that the hunk covers have numbers of 32 bits, and there is one
    more such number in the old revision. -/
def Fits : Prop :=
  h.old + h.hunk.oldLength + 1 < limit32 ∧ h.new + h.hunk.newLength < limit32

instance : Decidable h.Fits := inferInstanceAs (Decidable (_ ∧ _))

end PlacedHunk

/-- What a formatter would change in a file: at least something. -/
structure Reformat where
  /-- The path of the file. -/
  path : PlainPath
  /-- The hunks. -/
  hunks : List PlacedHunk
  hunks_ne_nil : hunks ≠ [] := by nofun
  /-- When the file was written. -/
  oldTime : Line := ⟨[], by simp⟩
  /-- When the file would be written. -/
  newTime : Line := ⟨[], by simp⟩

/-- How a formatter names the sides of a file. -/
structure Dialect where
  /-- The name of the old side, and what follows it. -/
  old : Reformat → Line
  /-- The name of the new side, and what follows it. -/
  new : Reformat → Line

namespace Dialect

variable (d : Dialect) (f : Reformat)

/-- The lines about a file. -/
def lines : List (List Char) :=
  ("--- ".toList ++ (d.old f).1) :: ("+++ ".toList ++ (d.new f).1) ::
    f.hunks.flatMap PlacedHunk.lines

/-- The text of a diff. -/
def text (files : List Reformat) : String := .ofList (written (files.flatMap d.lines))

end Dialect

end Patch

/-! ## Sides -/

/-- A carriage return is a blank, so it is not read at the end of a side. -/
theorem sidePath?_dropReturn (side s : List Char) :
    sidePath? side (dropReturn s) = sidePath? side s := by
  have htrim (t : List Char) : trimEnd ((t ++ ['\r']).takeWhile (· != '\t')) =
      trimEnd (t.takeWhile (· != '\t')) := by
    rw [List.takeWhile_append]
    -- Behind a tab it is no part of the side; without one, it is at the end and trimmed.
    split
    · next h =>
      rw [(List.takeWhile_sublist _).eq_of_length h]
      exact trimEnd_concat_of_isBlank (by decide) t
    · rfl
  rcases List.eq_nil_or_concat s with rfl | ⟨t, c, rfl⟩
  · rfl
  · by_cases hc : c = '\r'
    · rw [hc, List.concat_eq_append, sidePath?, sidePath?, htrim]
      simp [dropReturn]
    · simp [dropReturn, hc]

/-- The draft of a file with the paths of its two sides, as far as there are any. -/
def Draft.ofSides (old new : Option String) : Draft where
  path := new.getD (old.getD "")
  status := if new = none then .deleted else if old = none then .added else .modified

theorem turns_anyNewSide (old : Option String) (s : List Char) :
    Turns { path := old.getD "", status := if old = none then .added else .modified }
      [dropReturn ("+++ ".toList ++ s)] (.ofSides old (sidePath? "b/".toList s)) := by
  rw [dropReturn_append (by decide), ← sidePath?_dropReturn]
  have hdraft : Draft.nameNew
      { path := old.getD "", status := if old = none then .added else .modified }
      (sidePath? "b/".toList (dropReturn s)) = .ofSides old (sidePath? "b/".toList (dropReturn s)) := by
    cases sidePath? "b/".toList (dropReturn s) <;> rfl
  exact hdraft ▸ turns_of_update (f := fun d => d.nameNew _) fun r _ => readHeader_newSide r _

/-! ## Hunks -/

theorem newline_not_mem_placed (h : PlacedHunk) : ∀ l ∈ h.lines, '\n' ∉ l := by
  rw [PlacedHunk.lines, FileHunk.lines, List.forall_mem_cons]
  exact ⟨newline_not_mem_header h.hunk h.old h.new, newline_not_mem_edits h.hunk.edits⟩

/-- The draft with further hunks. -/
def Draft.addPlaced (d : Draft) (hunks : List PlacedHunk) : Draft :=
  { d with
    added := (hunks.flatMap PlacedHunk.added).reverse ++ d.added
    spans := (hunks.map PlacedHunk.span).reverse ++ d.spans
    inHunks := d.inHunks || !hunks.isEmpty }

theorem Draft.addPlaced_cons (d : Draft) (h : PlacedHunk) (hs : List PlacedHunk) :
    d.addPlaced (h :: hs) =
      ({ d with spans := h.span :: d.spans, inHunks := true }.add h.added).addPlaced hs := by
  simp [Draft.addPlaced, Draft.add]

theorem turns_placed {hunks : List PlacedHunk} (hf : ∀ h ∈ hunks, h.Fits) (d : Draft) :
    Turns d ((hunks.flatMap PlacedHunk.lines).map dropReturn) (d.addPlaced hunks) := by
  -- Every hunk has a place of its own, so that those before it are of no matter.
  induction hunks generalizing d with
  | nil =>
    have hd : d.addPlaced [] = d := by simp [Draft.addPlaced]
    rw [hd]
    exact .nil d
  | cons h hs ih =>
    rw [List.forall_mem_cons] at hf
    obtain ⟨ho, hn⟩ := hf.1
    rw [List.flatMap_cons, List.map_append, Draft.addPlaced_cons]
    exact (turns_hunk d h.hunk (by omega) hn).append (ih hf.2 _)

/-! ## Files -/

/-- The reader is where the line that names an old side begins a file: nothing
    is owed, and a file before has had a hunk. -/
structure Reader.Between (r : Reader) : Prop where
  closed : r.cursor.isOpen = false
  inHunks : r.draft.all Draft.inHunks = true

/-- The line that names the old side begins the file. -/
theorem Reader.Between.exists_readLine {r : Reader} (hr : r.Between) (s : List Char) :
    ∃ r', r.readLine (dropReturn ("--- ".toList ++ s)) = .ok r' ∧
      r'.Drafts r.finish
        { path := (sidePath? "a/".toList s).getD ""
          status := if sidePath? "a/".toList s = none then .added else .modified } := by
  have hread : r.readLine (dropReturn ("--- ".toList ++ s)) =
      .ok (r.readOldSide (dropReturn s)) := by
    rw [dropReturn_append (by decide), Reader.readLine_of_closed hr.closed]
    rfl
  refine ⟨_, hread, ?_⟩
  rw [Reader.readOldSide, sidePath?_dropReturn]
  simp only [hr.inHunks, ↓reduceIte]
  cases sidePath? "a/".toList s with
  | none => exact ⟨rfl, rfl, rfl⟩
  | some path => exact ⟨rfl, rfl, rfl⟩

namespace Patch.Dialect

variable (d : Dialect) (f : Reformat)

/-- The draft that all lines about a file make. -/
def draft : Draft :=
  (Draft.ofSides (sidePath? "a/".toList (d.old f).1) (sidePath? "b/".toList (d.new f).1)).addPlaced
    f.hunks

/-- What is read of a file; nothing if no path is left of it. -/
def changes : List FileChange := if (d.draft f).path = "" then [] else [(d.draft f).file]

variable {d f}

theorem exists_foldlM_lines (hf : ∀ h ∈ f.hunks, h.Fits) {r : Reader} (hr : r.Between) :
    ∃ r', ((d.lines f).map dropReturn).foldlM Reader.readLine r = .ok r' ∧ r'.Between ∧
      r'.finish = r.finish ++ d.changes f := by
  obtain ⟨r₁, hr₁, hd₁⟩ := hr.exists_readLine (d.old f).1
  obtain ⟨r₂, hr₂, hd₂⟩ := Turns.cons (turns_anyNewSide (sidePath? "a/".toList (d.old f).1)
    (d.new f).1) (turns_placed hf _) _ _ hd₁
  refine ⟨r₂, ?_, ⟨hd₂.closed, ?_⟩, ?_⟩
  · rw [lines, List.map_cons, List.foldlM_cons, hr₁]
    exact hr₂
  · -- The file has a hunk, so that the next one can begin.
    simp [hd₂.draft_eq, Draft.addPlaced, f.hunks_ne_nil]
  · change r₂.Drafts r.finish (d.draft f) at hd₂
    rw [changes]
    split
    · next h => simp [Reader.finish, hd₂.draft_eq, hd₂.files_eq, h]
    · next h => exact hd₂.finish h

theorem newline_not_mem_lines (f : Reformat) : ∀ l ∈ d.lines f, '\n' ∉ l := by
  rw [lines, List.forall_mem_cons, List.forall_mem_cons]
  exact ⟨by simp [(d.old f).2], by simp [(d.new f).2],
    List.forall_mem_flatMap.2 fun h _ => newline_not_mem_placed h⟩

/-- A formatter's diff is read file by file, whatever the lines of its hunks say. -/
theorem parse_text {files : List Reformat} (hf : ∀ f ∈ files, ∀ h ∈ f.hunks, h.Fits) :
    parse (d.text files) = .ok (files.flatMap d.changes) := by
  have hstart : ({} : Reader).Between := ⟨rfl, rfl⟩
  obtain ⟨r, hr, hfinish⟩ := exists_foldlM_flatMap
    (fun f hmem _ hbetween => exists_foldlM_lines (d := d) (hf f hmem) hbetween) hstart
  rw [text, parse_written (List.forall_mem_flatMap.2 fun f _ => newline_not_mem_lines f), hr]
  exact congrArg Except.ok hfinish

end Patch.Dialect

end Lintscope.Diff

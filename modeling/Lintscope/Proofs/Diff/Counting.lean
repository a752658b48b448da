import Lintscope.Proofs.Diff.Formatted
import Lintscope.Proofs.Except

/-!
# Reading hunks by their lengths

Where a hunk stands may be told by numbers that the reader has no room for; then
it refuses the line that begins the hunk. But a hunk that is begun is read to its
end, since its lengths are right: they tell the reader how many lines it owes
(`Reader.Counts`), whatever place the hunk has. So after all hunks of a file the
next file can begin (`between_of_foldlM_placed`).

What the hunks are read to depends on nothing but the file that they belong to
and the files before it (`foldlM_placed_congr`).
-/

namespace Lintscope.Diff

open Text Patch

/-- The reader is in a hunk of which it owes some lines, wherever these stand. -/
structure Reader.Counts (r : Reader) (es : List Edit) : Prop where
  inHunks : ∃ d, r.draft = some d ∧ d.inHunks = true
  oldLeft : r.cursor.oldLeft = (oldSide es).length
  newLeft : r.cursor.newLeft = (newSide es).length

namespace Reader.Counts

variable {r r' : Reader} {e : Edit} {es : List Edit}

theorem isOpen_eq (h : r.Counts es) : r.cursor.isOpen = !es.isEmpty :=
  Cursor.isOpen_eq h.oldLeft h.newLeft

/-- With no line owed, another file can begin. -/
theorem between (h : r.Counts []) : r.Between where
  closed := h.isOpen_eq
  inHunks := by
    obtain ⟨d, hd, hh⟩ := h.inHunks
    rw [hd]
    exact hh

/-! ## Lines of a hunk -/

/-- A line of the hunk is taken off the sides that it is on. -/
theorem exists_readLine_edit (h : r.Counts (e :: es)) (s : List Char) :
    ∃ r', r.readLine (e.fate.sign :: s) = .ok r' ∧ r'.Counts es := by
  obtain ⟨d, hd, hh⟩ := h.inHunks
  have hold := h.oldLeft
  have hnew := h.newLeft
  rw [oldSide_cons, List.length_append] at hold
  rw [newSide_cons, List.length_append] at hnew
  rw [Reader.readLine, hd]
  simp only [h.isOpen_eq, List.isEmpty_cons, Bool.not_false, ↓reduceIte]
  cases hf : e.fate with
  | kept =>
    exact ⟨_, rfl, ⟨d, rfl, hh⟩, by simp [hold, oldSide, hf], by simp [hnew, newSide, hf]⟩
  | removed =>
    exact ⟨_, rfl, ⟨d, rfl, hh⟩, by simp [hold, oldSide, hf], by simpa [newSide, hf] using hnew⟩
  | added =>
    exact ⟨_, rfl, ⟨_, rfl, hh⟩, by simpa [oldSide, hf] using hold, by simp [hnew, newSide, hf]⟩

theorem exists_readLine_remark (h : r.Counts es) :
    ∃ r', r.readLine unendedRemark = .ok r' ∧ r'.Counts es := by
  obtain ⟨d, hd, hh⟩ := h.inHunks
  -- Behind the last line of a hunk the remark is read as a header, before that as content.
  cases es with
  | nil =>
    refine ⟨r.update id, readLine_of_closed h.between.closed _, ⟨d, ?_, hh⟩, rfl, rfl⟩
    rw [Reader.update, hd]
    rfl
  | cons e es =>
    refine ⟨{ r with draft := some d }, ?_, ⟨d, rfl, hh⟩, h.oldLeft, h.newLeft⟩
    rw [Reader.readLine, hd]
    simp only [h.isOpen_eq, List.isEmpty_cons, Bool.not_false, ↓reduceIte]
    rfl

/-- All lines of the hunk are read, after which none is owed. -/
theorem exists_foldlM_edits (h : r.Counts es) :
    ∃ r', ((es.flatMap Edit.lines).map dropReturn).foldlM Reader.readLine r = .ok r' ∧
      r'.Counts [] := by
  have hedit : ∀ e es (r : Reader) s, r.Counts (e :: es) →
      ∃ r', r.readLine (e.fate.sign :: s) = .ok r' ∧ r'.Counts es :=
    fun _ _ _ s hc => hc.exists_readLine_edit s
  have hremark : ∀ es (r : Reader), r.Counts es →
      ∃ r', r.readLine unendedRemark = .ok r' ∧ r'.Counts es :=
    fun _ _ hc => hc.exists_readLine_remark
  exact Diff.exists_foldlM_edits hedit hremark h

end Reader.Counts

/-! ## Hunks -/

theorem readLine_header {r : Reader} (hr : r.cursor.isOpen = false) (h : FileHunk) (old new : Nat) :
    r.readLine (dropReturn (h.header old new)) =
      r.readHunkHeader (dropReturn (h.header old new)) := by
  rw [Reader.readLine_of_closed hr, dropReturn_header]
  simp only [List.append_assoc]
  exact readHeader_hunkMark r _

/-- A hunk that is begun has the lengths that it should have. -/
theorem Reader.Drafts.counts_of_readLine_header {r r' : Reader} {files : List FileChange}
    {d : Draft} (hr : r.Drafts files d) {h : FileHunk} {old new : Nat}
    (hread : r.readLine (dropReturn (h.header old new)) = .ok r') : r'.Counts h.edits := by
  rw [readLine_header hr.closed, readHunkHeader, dropReturn_header, hunkRange?_writeSpan,
    hr.draft_eq] at hread
  split at hread
  · cases hread
  · cases hread
  · next range _ hrange hd =>
    cases hread
    split at hrange
    · cases hrange
      exact ⟨⟨_, rfl, rfl⟩, rfl, rfl⟩
    · cases hrange

/-- After the lines of a hunk that are read none is owed. -/
theorem counts_of_foldlM_lines {r r' : Reader} (hr : r.cursor.isOpen = false)
    (hd : r.draft.isSome = true) {h : PlacedHunk}
    (hread : (h.lines.map dropReturn).foldlM Reader.readLine r = .ok r') : r'.Counts [] := by
  obtain ⟨d, hd⟩ := Option.isSome_iff_exists.1 hd
  rw [PlacedHunk.lines, FileHunk.lines, List.map_cons, List.foldlM_cons, bind_eq_ok_iff] at hread
  obtain ⟨r₁, hheader, hedits⟩ := hread
  have hcounts := Reader.Drafts.counts_of_readLine_header ⟨rfl, hd, hr⟩ hheader
  obtain ⟨r₂, hr₂, hdone⟩ := hcounts.exists_foldlM_edits
  obtain rfl : r₂ = r' := Except.ok.inj (hr₂.symm.trans hedits)
  exact hdone

/-- Once all hunks of a file are read, another file can begin. -/
theorem between_of_foldlM_placed {r r' : Reader} (hr : r.cursor.isOpen = false)
    (hd : r.draft.isSome = true) {hunks : List PlacedHunk} (hne : hunks ≠ [])
    (hread : ((hunks.flatMap PlacedHunk.lines).map dropReturn).foldlM Reader.readLine r = .ok r') :
    r'.Between := by
  induction hunks generalizing r with
  | nil => exact absurd rfl hne
  | cons h hs ih =>
    rw [List.flatMap_cons, List.map_append, List.foldlM_append, bind_eq_ok_iff] at hread
    obtain ⟨r₁, hfirst, hrest⟩ := hread
    have hcounts := counts_of_foldlM_lines hr hd hfirst
    by_cases hnil : hs = []
    · rw [hnil] at hrest
      cases hrest
      exact hcounts.between
    · obtain ⟨d, hd₁, -⟩ := hcounts.inHunks
      exact ih hcounts.between.closed (by rw [hd₁]; rfl) hnil hrest

/-- Where the hunks of a file are read to depends on the files before, and on what
    was read of the file itself. -/
theorem foldlM_placed_congr {r r' : Reader} {files : List FileChange} {d : Draft}
    (hr : r.Drafts files d) (hr' : r'.Drafts files d) {hunks : List PlacedHunk}
    (hne : hunks ≠ []) :
    ((hunks.flatMap PlacedHunk.lines).map dropReturn).foldlM Reader.readLine r =
      ((hunks.flatMap PlacedHunk.lines).map dropReturn).foldlM Reader.readLine r' := by
  obtain ⟨h, hs, rfl⟩ := List.exists_cons_of_ne_nil hne
  -- The first line begins a hunk, and nothing is kept of one before it.
  have hheader : r.readLine (dropReturn (h.hunk.header h.old h.new)) =
      r'.readLine (dropReturn (h.hunk.header h.old h.new)) := by
    rw [readLine_header hr.closed, readLine_header hr'.closed, Reader.readHunkHeader,
      Reader.readHunkHeader, hr.draft_eq, hr'.draft_eq]
    cases hunkRange? (dropReturn (h.hunk.header h.old h.new)) with
    | none => rfl
    | some range => simp only [hr.files_eq, hr'.files_eq]
  simp only [List.flatMap_cons, PlacedHunk.lines, FileHunk.lines, List.cons_append, List.map_cons,
    List.foldlM_cons, hheader]

end Lintscope.Diff

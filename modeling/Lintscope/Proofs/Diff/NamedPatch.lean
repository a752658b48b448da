import Lintscope.Proofs.Diff.Quoting
import Lintscope.Proofs.Diff.RoundTrip

/-!
# Diffs with names of all kinds

A diff as version control writes it, with names in quotes where they need them.
Whatever the names are, the diff can be read, and each of its files with a
faithful name is among those that are read, under the path that the list of
files gives for it (`exists_parse`). The other files may be read by a wrong
path or status, but they take nothing away.
-/

namespace Lintscope.Diff.Quoting

open Text Patch

/-! ## Writing diffs -/

/-- What becomes of a file. -/
inductive Move where
  /-- It is new, and has a mode. -/
  | added (mode : Line)
  /-- It is gone; it had a mode. -/
  | deleted (mode : Line)
  /-- It stays, with its modes if they differ. -/
  | modified (modes : Option (Line × Line))
  /-- It comes from another name, with its modes if they differ, and how much of
      it stayed. -/
  | renamed (source : Name) (modes : Option (Line × Line)) (similarity : Line)

/-- A file in a diff. -/
structure NamedPatch where
  /-- The name in the new revision, or in the old one if the file is gone. -/
  name : Name
  /-- What becomes of the file. -/
  move : Move
  /-- What happens to its content. -/
  content : Content

namespace NamedPatch

variable (p : NamedPatch)

/-- The file is there in the new revision. -/
def Remains : Prop := ∀ mode, p.move ≠ .deleted mode

/-- The name in the old revision, or in the new one if the file is new. -/
def oldName : Name :=
  match p.move with
  | .renamed source _ _ => source
  | _ => p.name

/-- The lines about what becomes of the file. -/
def moveLines : List (List Char) :=
  match p.move with
  | .added mode => ["new file mode ".toList ++ mode.1]
  | .deleted mode => ["deleted file mode ".toList ++ mode.1]
  | .modified modes => modeLines modes
  | .renamed source modes similarity =>
    modeLines modes ++
      ["similarity index ".toList ++ similarity.1, "rename from ".toList ++ quoted [] source.chars,
        "rename to ".toList ++ quoted [] p.name.chars]

/-- The name of the old side. -/
def oldSide : List Char :=
  match p.move with
  | .added _ => nowhere
  | _ => quoted "a/".toList p.oldName.chars

/-- The name of the new side. -/
def newSide : List Char :=
  match p.move with
  | .deleted _ => nowhere
  | _ => quoted "b/".toList p.name.chars

/-- The hunks of the file. -/
def hunks : List FileHunk :=
  match p.content with
  | .text _ hunks => hunks
  | _ => []

/-- The lines that name the sides, and the hunks; without hunks there are none. -/
def textLines : List (List Char) :=
  if p.hunks = [] then []
  else
    sideLine "--- ".toList p.oldSide :: sideLine "+++ ".toList p.newSide :: hunkLines 0 0 p.hunks

/-- The lines about the content. -/
def contentLines : List (List Char) :=
  match p.content with
  | .same => []
  | .binary index =>
    ["index ".toList ++ index.1,
      "Binary files ".toList ++ p.oldSide ++ " and ".toList ++ p.newSide ++ " differ".toList]
  | .text index _ => ("index ".toList ++ index.1) :: p.textLines

/-- The lines of the file. -/
def lines : List (List Char) :=
  (fileMark ++ header p.oldName p.name) :: (p.moveLines ++ p.contentLines)

/-- All lines of either revision have numbers of 32 bits, as far as the hunks
    reach. -/
def Fits : Prop :=
  (Patch.oldSide (script p.hunks)).length < limit32 ∧
    (Patch.newSide (script p.hunks)).length < limit32

end NamedPatch

/-! ## Sides -/

theorem dropReturn_of_isLine {l : List Char} (h : IsLine l) : dropReturn l = l :=
  dropReturn_of_getLast? fun hlast => h.2 (List.mem_of_getLast? hlast)

theorem isLine_sideLine {marker side : List Char} (hm : IsLine marker) (hs : IsLine side) :
    IsLine (sideLine marker side) := by
  refine isLine_append (isLine_append hm hs) ?_
  split
  · exact ⟨by decide, by decide⟩
  · exact ⟨nofun, nofun⟩

theorem quoted_append_tab {lead : List Char} (hl : ' ' ∉ lead) (n : Name) :
    (quoted lead n.chars ++ if ' ' ∈ quoted lead n.chars then ['\t'] else []) = side lead n := by
  rw [side]
  simp only [blank_mem_quoted_iff hl]

theorem turns_nameOld {d : Draft} (hh : d.inHunks = false) {side : List Char} (hs : IsLine side) :
    Turns d [dropReturn (sideLine "--- ".toList side)]
      (d.nameOld (sidePath? "a/".toList (side ++ if ' ' ∈ side then ['\t'] else []))) := by
  rw [dropReturn_of_isLine (isLine_sideLine ⟨by decide, by decide⟩ hs), sideLine,
    List.append_assoc]
  exact turns_of_update (f := fun d => d.nameOld _) fun r hd => readHeader_oldSide hd hh _

theorem turns_nameNew (d : Draft) {side : List Char} (hs : IsLine side) :
    Turns d [dropReturn (sideLine "+++ ".toList side)]
      (d.nameNew (sidePath? "b/".toList (side ++ if ' ' ∈ side then ['\t'] else []))) := by
  rw [dropReturn_of_isLine (isLine_sideLine ⟨by decide, by decide⟩ hs), sideLine,
    List.append_assoc]
  exact turns_of_update (f := fun d => d.nameNew _) fun r _ => readHeader_newSide r _

/-! ## Moves -/

theorem readHeader_renameFrom (r : Reader) (n : Name) :
    r.readHeader ("rename from ".toList ++ quoted [] n.chars) =
      .ok (r.update fun d => { d with status := .renamed (listed n) }) :=
  canonicalPath_quoted n ▸ rfl

theorem readHeader_renameTo (r : Reader) (n : Name) :
    r.readHeader ("rename to ".toList ++ quoted [] n.chars) =
      .ok (r.update fun d => { d with path := listed n }) :=
  canonicalPath_quoted n ▸ rfl

theorem turns_moved (d : Draft) (m n : Name) :
    Turns d (["rename from ".toList ++ quoted [] m.chars,
        "rename to ".toList ++ quoted [] n.chars].map dropReturn)
      { d with status := .renamed (listed m), path := listed n } := by
  have hline : ∀ lead : List Char, IsLine lead → ∀ n : Name,
      dropReturn (lead ++ quoted [] n.chars) = lead ++ quoted [] n.chars := fun lead hl n =>
    dropReturn_of_isLine (isLine_append hl (isLine_quoted (by simp) n.chars))
  simp only [List.map_cons, List.map_nil, hline "rename from ".toList ⟨by decide, by decide⟩,
    hline "rename to ".toList ⟨by decide, by decide⟩]
  exact .cons
    (turns_of_update (f := fun d => { d with status := .renamed (listed m) }) fun r _ =>
      readHeader_renameFrom r m)
    (turns_of_update (f := fun d => { d with path := listed n }) fun r _ =>
      readHeader_renameTo r n)

/-! ## Files -/

namespace NamedPatch

variable {p : NamedPatch}

/-- The draft has the path and no wrong status if the file remains and has a
    faithful name. -/
def Tells (p : NamedPatch) (d : Draft) : Prop :=
  p.Remains → p.name.Faithful → d.path = listed p.name ∧ d.status ≠ .deleted

theorem isLine_oldSide (p : NamedPatch) : IsLine p.oldSide := by
  rw [oldSide]
  split
  · exact ⟨by decide, by decide⟩
  · exact isLine_quoted (by simp) _

theorem isLine_newSide (p : NamedPatch) : IsLine p.newSide := by
  rw [newSide]
  split
  · exact ⟨by decide, by decide⟩
  · exact isLine_quoted (by simp) _

theorem newSide_of_remains (hp : p.Remains) : p.newSide = quoted "b/".toList p.name.chars := by
  rw [newSide]
  split
  · next mode hm => exact absurd hm (hp mode)
  · rfl

/-- The line that begins the file gives the path if the file stays where it is;
    if it was moved, a later line does. -/
theorem exists_turns_moveLines (p : NamedPatch) {path : String}
    (h : filePath? (header p.oldName p.name) = some path) :
    ∃ d, d.inHunks = false ∧ p.Tells d ∧ Turns { path } (p.moveLines.map dropReturn) d := by
  obtain ⟨n, move, content⟩ := p
  have hstay : oldName ⟨n, move, content⟩ = n → n.Faithful → path = listed n := by
    intro hn hf
    rw [hn, (filePath?_header_eq_listed_iff n).2 hf] at h
    exact (Option.some.inj h).symm
  cases move with
  | added mode =>
    exact ⟨{ path, status := .added }, rfl, fun _ hf => ⟨hstay rfl hf, nofun⟩,
      turns_newFile _ mode.1⟩
  | deleted mode =>
    exact ⟨{ path, status := .deleted }, rfl, fun hr => absurd rfl (hr mode),
      turns_deletedFile _ mode.1⟩
  | modified modes =>
    exact ⟨{ path }, rfl, fun _ hf => ⟨hstay rfl hf, nofun⟩, turns_modeLines _ modes⟩
  | renamed source modes similarity =>
    -- Whatever path the first line gave, the last one replaces it.
    refine ⟨{ path := listed n, status := .renamed (listed source) }, rfl,
      fun _ _ => ⟨rfl, nofun⟩, ?_⟩
    rw [moveLines, List.map_append]
    exact (turns_modeLines _ modes).append <|
      .cons (silent_similarity.turns (by decide) _ similarity.1) (turns_moved _ source n)

/-- Whatever the lines about the sides say of another name, they are right about
    a faithful one. -/
theorem exists_turns_sides {d : Draft} (hh : d.inHunks = false) (hd : p.Tells d) :
    ∃ d', p.Tells d' ∧ Turns d ([sideLine "--- ".toList p.oldSide,
      sideLine "+++ ".toList p.newSide].map dropReturn) d' := by
  refine ⟨_, fun hr hf => ?_, (turns_nameOld hh p.isLine_oldSide).cons
    (turns_nameNew _ p.isLine_newSide)⟩
  have hside : sidePath? "b/".toList (side "b/".toList p.name) = some (listed p.name) :=
    (sidePath?_side_eq_listed_iff (by decide) (by decide) p.name).2 hf
  rw [newSide_of_remains hr, quoted_append_tab (by decide), hside]
  refine ⟨rfl, ?_⟩
  -- The old name may be of any kind, but at worst it makes a moved file a new one.
  change (d.nameOld _).status ≠ .deleted
  rcases d.status_nameOld _ with h | h <;> rw [h]
  · exact (hd hr hf).2
  · exact nofun

theorem exists_turns_contentLines (hp : p.Fits) {d : Draft} (hh : d.inHunks = false)
    (hd : p.Tells d) : ∃ d', p.Tells d' ∧ Turns d (p.contentLines.map dropReturn) d' := by
  have htext : ∃ d', p.Tells d' ∧ Turns d (p.textLines.map dropReturn) d' := by
    rw [textLines]
    split
    · exact ⟨d, hd, .nil d⟩
    · obtain ⟨d', hd', hsides⟩ := exists_turns_sides hh hd
      exact ⟨d'.addHunks 0 0 p.hunks, hd', hsides.append <|
        turns_hunkLines d' p.hunks (by simpa using hp.1) (by simpa using hp.2)⟩
  rw [contentLines]
  split
  · exact ⟨d, hd, .nil d⟩
  · next index _ =>
    refine ⟨d, hd, .cons (silent_index.turns (by decide) d index.1) ?_⟩
    simp only [List.append_assoc]
    exact silent_binary.turns (by decide) d _
  · next index _ _ =>
    obtain ⟨d', hd', hlines⟩ := htext
    exact ⟨d', hd', .cons (silent_index.turns (by decide) d index.1) hlines⟩

/-- Some file that is read is at the path of the list, and is not gone. -/
def Told (p : NamedPatch) (files : List FileChange) : Prop :=
  p.Remains → p.name.Faithful → ∃ f ∈ files, f.path = listed p.name ∧ f.status ≠ .deleted

theorem Told.mono {files files' : List FileChange} (h : p.Told files) (hs : files ⊆ files') :
    p.Told files' := by
  intro hr hf
  obtain ⟨f, hmem, hfile⟩ := h hr hf
  exact ⟨f, hs hmem, hfile⟩

/-- The lines of a file are read whatever was read before them, and take nothing of
    that away. -/
theorem exists_foldlM_lines (hp : p.Fits) {r : Reader} (hr : r.cursor.isOpen = false) :
    ∃ r', (p.lines.map dropReturn).foldlM Reader.readLine r = .ok r' ∧
      r'.cursor.isOpen = false ∧ r.finish ⊆ r'.finish ∧ p.Told r'.finish := by
  obtain ⟨path, hpath⟩ := exists_filePath?_header p.oldName p.name
  obtain ⟨d, hh, hd, hmove⟩ := exists_turns_moveLines p hpath
  obtain ⟨d', hd', hcontent⟩ := exists_turns_contentLines hp hh hd
  have hheader : r.readLine (dropReturn (fileMark ++ header p.oldName p.name)) =
      .ok (r.begin { path }) := by
    have hline := isLine_append (l := fileMark) ⟨by decide, by decide⟩
      (isLine_header p.oldName p.name)
    rw [dropReturn_of_isLine hline, Reader.readLine_of_closed hr, readHeader_fileMark,
      Reader.readFileHeader, hpath]
  have hbegin : (r.begin { path }).Drafts r.finish { path } := ⟨rfl, rfl, rfl⟩
  obtain ⟨r', hr', hdrafts⟩ := hmove.append hcontent _ _ hbegin
  refine ⟨r', ?_, hdrafts.closed, ?_, fun hremains hfaithful => ?_⟩
  · rw [lines, List.map_cons, List.map_append, List.foldlM_cons, hheader]
    exact hr'
  · -- A draft that ended up without a path is no file, but leaves those before it.
    rw [Reader.finish.eq_def r', hdrafts.draft_eq, hdrafts.files_eq]
    dsimp only
    split
    · exact List.Subset.refl _
    · exact List.subset_append_left _ _
  · obtain ⟨hpath', hstatus⟩ := hd' hremains hfaithful
    have hne : d'.path ≠ "" := hpath' ▸ listed_ne_empty p.name
    rw [hdrafts.finish hne]
    exact ⟨d'.file, List.mem_append_right _ List.mem_cons_self, hpath', hstatus⟩

end NamedPatch

/-! ## All files -/

theorem exists_foldlM_flatMap_lines {patches : List NamedPatch} (hp : ∀ p ∈ patches, p.Fits)
    {r : Reader} (hr : r.cursor.isOpen = false) :
    ∃ r', ((patches.flatMap NamedPatch.lines).map dropReturn).foldlM Reader.readLine r = .ok r' ∧
      r.finish ⊆ r'.finish ∧ ∀ p ∈ patches, p.Told r'.finish := by
  -- What the first file has told is still told once the others are read.
  induction patches generalizing r with
  | nil => exact ⟨r, rfl, List.Subset.refl _, nofun⟩
  | cons p ps ih =>
    rw [List.forall_mem_cons] at hp
    obtain ⟨r', hr', hclosed, hsub, htold⟩ := NamedPatch.exists_foldlM_lines hp.1 hr
    obtain ⟨r'', hr'', hsub', htold'⟩ := ih hp.2 hclosed
    refine ⟨r'', ?_, List.Subset.trans hsub hsub', List.forall_mem_cons.2 ⟨htold.mono hsub', htold'⟩⟩
    rw [List.flatMap_cons, List.map_append, List.foldlM_append, hr']
    exact hr''

/-- A diff can be read whatever its names are, and its files with faithful names
    are then among those that were read. -/
theorem exists_parse {diff : String} {patches : List NamedPatch} (hp : ∀ p ∈ patches, p.Fits)
    (hd : Text.lines diff.toList = (patches.flatMap NamedPatch.lines).map dropReturn) :
    ∃ files, parse diff = .ok files ∧ ∀ p ∈ patches, p.Told files := by
  obtain ⟨r, hr, -, htold⟩ := exists_foldlM_flatMap_lines hp (r := {}) rfl
  refine ⟨r.finish, ?_, htold⟩
  rw [parse, hd, hr]
  rfl

end Lintscope.Diff.Quoting

import Lintscope.Diff.Reader
import Lintscope.Proofs.Except
import Lintscope.Proofs.Path

/-!
# The paths of a diff

Whatever a diff says, the paths that are read from it are in canonical form,
those that files were moved from included (`canonical_of_parse`). It is the
readers of single lines that see to it; the reader of the diff only moves what
they give it from the file being read to the files that have been read, line by
line (`Reader.Canonical.readLine`).
-/

namespace Lintscope.Diff

open Text

/-! ## Lines -/

theorem canonical_canonicalPath (s : List Char) :
    Path.canonical (canonicalPath s) = canonicalPath s := by
  rw [canonicalPath, Path.canonical, String.toList_ofList, Path.canonicalChars_canonicalChars]

theorem canonical_of_filePath? {s : List Char} {path : String} (h : filePath? s = some path) :
    Path.canonical path = path := by
  unfold filePath? at h
  extract_lets t at h
  split at h
  · obtain ⟨p, -, rfl⟩ := Option.map_eq_some_iff.1 h
    exact canonical_canonicalPath p
  · split at h
    · cases h
      exact canonical_canonicalPath _
    · obtain ⟨p, -, rfl⟩ := Option.map_eq_some_iff.1 h
      exact canonical_canonicalPath p.2

theorem canonical_of_sidePath? {side s : List Char} {path : String}
    (h : sidePath? side s = some path) : Path.canonical path = path := by
  unfold sidePath? at h
  extract_lets t p at h
  split at h
  · cases h
  · split at h
    · cases h
    · cases h
      exact canonical_canonicalPath p

/-! ## Files -/

/-- The paths of a changed file are in canonical form. -/
structure FileChange.Canonical (f : FileChange) : Prop where
  path : Path.canonical f.path = f.path
  source : ∀ source, f.status = .renamed source → Path.canonical source = source

/-- All paths that a reader has read are in canonical form. -/
structure Reader.Canonical (r : Reader) : Prop where
  files : ∀ f ∈ r.files, f.Canonical
  draft : ∀ d ∈ r.draft, d.file.Canonical

namespace Reader.Canonical

variable {r r' : Reader}

theorem of_path {path : String} (h : Path.canonical path = path) :
    (Draft.file { path }).Canonical :=
  ⟨h, nofun⟩

section

variable (hr : r.Canonical)
include hr

theorem finish : ∀ f ∈ r.finish, f.Canonical := by
  intro f hf
  rw [Reader.finish] at hf
  split at hf
  · next d hd =>
    split at hf
    · exact hr.files f hf
    · rcases List.mem_append.1 hf with hf | hf
      · exact hr.files f hf
      · rw [List.mem_singleton.1 hf]
        exact hr.draft d hd
  · exact hr.files f hf

theorem begin {d : Draft} (hd : d.file.Canonical) : (r.begin d).Canonical := by
  refine ⟨hr.finish, fun d' hd' => ?_⟩
  cases hd'
  exact hd

theorem update {f : Draft → Draft}
    (hf : ∀ d : Draft, d.file.Canonical → (f d).file.Canonical) : (r.update f).Canonical := by
  refine ⟨hr.files, fun d' hd' => ?_⟩
  obtain ⟨d, hd, rfl⟩ := Option.map_eq_some_iff.1 hd'
  exact hf d (hr.draft d hd)

theorem updateStatus {status : Status}
    (hs : ∀ source, status = .renamed source → Path.canonical source = source) :
    (r.update fun d => { d with status }).Canonical :=
  hr.update fun _ hd => ⟨hd.path, hs⟩

theorem updatePath {path : String} (hp : Path.canonical path = path) :
    (r.update fun d => { d with path }).Canonical :=
  hr.update fun _ hd => ⟨hp, hd.source⟩

theorem readFileHeader {line rest : List Char} (h : r.readFileHeader line rest = .ok r') :
    r'.Canonical := by
  rw [Reader.readFileHeader] at h
  split at h
  · next path hpath =>
    cases h
    exact hr.begin (of_path (canonical_of_filePath? hpath))
  · cases h

theorem readOldSide (rest : List Char) : (r.readOldSide rest).Canonical := by
  rw [Reader.readOldSide]
  have hbegin : Reader.Canonical (if r.draft.all Draft.inHunks then
      r.begin { path := (sidePath? "a/".toList rest).getD "" } else r) := by
    split
    · refine hr.begin (of_path ?_)
      cases hp : sidePath? "a/".toList rest with
      | none => rfl
      | some path => exact canonical_of_sidePath? hp
    · exact hr
  split
  · exact hbegin.updateStatus nofun
  · exact hbegin.update fun _ hd => hd

theorem readNewSide (rest : List Char) : (r.readNewSide rest).Canonical := by
  rw [Reader.readNewSide]
  split
  · next path hpath => exact hr.updatePath (canonical_of_sidePath? hpath)
  · exact hr.updateStatus nofun

theorem readHunkHeader {line : List Char} (h : r.readHunkHeader line = .ok r') :
    r'.Canonical := by
  rw [Reader.readHunkHeader] at h
  split at h
  · cases h
  · cases h
  · next d _ hd =>
    cases h
    refine ⟨hr.files, fun d' hd' => ?_⟩
    cases hd'
    exact ⟨(hr.draft d hd).path, (hr.draft d hd).source⟩

theorem readHeader {line : List Char} (h : r.readHeader line = .ok r') : r'.Canonical := by
  rw [Reader.readHeader] at h
  -- One case for each kind of header, in the order in which they are tried.
  split at h
  · exact hr.readFileHeader h
  split at h
  · cases h
    exact hr.readOldSide _
  split at h
  · cases h
    exact hr.readNewSide _
  split at h
  · exact hr.readHunkHeader h
  split at h
  · cases h
    exact hr.updateStatus nofun
  split at h
  · cases h
    exact hr.updateStatus nofun
  split at h
  · cases h
    refine hr.updateStatus fun source hs => ?_
    cases hs
    exact canonical_canonicalPath _
  split at h
  · cases h
    exact hr.updatePath (canonical_canonicalPath _)
  · cases h
    exact hr.update fun _ hd => hd

/-- A line of content leaves all paths as they are. -/
theorem readLine {line : List Char} (h : r.readLine line = .ok r') : r'.Canonical := by
  rw [Reader.readLine] at h
  split at h
  · next d hd =>
    split at h
    · split at h
      · next c d' hcontent =>
        cases h
        refine ⟨hr.files, fun d'' hd'' => ?_⟩
        cases hd''
        have hd := hr.draft d hd
        unfold readContent? at hcontent
        split at hcontent <;> cases hcontent <;> exact ⟨hd.path, hd.source⟩
      · exact hr.readHeader h
    · exact hr.readHeader h
  · exact hr.readHeader h

end

end Reader.Canonical

/-- All paths that are read from a diff are in canonical form. -/
theorem canonical_of_parse {diff : String} {files : List FileChange} (h : parse diff = .ok files) :
    ∀ f ∈ files, f.Canonical := by
  rw [parse] at h
  cases hr : (lines diff.toList).foldlM Reader.readLine {} with
  | error e =>
    rw [hr] at h
    cases h
  | ok r =>
    rw [hr] at h
    cases h
    have hstart : Reader.Canonical {} := ⟨nofun, nofun⟩
    exact (foldlM_keeps (fun _ _ _ hb => hb.readLine) hstart hr).finish

end Lintscope.Diff

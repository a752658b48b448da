import Lintscope.Diff.Index
import Lintscope.Proofs.Diff.Canonical
import Lintscope.Proofs.Order.Ascending
import Mathlib.Data.List.Basic

/-!
# What an index says of a path

An index is *settled* if no path is in two of its lists, or twice among the
changed files (`Index.Settled`). All indices are that are built from a diff, or
from files and hunks; so what a diff does to a path can be read off the list
that the path is in, whichever list is looked into first.

* `Index.Settled.lookup_eq_new_iff` and its kin: a path is what the list that it
  is in says;
* `Index.ofCanonical_congr`: an index depends on the members of what it is built
  from, not on their order or number;
* `Index.lookup_ofFiles`: what the changes of a diff make of a path, if they go
  by it in several ways.
-/

namespace Lintscope.Diff

/-! ## Settled indices -/

namespace Index

/-- No path is in two lists of the index, or twice among the changed files. -/
structure Settled (i : Index) : Prop where
  deleted_of_added : ∀ path ∈ i.added, path ∉ i.deleted
  deleted_of_changed : ∀ c ∈ i.changed, c.1 ∉ i.deleted
  added_of_changed : ∀ c ∈ i.changed, c.1 ∉ i.added
  once : (i.changed.map Prod.fst).Nodup

section

variable {i : Index} {path : String} {lines : List Nat}

theorem lookup_eq_deleted_iff : i.lookup path = .deleted ↔ Path.canonical path ∈ i.deleted := by
  rw [lookup]
  split
  · next hd => exact iff_of_true rfl hd
  · next hd =>
    refine iff_of_false ?_ hd
    split
    · exact nofun
    · cases i.changed.lookup (Path.canonical path) <;> exact nofun

theorem isSelectable_iff :
    i.isSelectable path = true ↔ i.lookup path = .new ∨ ∃ lines, i.lookup path = .changed lines := by
  rw [isSelectable]
  cases i.lookup path <;> simp

namespace Settled

variable (hi : i.Settled)
include hi

/-- Only one entry of the changed files is about a path. -/
theorem lookup_changed_eq_some_iff : i.changed.lookup path = some lines ↔ (path, lines) ∈ i.changed := by
  rw [List.lookup_eq_some_iff]
  constructor
  · rintro ⟨before, after, hsplit, -⟩
    rw [hsplit]
    exact List.mem_append_right _ List.mem_cons_self
  · intro h
    -- An entry about the path before this one would make it come twice.
    obtain ⟨before, after, hsplit⟩ := List.append_of_mem h
    refine ⟨before, after, hsplit, fun c hc => ?_⟩
    have honce := hi.once
    rw [hsplit, List.map_append, List.nodup_append] at honce
    exact bne_iff_ne.2 fun heq => honce.2.2 _ (List.mem_map_of_mem hc) _ List.mem_cons_self heq.symm

theorem lookup_eq_new_iff : i.lookup path = .new ↔ Path.canonical path ∈ i.added := by
  rw [lookup]
  split
  · next hd => exact iff_of_false nofun fun ha => hi.deleted_of_added _ ha hd
  · split
    · next ha => exact iff_of_true rfl ha
    · next ha =>
      refine iff_of_false ?_ ha
      cases i.changed.lookup (Path.canonical path) <;> exact nofun

theorem lookup_eq_changed_iff :
    i.lookup path = .changed lines ↔ (Path.canonical path, lines) ∈ i.changed := by
  rw [lookup, ← hi.lookup_changed_eq_some_iff]
  split
  · next hd =>
    refine iff_of_false nofun fun hc => ?_
    exact hi.deleted_of_changed _ (hi.lookup_changed_eq_some_iff.1 hc) hd
  · split
    · next ha =>
      refine iff_of_false nofun fun hc => ?_
      exact hi.added_of_changed _ (hi.lookup_changed_eq_some_iff.1 hc) ha
    · cases i.changed.lookup (Path.canonical path) <;> simp

end Settled

end

/-! ## Building an index -/

section

variable {added deleted : List String} {hunks : List Hunk} {path : String} {lines : List Nat}

theorem mem_added_ofCanonical : path ∈ (ofCanonical added deleted hunks).added ↔ path ∈ added :=
  Ascending.mem_ofList

theorem mem_deleted_ofCanonical : path ∈ (ofCanonical added deleted hunks).deleted ↔
    path ∈ deleted ∧ path ∉ added ∧ ∀ h ∈ hunks, h.path ≠ path := by
  simp only [ofCanonical, Ascending.mem_ofList, List.mem_filter, List.mem_map, decide_eq_true_eq]
  refine and_congr_right fun _ => and_congr_right fun hp => ?_
  constructor
  · rintro h g hg rfl
    exact h ⟨⟨g, hg, rfl⟩, hp⟩
  · rintro h ⟨⟨g, hg, rfl⟩, -⟩
    exact h g hg rfl

/-- The lines of a changed file are those that some hunk has for it. -/
theorem mem_changed_ofCanonical : (path, lines) ∈ (ofCanonical added deleted hunks).changed ↔
    path ∉ added ∧ (∃ h ∈ hunks, h.path = path) ∧
      lines.Pairwise (· < ·) ∧ ∀ l, l ∈ lines ↔ ∃ h ∈ hunks, h.path = path ∧ l ∈ h.lines := by
  simp only [ofCanonical, List.mem_map, Ascending.mem_ofList, List.mem_filter, decide_eq_true_eq,
    Prod.mk.injEq]
  have hlines : ∀ l, l ∈ Ascending.ofList ((hunks.filter (·.path = path)).flatMap Hunk.lines) ↔
      ∃ h ∈ hunks, h.path = path ∧ l ∈ h.lines := by
    intro l
    simp [and_assoc]
  constructor
  · rintro ⟨_, ⟨hpath, hp⟩, rfl, rfl⟩
    exact ⟨hp, hpath, Ascending.pairwise_ofList _, hlines⟩
  · rintro ⟨hp, hpath, hsorted, hmem⟩
    refine ⟨path, ⟨hpath, hp⟩, rfl, ?_⟩
    exact (Ascending.pairwise_ofList _).eq_of_mem_iff hsorted fun l => (hlines l).trans (hmem l).symm

theorem settled_ofCanonical (added deleted : List String) (hunks : List Hunk) :
    (ofCanonical added deleted hunks).Settled where
  deleted_of_added path ha hd :=
    (mem_deleted_ofCanonical.1 hd).2.1 (mem_added_ofCanonical.1 ha)
  deleted_of_changed c hc hd := by
    obtain ⟨-, ⟨h, hh, hpath⟩, -⟩ := mem_changed_ofCanonical.1 hc
    exact (mem_deleted_ofCanonical.1 hd).2.2 h hh hpath
  added_of_changed c hc ha :=
    (mem_changed_ofCanonical.1 hc).1 (mem_added_ofCanonical.1 ha)
  once := by
    have hpaths : (ofCanonical added deleted hunks).changed.map Prod.fst =
        Ascending.ofList ((hunks.map Hunk.path).filter (· ∉ added)) := by
      rw [ofCanonical, List.map_map]
      exact List.map_id _
    rw [hpaths]
    exact (Ascending.pairwise_ofList _).imp Std.ne_of_lt

/-- Only the members of the lists matter. -/
theorem ofCanonical_congr {added' deleted' : List String} {hunks' : List Hunk}
    (ha : ∀ path, path ∈ added' ↔ path ∈ added) (hd : ∀ path, path ∈ deleted' ↔ path ∈ deleted)
    (hh : ∀ h, h ∈ hunks' ↔ h ∈ hunks) :
    ofCanonical added' deleted' hunks' = ofCanonical added deleted hunks := by
  have hpaths : ∀ path, path ∈ (hunks'.map Hunk.path).filter (· ∉ added') ↔
      path ∈ (hunks.map Hunk.path).filter (· ∉ added) := by
    intro path
    simp only [List.mem_filter, List.mem_map, hh, ha]
  have hlines : ∀ path, Ascending.ofList ((hunks'.filter (·.path = path)).flatMap Hunk.lines) =
      Ascending.ofList ((hunks.filter (·.path = path)).flatMap Hunk.lines) := by
    intro path
    refine Ascending.ofList_congr fun l => ?_
    simp only [List.mem_flatMap, List.mem_filter, hh]
  have hgone : ∀ path, path ∈ deleted'.filter (fun path => path ∉ added' ∧
        path ∉ (hunks'.map Hunk.path).filter (· ∉ added')) ↔
      path ∈ deleted.filter (fun path => path ∉ added ∧
        path ∉ (hunks.map Hunk.path).filter (· ∉ added)) := by
    intro path
    simp only [List.mem_filter, List.mem_map, hd, hh, ha]
  simp only [ofCanonical, Ascending.ofList_congr ha, Ascending.ofList_congr hpaths,
    Ascending.ofList_congr hgone, hlines]

end

/-- An index that is built from a diff, or from files and hunks. -/
def Built (i : Index) : Prop :=
  (∃ diff, ofDiff diff = .ok i) ∨ ∃ added deleted hunks, i = ofHunks added deleted hunks

theorem Built.settled {i : Index} (hi : i.Built) : i.Settled := by
  rcases hi with ⟨diff, hd⟩ | ⟨added, deleted, hunks, rfl⟩
  · rw [ofDiff] at hd
    cases hp : parse diff with
    | error e =>
      rw [hp] at hd
      cases hd
    | ok files =>
      rw [hp] at hd
      cases hd
      exact settled_ofCanonical ..
  · exact settled_ofCanonical ..

end Index

/-! ## The changes of a diff -/

namespace FileChange

/-- The file is there in both revisions, though perhaps at two paths. -/
def Stays (f : FileChange) : Prop := f.status = .modified ∨ ∃ source, f.status = .renamed source

/-- The file was at the path, and is there no more. -/
def Leaves (f : FileChange) (path : String) : Prop :=
  f.status = .deleted ∧ f.path = path ∨ f.status = .renamed path

end FileChange

namespace Index

section

variable (files : List FileChange) (path : String)

/-- Some file is new at the path. -/
def Adds : Prop := ∃ f ∈ files, f.status = .added ∧ f.path = path

/-- Some file of both revisions is at the path in the new one. -/
def Keeps : Prop := ∃ f ∈ files, f.Stays ∧ f.path = path

/-- Some file was at the path and is there no more. -/
def Drops : Prop := ∃ f ∈ files, f.Leaves path

end

section

variable {files : List FileChange} {path : String}

theorem mem_filterMap_addedPath? : path ∈ files.filterMap addedPath? ↔ Adds files path := by
  simp [Adds, addedPath?]

theorem mem_filterMap_leftPath? : path ∈ files.filterMap leftPath? ↔ Drops files path := by
  rw [List.mem_filterMap]
  refine exists_congr fun f => and_congr_right fun _ => ?_
  rw [leftPath?, FileChange.Leaves]
  cases f.status <;> simp

theorem mem_filterMap_hunk? {h : Hunk} :
    h ∈ files.filterMap hunk? ↔ ∃ f ∈ files, f.Stays ∧ h = ⟨f.path, f.addedLines⟩ := by
  rw [List.mem_filterMap]
  refine exists_congr fun f => and_congr_right fun _ => ?_
  rw [hunk?, FileChange.Stays]
  cases f.status <;> simp [eq_comm]

theorem mem_added_ofFiles : path ∈ (ofFiles files).added ↔ Adds files path :=
  mem_added_ofCanonical.trans mem_filterMap_addedPath?

/-- What hunks say of a path, the changes say that have them. -/
theorem exists_hunk?_iff {p : List Nat → Prop} :
    (∃ h ∈ files.filterMap hunk?, h.path = path ∧ p h.lines) ↔
      ∃ f ∈ files, f.Stays ∧ f.path = path ∧ p f.addedLines := by
  constructor
  · rintro ⟨h, hh, hp⟩
    obtain ⟨f, hf, hs, rfl⟩ := mem_filterMap_hunk?.1 hh
    exact ⟨f, hf, hs, hp⟩
  · rintro ⟨f, hf, hs, hp⟩
    exact ⟨_, mem_filterMap_hunk?.2 ⟨f, hf, hs, rfl⟩, hp⟩

theorem exists_hunk?_path_iff : (∃ h ∈ files.filterMap hunk?, h.path = path) ↔ Keeps files path := by
  have h : (∃ h ∈ files.filterMap hunk?, h.path = path ∧ True) ↔
      ∃ f ∈ files, f.Stays ∧ f.path = path ∧ True := exists_hunk?_iff (p := fun _ => True)
  simpa [Keeps] using h

theorem mem_changed_ofFiles : (path, lines) ∈ (ofFiles files).changed ↔
    ¬Adds files path ∧ Keeps files path ∧ lines.Pairwise (· < ·) ∧
      ∀ l, l ∈ lines ↔ ∃ f ∈ files, f.Stays ∧ f.path = path ∧ l ∈ f.addedLines := by
  rw [ofFiles, mem_changed_ofCanonical, mem_filterMap_addedPath?, exists_hunk?_path_iff]
  refine and_congr_right fun _ => and_congr_right fun _ => and_congr_right fun _ => ?_
  exact forall_congr' fun l => iff_congr Iff.rfl (exists_hunk?_iff (p := (l ∈ ·)))

theorem mem_deleted_ofFiles : path ∈ (ofFiles files).deleted ↔
    ¬Adds files path ∧ ¬Keeps files path ∧ Drops files path := by
  have hkeeps : (∀ h ∈ files.filterMap hunk?, h.path ≠ path) ↔ ¬Keeps files path := by
    rw [← exists_hunk?_path_iff]
    simp
  rw [ofFiles, mem_deleted_ofCanonical, mem_filterMap_addedPath?, mem_filterMap_leftPath?, hkeeps,
    and_comm, and_assoc]

/-- A path that is not added anew and is kept has changed lines, if perhaps none. -/
theorem exists_mem_changed_ofFiles (ha : ¬Adds files path) (hk : Keeps files path) :
    ∃ lines, (path, lines) ∈ (ofFiles files).changed := by
  obtain ⟨h, hh, hpath⟩ := exists_hunk?_path_iff.2 hk
  refine ⟨_, mem_changed_ofCanonical.2 ⟨fun h => ha (mem_filterMap_addedPath?.1 h),
    ⟨h, hh, hpath⟩, Ascending.pairwise_ofList (((files.filterMap hunk?).filter
      (·.path = path)).flatMap Hunk.lines), fun l => ?_⟩⟩
  simp [and_assoc]

theorem settled_ofFiles (files : List FileChange) : (ofFiles files).Settled :=
  settled_ofCanonical ..

/-- A file that is not gone is new or changed at its path, whatever else the changes
    say of the path. -/
theorem isSelectable_ofFiles {f : FileChange} (hf : f ∈ files)
    (hc : Path.canonical f.path = f.path) (hs : f.status ≠ .deleted) :
    (ofFiles files).isSelectable f.path = true := by
  have hi := settled_ofFiles files
  rw [isSelectable_iff, hi.lookup_eq_new_iff, mem_added_ofFiles, hc]
  -- Another change may add a file at the path, which comes first; else this one keeps it.
  by_cases ha : Adds files f.path
  · exact .inl ha
  · have hstays : f.Stays := by
      rw [FileChange.Stays]
      cases hstatus : f.status with
      | added => exact absurd ⟨f, hf, hstatus, rfl⟩ ha
      | deleted => exact absurd hstatus hs
      | modified => exact .inl rfl
      | renamed source => exact .inr ⟨source, rfl⟩
    obtain ⟨lines, hlines⟩ := exists_mem_changed_ofFiles ha ⟨f, hf, hstays, rfl⟩
    exact .inr ⟨lines, hi.lookup_eq_changed_iff.2 (hc.symm ▸ hlines)⟩

theorem lookup_ofFiles_eq_untouched_iff : (ofFiles files).lookup path = .untouched ↔
    ¬Adds files (Path.canonical path) ∧ ¬Keeps files (Path.canonical path) ∧
      ¬Drops files (Path.canonical path) := by
  have hi := settled_ofFiles files
  constructor
  · intro h
    have ha : ¬Adds files (Path.canonical path) := fun ha => by
      rw [hi.lookup_eq_new_iff.2 (mem_added_ofFiles.2 ha)] at h
      cases h
    have hk : ¬Keeps files (Path.canonical path) := fun hk => by
      obtain ⟨lines, hc⟩ := exists_mem_changed_ofFiles ha hk
      rw [hi.lookup_eq_changed_iff.2 hc] at h
      cases h
    refine ⟨ha, hk, fun hd => ?_⟩
    rw [lookup_eq_deleted_iff.2 (mem_deleted_ofFiles.2 ⟨ha, hk, hd⟩)] at h
    cases h
  · rintro ⟨ha, hk, hd⟩
    cases h : (ofFiles files).lookup path with
    | new => exact absurd (mem_added_ofFiles.1 (hi.lookup_eq_new_iff.1 h)) ha
    | deleted => exact absurd (mem_deleted_ofFiles.1 (lookup_eq_deleted_iff.1 h)).2.2 hd
    | changed lines => exact absurd (mem_changed_ofFiles.1 (hi.lookup_eq_changed_iff.1 h)).2.1 hk
    | untouched => rfl

theorem map_canonical_of_forall {paths : List String}
    (h : ∀ path ∈ paths, Path.canonical path = path) : paths.map Path.canonical = paths := by
  rw [List.map_congr_left h, List.map_id']

/-- Files and hunks with the paths of some changes make the index of the changes. -/
theorem ofHunks_eq_ofFiles {added deleted : List String} {hunks : List Hunk}
    (hc : ∀ f ∈ files, f.Canonical) (ha : ∀ path, path ∈ added ↔ Adds files path)
    (hd : ∀ path, path ∈ deleted ↔ Drops files path)
    (hh : ∀ h, h ∈ hunks ↔ ∃ f ∈ files, f.Stays ∧ h = ⟨f.path, f.addedLines⟩) :
    ofHunks added deleted hunks = ofFiles files := by
  have hadded : ∀ path ∈ added, Path.canonical path = path := by
    intro path hpath
    obtain ⟨f, hf, -, rfl⟩ := (ha path).1 hpath
    exact (hc f hf).path
  have hdeleted : ∀ path ∈ deleted, Path.canonical path = path := by
    intro path hpath
    obtain ⟨f, hf, ⟨-, rfl⟩ | hs⟩ := (hd path).1 hpath
    · exact (hc f hf).path
    · exact (hc f hf).source path hs
  have hhunks : hunks.map (fun h => { h with path := Path.canonical h.path }) = hunks := by
    refine (List.map_congr_left fun h hmem => ?_).trans (List.map_id' hunks)
    obtain ⟨f, hf, -, rfl⟩ := (hh h).1 hmem
    rw [(hc f hf).path]
  -- Now only the order and the number of the members may differ.
  rw [ofHunks, map_canonical_of_forall hadded, map_canonical_of_forall hdeleted, hhunks, ofFiles]
  exact ofCanonical_congr (fun path => (ha path).trans mem_filterMap_addedPath?.symm)
    (fun path => (hd path).trans mem_filterMap_leftPath?.symm)
    fun h => (hh h).trans mem_filterMap_hunk?.symm

end

/-- What the changes of a diff make of a path, whatever their order and however
    often they come: it is new if a file is added there; else it is changed if
    a file of both revisions is there in the new one, in all the lines that
    such files have; else it is gone if a file was there and is no more; and
    else it is left alone. The same index is made of the new files, of the
    paths that were left, and of the lines of the files that stay. -/
theorem lookup_ofFiles (files : List FileChange) :
    (∀ path,
      ((ofFiles files).lookup path = .new ↔ Adds files (Path.canonical path)) ∧
      (∀ lines, (ofFiles files).lookup path = .changed lines ↔
        ¬Adds files (Path.canonical path) ∧ Keeps files (Path.canonical path) ∧
          lines.Pairwise (· < ·) ∧ ∀ l, l ∈ lines ↔
            ∃ f ∈ files, f.Stays ∧ f.path = Path.canonical path ∧ l ∈ f.addedLines) ∧
      ((ofFiles files).lookup path = .deleted ↔
        ¬Adds files (Path.canonical path) ∧ ¬Keeps files (Path.canonical path) ∧
          Drops files (Path.canonical path)) ∧
      ((ofFiles files).lookup path = .untouched ↔
        ¬Adds files (Path.canonical path) ∧ ¬Keeps files (Path.canonical path) ∧
          ¬Drops files (Path.canonical path))) ∧
    (∀ files', (∀ f, f ∈ files' ↔ f ∈ files) → ofFiles files' = ofFiles files) ∧
    ∀ added deleted hunks, (∀ f ∈ files, f.Canonical) →
      (∀ path, path ∈ added ↔ Adds files path) → (∀ path, path ∈ deleted ↔ Drops files path) →
        (∀ h, h ∈ hunks ↔ ∃ f ∈ files, f.Stays ∧ h = ⟨f.path, f.addedLines⟩) →
          ofHunks added deleted hunks = ofFiles files := by
  have hi := settled_ofFiles files
  refine ⟨fun path => ⟨?_, fun lines => ?_, ?_, lookup_ofFiles_eq_untouched_iff⟩, ?_, ?_⟩
  · exact hi.lookup_eq_new_iff.trans mem_added_ofFiles
  · exact hi.lookup_eq_changed_iff.trans mem_changed_ofFiles
  · exact lookup_eq_deleted_iff.trans mem_deleted_ofFiles
  · intro files' hf
    have hmap : ∀ {β : Type} (g : FileChange → Option β) (b : β),
        b ∈ files'.filterMap g ↔ b ∈ files.filterMap g := by
      intro β g b
      simp only [List.mem_filterMap, hf]
    exact ofCanonical_congr (hmap addedPath?) (hmap leftPath?) (hmap hunk?)
  · intro added deleted hunks hc ha hd hh
    exact ofHunks_eq_ofFiles hc ha hd hh

/-- A diff in which two files change places. -/
def swapDiff : String :=
  "diff --git a/a b/b\nrename from a\nrename to b\n" ++
  "diff --git a/b b/a\nrename from b\nrename to a\n@@ -1 +1 @@\n-x\n+y\n"

/-- The changes that the diff is about. -/
def swapFiles : List FileChange :=
  [⟨"b", .renamed "a", [], []⟩, ⟨"a", .renamed "b", [1], [⟨1, 1⟩]⟩]

theorem lookup_ofFiles_swap :
    (∀ f ∈ swapFiles, f.Canonical) ∧ (ofFiles swapFiles).lookup "./a" = .changed [1] ∧
      ofHunks [] ["b", "a"] [⟨"a", [1]⟩, ⟨"b", []⟩] = ofFiles swapFiles := by
  have hparse : parse swapDiff = .ok swapFiles := by decide +kernel
  have hc : ∀ f ∈ swapFiles, f.Canonical := canonical_of_parse hparse
  obtain ⟨hlookup, -, hhunks⟩ := lookup_ofFiles swapFiles
  have hpath : Path.canonical "./a" = "a" := by decide
  refine ⟨hc, ((hlookup "./a").2.1 [1]).2 ?_, hhunks _ _ _ hc ?_ ?_ ?_⟩
  · rw [hpath]
    refine ⟨by simp [Adds, swapFiles], by simp [Keeps, FileChange.Stays, swapFiles], by simp, ?_⟩
    intro l
    simp [FileChange.Stays, swapFiles]
  · simp [Adds, swapFiles]
  · intro path
    simp [Drops, FileChange.Leaves, swapFiles, or_comm, eq_comm]
  · intro h
    simp [FileChange.Stays, swapFiles, or_comm]

end Index

end Lintscope.Diff

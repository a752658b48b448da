import Lintscope.Proofs.Diff.Index
import Lintscope.Proofs.Text.Utf8

/-!
# The paths of an index

The paths of an index that is built from a diff, or from files and hunks, are shared
out to its three lists, in canonical form and each of them once
(`Index.paths_of_built`). So the lists say the same as the questions about single
paths do, and the answers do not depend on how a path is spelled.

Either way the index is put together from canonical paths
(`Index.Built.exists_ofCanonical`): the reader of diffs has brought them into that
form, or the index itself does.
-/

namespace Lintscope

namespace Diff.Index

/-! ## Lists of paths -/

/-- The lists of an index are in ascending order. -/
structure Sorted (i : Index) : Prop where
  added : i.added.Pairwise (· < ·)
  changed : (i.changed.map Prod.fst).Pairwise (· < ·)
  deleted : i.deleted.Pairwise (· < ·)

/-- All paths of an index are in canonical form. -/
structure Canonical (i : Index) : Prop where
  added : ∀ path ∈ i.added, Path.canonical path = path
  changed : ∀ c ∈ i.changed, Path.canonical c.1 = c.1
  deleted : ∀ path ∈ i.deleted, Path.canonical path = path

theorem sorted_ofCanonical (added deleted : List String) (hunks : List Hunk) :
    (ofCanonical added deleted hunks).Sorted where
  added := Ascending.pairwise_ofList _
  changed := by
    rw [ofCanonical, List.map_map]
    exact (List.map_id _).symm ▸ Ascending.pairwise_ofList _
  deleted := Ascending.pairwise_ofList _

theorem canonical_ofCanonical {added deleted : List String} {hunks : List Hunk}
    (ha : ∀ path ∈ added, Path.canonical path = path)
    (hd : ∀ path ∈ deleted, Path.canonical path = path)
    (hh : ∀ h ∈ hunks, Path.canonical h.path = h.path) :
    (ofCanonical added deleted hunks).Canonical where
  added path h := ha path (mem_added_ofCanonical.1 h)
  changed c h := by
    obtain ⟨-, ⟨hunk, hmem, hpath⟩, -⟩ := mem_changed_ofCanonical.1 h
    rw [← hpath]
    exact hh hunk hmem
  deleted path h := hd path (mem_deleted_ofCanonical.1 h).1

/-! ## Indices that are built -/

theorem Built.exists_ofCanonical {i : Index} (hi : i.Built) : ∃ added deleted hunks,
    (∀ path ∈ added, Path.canonical path = path) ∧ (∀ path ∈ deleted, Path.canonical path = path) ∧
      (∀ h ∈ hunks, Path.canonical h.path = h.path) ∧ i = ofCanonical added deleted hunks := by
  rcases hi with ⟨diff, hd⟩ | ⟨added, deleted, hunks, rfl⟩
  · rw [ofDiff] at hd
    cases hp : parse diff with
    | error e =>
      rw [hp] at hd
      cases hd
    | ok files =>
      rw [hp] at hd
      cases hd
      have hc := canonical_of_parse hp
      refine ⟨_, _, _, fun path h => ?_, fun path h => ?_, fun hunk h => ?_, rfl⟩
      · obtain ⟨f, hf, -, rfl⟩ := mem_filterMap_addedPath?.1 h
        exact (hc f hf).path
      · obtain ⟨f, hf, ⟨-, rfl⟩ | hs⟩ := mem_filterMap_leftPath?.1 h
        · exact (hc f hf).path
        · exact (hc f hf).source path hs
      · obtain ⟨f, hf, -, rfl⟩ := mem_filterMap_hunk?.1 h
        exact (hc f hf).path
  · have hmap : ∀ paths : List String, ∀ path ∈ paths.map Path.canonical,
        Path.canonical path = path := by
      intro paths path h
      obtain ⟨p, -, rfl⟩ := List.mem_map.1 h
      exact Path.canonical_canonical p
    refine ⟨_, _, _, hmap added, hmap deleted, fun hunk h => ?_, rfl⟩
    obtain ⟨g, -, rfl⟩ := List.mem_map.1 h
    exact Path.canonical_canonical g.path

theorem Built.sorted {i : Index} (hi : i.Built) : i.Sorted := by
  obtain ⟨added, deleted, hunks, -, -, -, rfl⟩ := hi.exists_ofCanonical
  exact sorted_ofCanonical added deleted hunks

theorem Built.canonical {i : Index} (hi : i.Built) : i.Canonical := by
  obtain ⟨added, deleted, hunks, ha, hd, hh, rfl⟩ := hi.exists_ofCanonical
  exact canonical_ofCanonical ha hd hh

/-! ## Questions about paths -/

section

variable (i : Index) (path : String)

theorem size_eq : i.size = i.selectablePaths.length + i.deleted.length := by
  rw [size, selectablePaths, List.length_mergeSort, List.length_append, List.length_map,
    Nat.add_comm i.added.length]

@[simp]
theorem lookup_canonical : i.lookup (Path.canonical path) = i.lookup path := by
  rw [lookup, lookup, Path.canonical_canonical]

@[simp]
theorem changedLines_canonical : i.changedLines (Path.canonical path) = i.changedLines path := by
  rw [changedLines, changedLines, Path.canonical_canonical]

@[simp]
theorem isNew_canonical : i.isNew (Path.canonical path) = i.isNew path := by
  rw [isNew, isNew, lookup_canonical]

@[simp]
theorem isDeleted_canonical : i.isDeleted (Path.canonical path) = i.isDeleted path := by
  rw [isDeleted, isDeleted, lookup_canonical]

@[simp]
theorem isSelectable_canonical : i.isSelectable (Path.canonical path) = i.isSelectable path := by
  rw [isSelectable, isSelectable, lookup_canonical]

end

section

variable {i : Index} {path : String} {lines : List Nat}

theorem Settled.changedLines_eq_some_iff (hi : i.Settled) :
    i.changedLines path = some lines ↔ i.lookup path = .changed lines := by
  rw [changedLines, hi.lookup_changed_eq_some_iff, hi.lookup_eq_changed_iff]

section

variable (hi : i.Built)
include hi

theorem Built.mem_selectablePaths_iff :
    path ∈ i.selectablePaths ↔ Path.canonical path = path ∧ i.isSelectable path = true := by
  have hc := hi.canonical
  rw [selectablePaths, List.mem_mergeSort, List.mem_append, isSelectable_iff,
    hi.settled.lookup_eq_new_iff]
  simp only [hi.settled.lookup_eq_changed_iff]
  constructor
  · rintro (ha | hm)
    · have hpath := hc.added path ha
      exact ⟨hpath, .inl (hpath.symm ▸ ha)⟩
    · obtain ⟨⟨p, lines⟩, hmem, rfl⟩ := List.mem_map.1 hm
      have hpath := hc.changed _ hmem
      exact ⟨hpath, .inr ⟨lines, hpath.symm ▸ hmem⟩⟩
  · rintro ⟨hpath, ha | ⟨lines, hm⟩⟩
    · exact .inl (hpath ▸ ha)
    · exact .inr (List.mem_map.2 ⟨_, hm, hpath⟩)

theorem Built.mem_deleted_iff :
    path ∈ i.deleted ↔ Path.canonical path = path ∧ i.isDeleted path = true := by
  rw [isDeleted, decide_eq_true_eq, lookup_eq_deleted_iff]
  constructor
  · intro h
    have hpath := hi.canonical.deleted path h
    exact ⟨hpath, hpath.symm ▸ h⟩
  · rintro ⟨hpath, h⟩
    exact hpath ▸ h

theorem Built.disjoint_added_changed : i.added.Disjoint (i.changed.map Prod.fst) := by
  intro path ha hm
  obtain ⟨c, hc, rfl⟩ := List.mem_map.1 hm
  exact hi.settled.added_of_changed c hc ha

/-- No path is both new and changed, so none comes twice when they are sorted. -/
theorem Built.pairwise_selectablePaths : i.selectablePaths.Pairwise (· < ·) :=
  Ascending.pairwise_mergeSort <| List.nodup_append'.2
    ⟨hi.sorted.added.imp Std.ne_of_lt, hi.settled.once, hi.disjoint_added_changed⟩

end

end

/-- Let an index be built from a diff that can be read, or from files and hunks. The
    paths that are new, changed and gone are different ones, and all of them are
    canonical. The paths that are left there and those that are gone are listed in
    the order of their octets, each once: the former are the canonical paths that
    are said to be selectable, the latter those that are said to be gone; and the
    size of the index is the number of both. What is said of a path is said of its
    canonical form, and there are changed lines if the path is changed, and no
    others. -/
theorem paths_of_built {i : Index} (hi : i.Built) :
    i.added.Disjoint (i.changed.map Prod.fst) ∧ i.added.Disjoint i.deleted ∧
    (i.changed.map Prod.fst).Disjoint i.deleted ∧
    (∀ path ∈ i.added ++ i.changed.map Prod.fst ++ i.deleted, Path.canonical path = path) ∧
    i.selectablePaths.Pairwise (fun p q => Utf8.encode p.toList < Utf8.encode q.toList) ∧
    (∀ path, path ∈ i.selectablePaths ↔ Path.canonical path = path ∧ i.isSelectable path = true) ∧
    i.deleted.Pairwise (fun p q => Utf8.encode p.toList < Utf8.encode q.toList) ∧
    (∀ path, path ∈ i.deleted ↔ Path.canonical path = path ∧ i.isDeleted path = true) ∧
    i.size = i.selectablePaths.length + i.deleted.length ∧
    ∀ path,
      i.lookup (Path.canonical path) = i.lookup path ∧
      i.changedLines (Path.canonical path) = i.changedLines path ∧
      i.isNew (Path.canonical path) = i.isNew path ∧
      i.isDeleted (Path.canonical path) = i.isDeleted path ∧
      i.isSelectable (Path.canonical path) = i.isSelectable path ∧
      ∀ lines, i.changedLines path = some lines ↔ i.lookup path = .changed lines := by
  have hsettled := hi.settled
  have hcanonical := hi.canonical
  refine ⟨hi.disjoint_added_changed, hsettled.deleted_of_added, ?_, ?_, ?_, ?_, ?_, ?_,
    i.size_eq, fun path => ⟨?_, ?_, ?_, ?_, ?_, ?_⟩⟩
  · intro path hm
    obtain ⟨c, hc, rfl⟩ := List.mem_map.1 hm
    exact hsettled.deleted_of_changed c hc
  · intro path hpath
    rcases List.mem_append.1 hpath with hpath | hpath
    · rcases List.mem_append.1 hpath with hpath | hpath
      · exact hcanonical.added path hpath
      · obtain ⟨c, hc, rfl⟩ := List.mem_map.1 hpath
        exact hcanonical.changed c hc
    · exact hcanonical.deleted path hpath
  · exact hi.pairwise_selectablePaths.imp fun h => Utf8.encode_lt_encode h
  · exact fun path => hi.mem_selectablePaths_iff
  · exact hi.sorted.deleted.imp fun h => Utf8.encode_lt_encode h
  · exact fun path => hi.mem_deleted_iff
  · exact i.lookup_canonical path
  · exact i.changedLines_canonical path
  · exact i.isNew_canonical path
  · exact i.isDeleted_canonical path
  · exact i.isSelectable_canonical path
  · exact fun lines => hsettled.changedLines_eq_some_iff

/-- A diff in which a file takes the path of one that is gone, and another file is new. -/
def reusedDiff : String :=
  "diff --git a/y b/y\ndeleted file mode 100644\n" ++
  "diff --git a/x b/y\nrename from x\nrename to y\n@@ -1 +1 @@\n-x\n+y\n" ++
  "diff --git a/ä b/ä\nnew file mode 100644\n"

/-- The index of the diff. -/
def reusedIndex : Index := ⟨[("y", [1])], ["ä"], ["x"]⟩

theorem paths_of_built_reused :
    reusedIndex.Built ∧
      reusedIndex.selectablePaths.Pairwise
        (fun p q => Utf8.encode p.toList < Utf8.encode q.toList) ∧
      reusedIndex.selectablePaths = ["y", "ä"] ∧ reusedIndex.isDeleted ".\\x" = true ∧
        reusedIndex.size = 3 := by
  have hdiff : ofDiff reusedDiff = .ok reusedIndex := by decide +kernel
  have hi : reusedIndex.Built := .inl ⟨reusedDiff, hdiff⟩
  obtain ⟨-, -, -, -, hsorted, -, -, hdeleted, hsize, hpath⟩ := paths_of_built hi
  have hpaths : reusedIndex.selectablePaths = ["y", "ä"] := by
    refine hi.pairwise_selectablePaths.eq_of_mem_iff (by decide +kernel) fun path => ?_
    simp [selectablePaths, reusedIndex, or_comm]
  obtain ⟨-, -, -, hspelled, -⟩ := hpath ".\\x"
  have hcanonical : Path.canonical ".\\x" = "x" := by decide
  refine ⟨hi, hsorted, hpaths, ?_, by rw [hsize, hpaths]; rfl⟩
  rw [← hspelled, hcanonical]
  exact ((hdeleted "x").1 List.mem_cons_self).2

end Diff.Index

end Lintscope

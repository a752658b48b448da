import Lintscope.Proofs.Path
import Lintscope.Proofs.Run.Ending
import Lintscope.Proofs.Text.Lines
import Mathlib.Data.List.Nodup

/-!
# The files of a repository

The list of the files that belong to a repository has their canonical paths
only (`Git.canonical_of_mem_files`), each once (`Git.nodup_files`). No name in
it has a backslash or a newline (`Git.isLine_of_mem_files`): the former is a
slash in a canonical path, and the latter ends what version control says about
a file.
-/

namespace Lintscope.Git

/-- Whatever is known already, what comes of some names are the known ones and
    these. -/
theorem mem_foldl_distinct {known names : List String} {name : String} :
    name ∈ names.foldl (fun known name => if name ∈ known then known else known ++ [name]) known ↔
      name ∈ known ∨ name ∈ names := by
  induction names generalizing known with
  | nil => simp
  | cons n ns ih =>
    rw [List.foldl_cons, ih, List.mem_cons, ← or_assoc]
    -- A name that is known already is not put down again, but it is there.
    refine or_congr_left ?_
    split
    · next hn =>
      refine ⟨.inl, ?_⟩
      rintro (h | rfl)
      · exact h
      · exact hn
    · rw [List.mem_append, List.mem_singleton]

@[simp]
theorem mem_distinct {names : List String} {name : String} :
    name ∈ distinct names ↔ name ∈ names := by
  simp [distinct, mem_foldl_distinct]

theorem nodup_foldl_distinct {known names : List String} (h : known.Nodup) :
    (names.foldl (fun known name => if name ∈ known then known else known ++ [name])
      known).Nodup := by
  induction names generalizing known with
  | nil => exact h
  | cons n ns ih =>
    rw [List.foldl_cons]
    refine ih ?_
    split
    · exact h
    · next hn =>
      rw [List.nodup_append]
      refine ⟨h, List.nodup_singleton n, fun a ha b hb => ?_⟩
      exact fun heq => hn (List.mem_singleton.1 hb ▸ heq ▸ ha)

theorem nodup_distinct (names : List String) : (distinct names).Nodup :=
  nodup_foldl_distinct List.nodup_nil

variable {w : World} {directory : String}

theorem exists_of_mem_filesOf {names : List String} :
    ∀ name ∈ filesOf w directory names, ∃ s ∈ names, name = Path.canonical s := by
  intro name h
  rw [filesOf, mem_distinct] at h
  obtain ⟨s, hs, rfl⟩ := List.mem_map.1 (List.mem_filter.1 h).1
  exact ⟨s, hs, rfl⟩

section

variable {files : List String} (h : (Git.files w directory).result = .ok files)
include h

/-- The files are those among the lines of two answers. -/
theorem exists_answers_of_files : ∃ tracked others : Answer,
    files = filesOf w directory (tracked.lines ++ others.lines) := by
  rw [(gives_files w directory).result_eq, bind_eq_ok_iff] at h
  obtain ⟨tracked, -, h⟩ := h
  obtain ⟨others, -, h⟩ := bind_eq_ok_iff.1 h
  cases h
  exact ⟨tracked, others, rfl⟩

theorem canonical_of_mem_files : ∀ name ∈ files, Path.canonical name = name := by
  obtain ⟨tracked, others, rfl⟩ := exists_answers_of_files h
  intro name hname
  obtain ⟨s, -, rfl⟩ := exists_of_mem_filesOf name hname
  exact Path.canonical_canonical s

theorem nodup_files : files.Nodup := by
  obtain ⟨tracked, others, rfl⟩ := exists_answers_of_files h
  exact nodup_distinct _

theorem isLine_of_mem_files : ∀ name ∈ files, '\\' ∉ name.toList ∧ '\n' ∉ name.toList := by
  obtain ⟨tracked, others, rfl⟩ := exists_answers_of_files h
  intro name hname
  obtain ⟨s, hs, rfl⟩ := exists_of_mem_filesOf name hname
  have hline : '\n' ∉ s.toList := by
    have hlines : ∀ a : Answer, ∀ s ∈ a.lines, '\n' ∉ s.toList := fun a => by
      refine List.forall_mem_map.2 fun l hl => ?_
      rw [String.toList_ofList]
      exact Text.newline_not_mem_lines l hl
    exact (List.mem_append.1 hs).elim (hlines tracked s) (hlines others s)
  rw [Path.canonical, String.toList_ofList]
  exact ⟨Path.backslash_not_mem_canonicalChars _,
    fun hmem => hline (Path.mem_of_mem_canonicalChars (by decide) hmem)⟩

end

end Lintscope.Git

import Lintscope.Path

/-!
# Canonical paths

A path is canonical if it has no backslash and starts with no `./` (`IsCanonical`). The canonical
form of a path is (`isCanonical_canonical`), and a canonical path is its own canonical form
(`canonical_eq_self_iff`).
-/

namespace Lintscope.Path

theorem slash_slash (c : Char) : slash (slash c) = slash c := by
  by_cases h : c = '\\'
  · subst h
    rfl
  · have hc : slash c = c := if_neg h
    rw [hc, hc]

theorem dropDotSteps_suffix (s : List Char) : dropDotSteps s <:+ s := by
  fun_induction dropDotSteps s with
  | case1 s ih => exact ih.trans (List.suffix_append ['.', '/'] s)
  | case2 s h => exact List.suffix_refl s

theorem length_canonicalChars_le (s : List Char) : (canonicalChars s).length ≤ s.length :=
  Nat.le_trans (dropDotSteps_suffix _).length_le (Nat.le_of_eq (List.length_map _))

/-- The steps a path starts with end before another character. -/
theorem dropDotSteps_append_cons {c : Char} (hdot : c ≠ '.') (hslash : c ≠ '/') (s t : List Char) :
    dropDotSteps (s ++ c :: t) = dropDotSteps s ++ c :: t := by
  fun_induction dropDotSteps s with
  | case1 s ih => exact ih
  | case2 s hs =>
    unfold dropDotSteps
    split
    · next heq =>
      match s, heq with
      | [], heq => exact absurd (List.cons.inj heq).1 hdot
      | [_], heq => exact absurd (List.cons.inj (List.cons.inj heq).2).1 hslash
      | _ :: _ :: s, heq =>
        cases heq
        exact absurd rfl (hs s)
    · rfl

theorem dropDotSteps_dropDotSteps (s : List Char) :
    dropDotSteps (dropDotSteps s) = dropDotSteps s := by
  fun_induction dropDotSteps s with
  | case1 s ih => exact ih
  | case2 s h =>
    rw [dropDotSteps]
    exact h

/-- There is no backslash left that a slash could stand for. -/
theorem map_slash_canonicalChars (s : List Char) :
    (canonicalChars s).map slash = canonicalChars s := by
  have h : ∀ c ∈ canonicalChars s, slash c = id c := by
    intro c hc
    obtain ⟨d, -, rfl⟩ := List.mem_map.1 ((dropDotSteps_suffix _).subset hc)
    exact slash_slash d
  rw [List.map_congr_left h, List.map_id]

theorem backslash_not_mem_canonicalChars (s : List Char) : '\\' ∉ canonicalChars s := by
  intro h
  rw [← map_slash_canonicalChars] at h
  obtain ⟨c, -, hc⟩ := List.mem_map.1 h
  rw [slash] at hc
  split at hc
  · exact absurd hc (by decide)
  · next hne => exact hne hc

theorem eq_of_slash_eq {c d : Char} (hd : d ≠ '/') (h : slash c = d) : c = d := by
  rw [slash] at h
  split at h
  · exact absurd h.symm hd
  · exact h

/-- A path keeps no character but slashes that it did not have. -/
theorem mem_of_mem_canonicalChars {c : Char} (hc : c ≠ '/') {s : List Char}
    (h : c ∈ canonicalChars s) : c ∈ s := by
  obtain ⟨d, hd, hslash⟩ := List.mem_map.1 ((dropDotSteps_suffix _).subset h)
  exact eq_of_slash_eq hc hslash ▸ hd

/-- A path loses no character but those of the steps it starts with, and backslashes. -/
theorem mem_canonicalChars_iff {c : Char} (hslash : c ≠ '/') (hdot : c ≠ '.') (hback : c ≠ '\\')
    {s : List Char} : c ∈ canonicalChars s ↔ c ∈ s := by
  refine ⟨mem_of_mem_canonicalChars hslash, fun h => ?_⟩
  obtain ⟨before, after, rfl⟩ := List.append_of_mem h
  have hc : slash c = c := if_neg hback
  rw [canonicalChars, List.map_append, List.map_cons, hc, dropDotSteps_append_cons hdot hslash]
  exact List.mem_append_right _ List.mem_cons_self

theorem not_isPrefix_dropDotSteps (s : List Char) : ¬['.', '/'] <+: dropDotSteps s := by
  fun_induction dropDotSteps s with
  | case1 s ih => exact ih
  | case2 s h => exact fun ⟨rest, hrest⟩ => h rest hrest.symm

theorem canonicalChars_canonicalChars (s : List Char) :
    canonicalChars (canonicalChars s) = canonicalChars s := by
  rw [canonicalChars, map_slash_canonicalChars, canonicalChars, dropDotSteps_dropDotSteps]

@[simp]
theorem canonical_canonical (path : String) : canonical (canonical path) = canonical path := by
  rw [canonical, canonical, String.toList_ofList, canonicalChars_canonicalChars]

/-- A path in its canonical form. -/
structure IsCanonical (path : String) : Prop where
  backslash_not_mem : '\\' ∉ path.toList
  not_isPrefix : ¬['.', '/'] <+: path.toList

theorem isCanonical_canonical (path : String) : IsCanonical (canonical path) where
  backslash_not_mem := by
    rw [canonical, String.toList_ofList]
    exact backslash_not_mem_canonicalChars path.toList
  not_isPrefix := by
    rw [canonical, String.toList_ofList]
    exact not_isPrefix_dropDotSteps _

theorem canonical_eq_self_iff {path : String} : canonical path = path ↔ IsCanonical path := by
  refine ⟨fun h => h ▸ isCanonical_canonical path, fun h => ?_⟩
  have hslash : path.toList.map slash = path.toList := by
    refine (List.map_congr_left fun c hc => ?_).trans (List.map_id _)
    exact if_neg fun (hback : c = '\\') => h.backslash_not_mem (hback ▸ hc)
  have hdots : dropDotSteps path.toList = path.toList := by
    unfold dropDotSteps
    split
    · next rest hrest => exact absurd ⟨rest, hrest.symm⟩ h.not_isPrefix
    · rfl
  rw [canonical, canonicalChars, hslash, hdots, String.ofList_toList]

end Lintscope.Path

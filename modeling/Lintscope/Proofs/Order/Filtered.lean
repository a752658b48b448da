import Mathlib.Data.List.Basic

/-!
# Leaving elements out

Elements of a list may be left out before or after it is put to some use: if
nothing comes of them (`flatMap_filter_eq`), or if the list is sorted, since a
stable sort keeps elements that compare alike in their order
(`filter_mergeSort`). If less comes of some elements than should, the others do not
make up for it (`flatMap_eq_flatMap_iff`, `filterMap_eq_map_iff`). Elements that are told
apart by a number are shared out by it (`perm_flatMap_filter`).

A list that is in order is known once it is known what each key leaves of it, if
elements of equal rank have the same key (`eq_of_filter_key_eq`); and a key that
only one element has leaves the same of the list in any order
(`filter_key_eq_of_perm`).
-/

namespace Lintscope.Filtered

variable {α β : Type}

theorem flatMap_filter_eq {p : α → Bool} {f g : α → List β} {l : List α}
    (hp : ∀ a ∈ l, p a = true → f a = g a) (hn : ∀ a ∈ l, p a = false → g a = []) :
    (l.filter p).flatMap f = l.flatMap g := by
  induction l with
  | nil => rfl
  | cons a l ih =>
    rw [List.forall_mem_cons] at hp hn
    rw [List.flatMap_cons, List.filter_cons]
    cases ha : p a with
    | true => rw [if_pos rfl, List.flatMap_cons, hp.1 ha, ih hp.2 hn.2]
    | false => rw [if_neg (by simp), hn.1 ha, ih hp.2 hn.2, List.nil_append]

theorem length_flatMap_le_length_flatMap {f g : α → List β} {l : List α}
    (h : ∀ a ∈ l, (f a).length ≤ (g a).length) :
    (l.flatMap f).length ≤ (l.flatMap g).length := by
  induction l with
  | nil => exact Nat.le_refl 0
  | cons a l ih =>
    rw [List.forall_mem_cons] at h
    rw [List.flatMap_cons, List.flatMap_cons, List.length_append, List.length_append]
    exact Nat.add_le_add h.1 (ih h.2)

/-- If no part is longer than its counterpart, lists are equal in all parts or not at all. -/
theorem flatMap_eq_flatMap_iff {f g : α → List β} {l : List α}
    (h : ∀ a ∈ l, (f a).length ≤ (g a).length) :
    l.flatMap f = l.flatMap g ↔ ∀ a ∈ l, f a = g a := by
  refine ⟨fun heq => ?_, List.flatMap_congr⟩
  induction l with
  | nil => nofun
  | cons a l ih =>
    rw [List.forall_mem_cons] at h ⊢
    rw [List.flatMap_cons, List.flatMap_cons] at heq
    have hsum := congrArg List.length heq
    -- Neither the head nor the rest is longer than its counterpart, so both are as long.
    have hrest := length_flatMap_le_length_flatMap h.2
    rw [List.length_append, List.length_append] at hsum
    obtain ⟨hhead, htail⟩ := List.append_inj heq (by omega)
    exact ⟨hhead, ih h.2 htail⟩

/-- Something comes of all elements, or the others do not make up for it. -/
theorem filterMap_eq_map_iff {f : α → Option β} {g : α → β} {l : List α} :
    l.filterMap f = l.map g ↔ ∀ a ∈ l, f a = some (g a) := by
  have hle : ∀ a ∈ l, (f a).toList.length ≤ [g a].length := fun a _ => by cases f a <;> simp
  rw [List.filterMap_eq_flatMap_toList, List.map_eq_flatMap, flatMap_eq_flatMap_iff hle]
  exact forall₂_congr fun a _ => Option.toList_eq_singleton_iff

theorem filter_filter_comm (p q : α → Bool) (l : List α) :
    (l.filter q).filter p = (l.filter p).filter q := by
  simp only [List.filter_filter, Bool.and_comm]

/-- Elements that are told apart by their keys stay if their keys stay. -/
theorem filter_mem_map_eq_of_sublist [DecidableEq β] {key : α → β} {l l' : List α}
    (h : l'.Sublist l) (hl : (l.map key).Nodup) : l.filter (key · ∈ l'.map key) = l' := by
  induction h with
  | slnil => rfl
  | cons a h ih =>
    rw [List.map_cons, List.nodup_cons] at hl
    have ha : key a ∉ List.map key _ := fun hmem => hl.1 ((h.map key).subset hmem)
    rw [List.filter_cons_of_neg (by simpa using ha), ih hl.2]
  | cons_cons a h ih =>
    rw [List.map_cons, List.nodup_cons] at hl
    rw [List.filter_cons_of_pos (by simp)]
    refine congrArg (a :: ·) ((List.filter_congr fun b hb => ?_).trans (ih hl.2))
    -- The key of `a` is none of the keys behind it.
    have hne : key b ≠ key a := fun hkey => hl.1 (hkey ▸ List.mem_map_of_mem hb)
    simp only [List.map_cons, List.mem_cons, hne, false_or]

/-- Elements with a number are shared out by it. -/
theorem perm_flatMap_filter (number : α → Nat) (n : Nat) (l : List α) :
    ((List.range n).flatMap fun k => l.filter (number · = k)).Perm (l.filter (number · < n)) := by
  induction n with
  | zero => simp
  | succ n ih =>
    -- What has a number up to `n` has a smaller one, or `n` itself.
    have hsplit := List.filter_append_perm (number · < n) (l.filter (number · < n + 1))
    have hlt : (l.filter (number · < n + 1)).filter (number · < n) = l.filter (number · < n) := by
      rw [List.filter_filter]
      exact List.filter_congr fun a _ => by grind
    have hself : (l.filter (number · < n + 1)).filter (fun a => !decide (number a < n)) =
        l.filter (number · = n) := by
      rw [List.filter_filter]
      exact List.filter_congr fun a _ => by grind
    rw [hlt, hself] at hsplit
    rw [List.range_succ, List.flatMap_append, List.flatMap_singleton]
    exact (ih.append_right _).trans hsplit

/-! ## Lists in another order -/

/-- What is found does not depend on the order, if there is but one to be found. -/
theorem find?_eq_of_perm {p : α → Bool} {l l' : List α} (h : l'.Perm l)
    (hp : ∀ a ∈ l, ∀ b ∈ l, p a → p b → a = b) : l'.find? p = l.find? p := by
  cases hl : l.find? p with
  | none =>
    rw [List.find?_eq_none] at hl ⊢
    exact fun a ha => hl a (h.mem_iff.1 ha)
  | some a =>
    have ha := List.mem_of_find?_eq_some hl
    cases hl' : l'.find? p with
    | none => exact absurd (List.find?_some hl) (List.find?_eq_none.1 hl' a (h.mem_iff.2 ha))
    | some b =>
      have hb := h.mem_iff.1 (List.mem_of_find?_eq_some hl')
      rw [hp b hb a ha (List.find?_some hl') (List.find?_some hl)]

/-- Of elements that are told apart by their keys, one at most has a certain
    key, so their order does not matter to it. -/
theorem filter_key_eq_of_perm [DecidableEq β] {key : α → β} {l l' : List α} (h : l'.Perm l)
    (hl : (l.map key).Nodup) (k : β) : l'.filter (key · = k) = l.filter (key · = k) := by
  have hnone : (l.filter (key · = k)).Pairwise fun _ _ => False := by
    refine ((List.pairwise_map.1 hl).filter _).imp_of_mem fun ha hb hne => hne ?_
    rw [List.mem_filter, decide_eq_true_eq] at ha hb
    exact ha.2.trans hb.2.symm
  exact (h.filter _).eq_of_pairwise (fun _ _ _ _ h => h.elim)
    ((h.filter _).symm.pairwise hnone id) hnone

/-- Lists in order are the same if they hold the same elements of each key, and
    only elements with the same key are of equal rank. -/
theorem eq_of_filter_key_eq [DecidableEq β] {key : α → β} {le : α → α → Bool}
    (hkey : ∀ a b, le a b → le b a → key a = key b) {l l' : List α}
    (hl : l.Pairwise (le · ·)) (hl' : l'.Pairwise (le · ·))
    (h : ∀ k, l.filter (key · = k) = l'.filter (key · = k)) : l = l' := by
  have hmem : ∀ {l l' : List α}, (∀ k, l.filter (key · = k) = l'.filter (key · = k)) →
      ∀ a ∈ l, a ∈ l' := by
    intro l l' h a ha
    have ha' : a ∈ l.filter (key · = key a) := List.mem_filter.2 ⟨ha, decide_eq_true rfl⟩
    rw [h (key a)] at ha'
    exact (List.mem_filter.1 ha').1
  induction l generalizing l' with
  | nil =>
    cases l' with
    | nil => rfl
    | cons b l' => exact absurd (hmem (fun k => (h k).symm) b List.mem_cons_self) List.not_mem_nil
  | cons a l ih =>
    cases l' with
    | nil => exact absurd (hmem h a List.mem_cons_self) List.not_mem_nil
    | cons b l' =>
      rw [List.pairwise_cons] at hl hl'
      -- Each of the two first elements is in the other list, so they are of equal rank.
      have hab : a = b := by
        rcases List.mem_cons.1 (hmem h a List.mem_cons_self) with hab | ha
        · exact hab
        rcases List.mem_cons.1 (hmem (fun k => (h k).symm) b List.mem_cons_self) with hba | hb
        · exact hba.symm
        have hfirst := h (key a)
        rw [List.filter_cons_of_pos (by simp),
          List.filter_cons_of_pos (by simpa using hkey b a (hl'.1 a ha) (hl.1 b hb))] at hfirst
        exact (List.cons.inj hfirst).1
      subst hab
      refine congrArg (a :: ·) (ih hl.2 hl'.2 fun k => ?_)
      have hk := h k
      simp only [List.filter_cons] at hk
      split at hk
      · exact (List.cons.inj hk).2
      · exact hk

/-! ## Stable sorts -/

section

variable {le : α → α → Bool} (trans : ∀ a b c, le a b → le b c → le a c)
  (total : ∀ a b, le a b || le b a)
include trans total

/-- An element that is put in front goes before all that it is not above. -/
theorem mergeSort_cons_eq (a : α) (l : List α) :
    (a :: l).mergeSort le =
      (l.mergeSort le).filter (!le a ·) ++ a :: (l.mergeSort le).filter (le a ·) := by
  obtain ⟨l₁, l₂, hcons, hl, hbefore⟩ := List.mergeSort_cons trans total a l
  -- The sort cuts the rest in two; the test whether `a` is below tells the parts apart.
  have hafter : ∀ b ∈ l₂, le a b = true := by
    have hsorted := List.pairwise_mergeSort trans total (a :: l)
    rw [hcons, List.pairwise_append, List.pairwise_cons] at hsorted
    exact hsorted.2.1.1
  have hbefore' : ∀ b ∈ l₁, ¬le a b = true := by simpa using hbefore
  have hafter' : ∀ b ∈ l₂, ¬(!le a b) = true := by simpa using hafter
  rw [hcons, hl, List.filter_append, List.filter_append, List.filter_eq_self.2 hbefore,
    List.filter_eq_nil_iff.2 hbefore', List.filter_eq_nil_iff.2 hafter',
    List.filter_eq_self.2 hafter, List.append_nil, List.nil_append]

theorem filter_mergeSort (p : α → Bool) (l : List α) :
    (l.mergeSort le).filter p = (l.filter p).mergeSort le := by
  induction l with
  | nil => simp
  | cons a l ih =>
    by_cases ha : p a = true
    · rw [List.filter_cons_of_pos ha, mergeSort_cons_eq trans total, mergeSort_cons_eq trans total,
        List.filter_append, List.filter_cons_of_pos ha, filter_filter_comm p,
        filter_filter_comm p, ih]
    · -- The element is left out, so its place among the others does not matter.
      obtain ⟨l₁, l₂, hcons, hl, -⟩ := List.mergeSort_cons trans total a l
      rw [List.filter_cons_of_neg ha, ← ih, hcons, hl, List.filter_append, List.filter_append,
        List.filter_cons_of_neg ha]

end

end Lintscope.Filtered

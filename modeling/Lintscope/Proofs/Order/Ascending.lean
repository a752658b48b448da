import Lintscope.Order.Ascending
import Mathlib.Data.List.Sort

/-!
# Lists in ascending order

A list in strictly ascending order is the list of its members
(`ofList_of_pairwise`), and a list put in ascending order has the members that
it had (`mem_ofList`). So neither their order nor how often they come matters
(`ofList_congr`). Of a list without repetitions, nothing goes but its order
(`pairwise_mergeSort`).
-/

namespace Lintscope.Ascending

variable {α : Type} [LT α] [DecidableLT α]

theorem insert_of_forall_lt {x : α} {xs : List α} (h : ∀ y ∈ xs, x < y) :
    insert x xs = x :: xs := by
  cases xs with
  | nil => rfl
  | cons y ys => exact if_pos (h y List.mem_cons_self)

theorem ofList_of_pairwise {xs : List α} (h : xs.Pairwise (· < ·)) : ofList xs = xs := by
  induction xs with
  | nil => rfl
  | cons x xs ih =>
    rw [List.pairwise_cons] at h
    rw [ofList, List.foldr_cons, ← ofList, ih h.2, insert_of_forall_lt h.1]

/-! ## Linear orders -/

section

variable [LE α] [Std.IsLinearOrder α] [Std.LawfulOrderLT α] {x y : α} {xs ys : List α}

theorem mem_insert : x ∈ insert y xs ↔ x = y ∨ x ∈ xs := by
  induction xs with
  | nil => simp [insert]
  | cons z zs ih =>
    rw [insert]
    split
    · exact List.mem_cons
    · next hyz =>
      split
      · rw [List.mem_cons, List.mem_cons, ih, or_left_comm]
      · next hzy =>
        -- The order is linear, so what is neither below nor above is there already.
        obtain rfl : y = z := Std.Trichotomous.trichotomous y z hyz hzy
        simp

theorem pairwise_insert (h : xs.Pairwise (· < ·)) : (insert x xs).Pairwise (· < ·) := by
  induction xs with
  | nil => exact List.pairwise_singleton _ x
  | cons y ys ih =>
    have hy := List.pairwise_cons.1 h
    rw [insert]
    split
    · next hxy =>
      exact List.pairwise_cons.2 ⟨List.forall_mem_cons.2
        ⟨hxy, fun z hz => Std.lt_trans hxy (hy.1 z hz)⟩, h⟩
    · split
      · next hyx =>
        refine List.pairwise_cons.2 ⟨fun z hz => ?_, ih hy.2⟩
        rcases mem_insert.1 hz with rfl | hz
        · exact hyx
        · exact hy.1 z hz
      · exact h

@[simp]
theorem mem_ofList : x ∈ ofList xs ↔ x ∈ xs := by
  induction xs with
  | nil => rfl
  | cons y ys ih => rw [ofList, List.foldr_cons, ← ofList, mem_insert, ih, List.mem_cons]

theorem pairwise_ofList (xs : List α) : (ofList xs).Pairwise (· < ·) := by
  induction xs with
  | nil => exact List.Pairwise.nil
  | cons x xs ih => exact pairwise_insert ih

/-- Lists with the same members are the same in ascending order. -/
theorem ofList_congr (h : ∀ x, x ∈ xs ↔ x ∈ ys) : ofList xs = ofList ys :=
  (pairwise_ofList xs).eq_of_mem_iff (pairwise_ofList ys) fun x => by
    rw [mem_ofList, mem_ofList, h]

omit [DecidableLT α] in
/-- A list without repetitions is in strictly ascending order once it is sorted. -/
theorem pairwise_mergeSort [DecidableLE α] (h : xs.Nodup) :
    (xs.mergeSort fun x y => x ≤ y).Pairwise (· < ·) := by
  have hsorted : (xs.mergeSort fun x y => x ≤ y).Pairwise (decide <| · ≤ ·) := by
    refine List.pairwise_mergeSort (fun x y z hxy hyz => ?_) (fun x y => ?_) xs
    · exact decide_eq_true (Std.le_trans (of_decide_eq_true hxy) (of_decide_eq_true hyz))
    · simpa using Std.le_total
  have hnodup : (xs.mergeSort fun x y => x ≤ y).Nodup := (List.mergeSort_perm ..).nodup_iff.2 h
  exact hsorted.imp₂ (fun _ _ hle hne => Std.lt_of_le_of_ne (of_decide_eq_true hle) hne) hnodup

end

end Lintscope.Ascending

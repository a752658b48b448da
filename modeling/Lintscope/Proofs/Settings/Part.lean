import Lintscope.Proofs.Except
import Lintscope.Proofs.Order.Filtered
import Lintscope.Settings
import Mathlib.Data.List.FinRange

/-!
# Sharing out the tasks

The parts of a count share out a list: each item is in one of them, as often as
it is in the list (`Part.perm_flatMap_of`), and in its place among the others
(`Part.sublist_of`). What a part holds is known place by place
(`Part.getElem?_of`), so no part is much longer than another (`Part.length_of_le`).
A selection takes its part last, so the parts of what it
selects are the selections with a part (`Selection.of_part`). Settings that have
been read name no two tasks alike (`Settings.nodup_ids`), so that a part can be
told from the others by its names.
-/

namespace Lintscope

/-! ## Parts -/

namespace Part

variable {α : Type}

/-- All parts of a count, in their order. -/
def all (count : Nat) : List Part :=
  (List.finRange count).map fun k : Fin count => ⟨k.val + 1, count, Nat.succ_pos k.val, k.isLt⟩

theorem index_sub_one_lt (p : Part) : p.index - 1 < p.count :=
  Nat.lt_of_lt_of_le (Nat.sub_lt p.pos Nat.one_pos) p.le

theorem sublist_of (p : Part) (items : List α) : (p.of items).Sublist items := by
  have h : ((items.zipIdx.filter fun a => p.holds a.2).map Prod.fst).Sublist
      (items.zipIdx.map Prod.fst) := List.filter_sublist.map Prod.fst
  rwa [List.zipIdx_map_fst] at h

/-- Each item is in one of the parts. -/
theorem perm_flatMap_of {count : Nat} (h : 0 < count) (items : List α) :
    ((all count).flatMap (·.of items)).Perm items := by
  -- An item is in the part with the number that its place leaves when divided by the count.
  have hshare := Filtered.perm_flatMap_filter (fun a => a.2 % count) count items.zipIdx
  have hall : items.zipIdx.filter (fun a => decide (a.2 % count < count)) = items.zipIdx :=
    List.filter_eq_self.2 fun a _ => decide_eq_true (Nat.mod_lt a.2 h)
  rw [hall] at hshare
  have hparts : (all count).flatMap (·.of items) =
      ((List.range count).flatMap fun k => items.zipIdx.filter (·.2 % count = k)).map Prod.fst := by
    rw [all, List.flatMap_map, List.map_flatMap, ← List.map_coe_finRange_eq_range,
      List.flatMap_map]
    rfl
  rw [hparts]
  simpa using hshare.map Prod.fst

/-! ### Places -/

/-- The place, counted from zero, of the item that a part holds after `n` others. -/
def place (p : Part) (n : Nat) : Nat := p.index - 1 + n * p.count

theorem holds_iff {p : Part} {k : Nat} :
    p.holds k = true ↔ ∃ n, k + 1 = p.index + n * p.count := by
  have hpos := p.pos
  have hle := p.le
  rw [holds, decide_eq_true_iff]
  constructor
  · intro h
    refine ⟨k / p.count, ?_⟩
    have hk := Nat.mod_add_div' k p.count
    omega
  · rintro ⟨n, hn⟩
    have hk : k = p.index - 1 + n * p.count := by omega
    rw [hk, Nat.add_mul_mod_self_right, Nat.mod_eq_of_lt (by omega)]

/-- Numbered from some start, the items whose number leaves a certain rest come one count
    after the other, the first of them behind a gap. -/
theorem getElem?_filter_zipIdx {count rest : Nat} {items : List α} {start gap : Nat}
    (hgap : gap < count) (hrest : (start + gap) % count = rest) (n : Nat) :
    (((items.zipIdx start).filter fun a => a.2 % count = rest).map Prod.fst)[n]? =
      items[gap + n * count]? := by
  induction items generalizing start gap n with
  | nil => rfl
  | cons item items ih =>
    rw [List.zipIdx_cons]
    cases gap with
    | zero =>
      -- The first item is one of them, and the gap to the next one is as wide as can be.
      rw [List.filter_cons_of_pos (by simpa using hrest), List.map_cons]
      cases n with
      | zero => simp
      | succ n =>
        have hnext : (start + 1 + (count - 1)) % count = rest := by
          rw [Nat.add_assoc, Nat.add_sub_cancel' hgap, Nat.add_mod_right]
          exact hrest
        have hplace : 0 + (n + 1) * count = count - 1 + n * count + 1 := by
          rw [Nat.succ_mul]
          omega
        rw [List.getElem?_cons_succ, ih (Nat.sub_lt hgap Nat.one_pos) hnext, hplace,
          List.getElem?_cons_succ]
    | succ gap =>
      have hfirst : start % count ≠ rest := by
        intro h
        have hmod := Nat.sub_mod_eq_zero_of_mod_eq (hrest.trans h.symm)
        rw [Nat.add_sub_cancel_left, Nat.mod_eq_of_lt hgap] at hmod
        cases hmod
      have hplace : gap + 1 + n * count = gap + n * count + 1 := by omega
      rw [List.filter_cons_of_neg (by simpa using hfirst),
        ih (Nat.lt_of_succ_lt hgap) (by rwa [Nat.add_right_comm, Nat.add_assoc]), hplace,
        List.getElem?_cons_succ]

/-- A part holds every item that is a number of counts behind its first one. -/
theorem getElem?_of (p : Part) (items : List α) (n : Nat) :
    (p.of items)[n]? = items[p.place n]? :=
  getElem?_filter_zipIdx p.index_sub_one_lt
    (by rw [Nat.zero_add, Nat.mod_eq_of_lt p.index_sub_one_lt]) n

theorem lt_length_of_iff {p : Part} {items : List α} {n : Nat} :
    n < (p.of items).length ↔ p.place n < items.length := by
  rw [← not_iff_not, Nat.not_lt, Nat.not_lt, ← List.getElem?_eq_none_iff, getElem?_of,
    List.getElem?_eq_none_iff]

/-- No part is longer than another one by more than an item. -/
theorem length_of_le {p q : Part} (h : p.count = q.count) (items : List α) :
    (p.of items).length ≤ (q.of items).length + 1 := by
  by_contra hlong
  have hp : p.place ((q.of items).length + 1) < items.length := lt_length_of_iff.1 (by omega)
  -- The part `q` has no further item, so the list ends before the count is over.
  have hq : ¬q.place (q.of items).length < items.length := fun hlt =>
    Nat.lt_irrefl _ (lt_length_of_iff.2 hlt)
  rw [place, Nat.succ_mul, h] at hp
  rw [place] at hq
  have hpos := q.pos
  have hle := q.le
  omega

/-- Every place is one of one part. -/
theorem existsUnique_place {count : Nat} (h : 0 < count) (k : Nat) :
    ∃! a : Part × Nat, a.1.count = count ∧ a.1.place a.2 = k := by
  refine ⟨(⟨k % count + 1, count, Nat.succ_pos _, Nat.mod_lt k h⟩, k / count), ⟨rfl, ?_⟩, ?_⟩
  · exact Nat.mod_add_div' k count
  · rintro ⟨⟨index, _, hpos, hle⟩, n⟩ ⟨rfl, rfl⟩
    have hindex := index_sub_one_lt ⟨index, _, hpos, hle⟩
    dsimp only [place] at h hindex ⊢
    simp only [Nat.add_mul_mod_self_right, Nat.mod_eq_of_lt hindex, Nat.sub_add_cancel hpos,
      Nat.add_mul_div_right _ _ h, Nat.div_eq_of_lt hindex, Nat.zero_add]

end Part

/-! ## Selections -/

namespace Selection

variable {s : Selection} {tasks : List Task}

/-- A selection succeeds if it names tasks that are there. -/
theorem of_eq_ok (hnames : ∀ name ∈ s.names, name ∈ tasks.map Task.id) :
    s.of tasks = .ok (s.part.elim (tasks.filter s.admits) (·.of (tasks.filter s.admits))) := by
  have hfind : s.names.find? (· ∉ tasks.map Task.id) = none :=
    List.find?_eq_none.2 fun name hname => by simpa using hnames name hname
  rw [of, hfind]

/-- A part is taken of what is selected without it. -/
theorem of_part (hpart : s.part = none) (hnames : ∀ name ∈ s.names, name ∈ tasks.map Task.id) :
    ∃ chosen, chosen.Sublist tasks ∧ s.of tasks = .ok chosen ∧
      ∀ p : Part, { s with part := some p }.of tasks = .ok (p.of chosen) := by
  refine ⟨tasks.filter s.admits, List.filter_sublist, ?_, fun p => of_eq_ok hnames⟩
  rw [of_eq_ok hnames, hpart]
  rfl

end Selection

/-! ## Names -/

namespace Settings

theorem nodup_of_firstRepeated? {known ids : List String} (h : firstRepeated? known ids = none) :
    ids.Nodup ∧ ∀ id ∈ ids, id ∉ known := by
  induction ids generalizing known with
  | nil => exact ⟨List.nodup_nil, nofun⟩
  | cons id ids ih =>
    rw [firstRepeated?] at h
    split at h
    · cases h
    · next hid =>
      -- The rest has none of the known names, and from here on this one is known.
      obtain ⟨hnodup, hfresh⟩ := ih h
      refine ⟨List.nodup_cons.2 ⟨fun hmem => ?_, hnodup⟩, List.forall_mem_cons.2 ⟨hid, ?_⟩⟩
      · exact hfresh id hmem List.mem_cons_self
      · exact fun other hother hknown => hfresh other hother (List.mem_cons_of_mem id hknown)

theorem eq_of_check {s s' : Settings} (h : s.check = .ok s') :
    s' = s ∧ (s.tasks.map Task.id).Nodup := by
  rw [check] at h
  split at h
  · cases h
  split at h
  · cases h
  split at h
  · cases h
  · next hrepeated =>
    cases h
    exact ⟨rfl, (nodup_of_firstRepeated? hrepeated).1⟩

/-- Settings that have been read name no two tasks alike. -/
theorem nodup_ids {text : String} {s : Settings} (h : parse text = .ok s) :
    (s.tasks.map Task.id).Nodup := by
  obtain ⟨s', -, hcheck⟩ := bind_eq_ok_iff.1 h
  obtain ⟨rfl, hnodup⟩ := eq_of_check hcheck
  exact hnodup

end Settings

end Lintscope

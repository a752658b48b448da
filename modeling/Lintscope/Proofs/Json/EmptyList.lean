import Lintscope.Json.Reader
import Lintscope.Proofs.Except

/-!
# Empty lists in JSON

Which texts are read as a list without items, whatever the items would be:
those that are, spaces aside, a pair of brackets (`run_list_eq_ok_nil_iff`).
-/

namespace Lintscope.Json.Reader

variable {α β : Type}

/-! ## Steps -/

theorem run_bind_eq_ok_iff {x : Reader α} {f : α → Reader β} {c : Cursor} {r : β × Cursor} :
    StateT.run (x >>= f) c = .ok r ↔
      ∃ a c', StateT.run x c = .ok (a, c') ∧ StateT.run (f a) c' = .ok r := by
  rw [StateT.run_bind, bind_eq_ok_iff]
  exact ⟨fun ⟨⟨a, c'⟩, h, h'⟩ => ⟨a, c', h, h'⟩, fun ⟨a, c', h, h'⟩ => ⟨⟨a, c'⟩, h, h'⟩⟩

theorem drop_length_takeWhile (p : Char → Bool) (s : List Char) :
    s.drop (s.takeWhile p).length = s.dropWhile p := by
  induction s with
  | nil => rfl
  | cons c s ih =>
    rw [List.takeWhile_cons, List.dropWhile_cons]
    split
    · exact ih
    · rfl

/-- The cursor comes to stand before the next character that is no space. -/
theorem run_next (c : Cursor) :
    ∃ p, StateT.run next c =
      .ok ((c.rest.dropWhile isSpace).head?, ⟨c.rest.dropWhile isSpace, p⟩) := by
  have h := drop_length_takeWhile isSpace c.rest
  refine ⟨(c.rest.take (c.rest.takeWhile isSpace).length).foldl Place.after c.place, ?_⟩
  rw [← h]
  rfl

theorem next_eq_ok {c c' : Cursor} {x : Option Char} (h : StateT.run next c = .ok (x, c')) :
    x = c'.rest.head? ∧ c'.rest = c.rest.dropWhile isSpace := by
  obtain ⟨p, hp⟩ := run_next c
  rw [hp] at h
  cases h
  exact ⟨rfl, rfl⟩

/-- A complaint is never a success. -/
theorem run_unexpected_ne_ok (expected : String) (c : Cursor) (r : α × Cursor) :
    StateT.run (unexpected expected) c ≠ .ok r := by
  intro h
  obtain ⟨f, c', -, h⟩ := run_bind_eq_ok_iff.1 h
  cases h

theorem run_skip {c : Cursor} {x : Char} {s : List Char} (h : c.rest = x :: s) :
    ∃ p, StateT.run skip c = .ok ((), ⟨s, p⟩) := by
  obtain ⟨_, place⟩ := c
  cases h
  exact ⟨place.after x, rfl⟩

/-! ## Lists without items -/

theorem moreItems_eq_false {c : Cursor} {s : List Char}
    (h : c.rest.dropWhile isSpace = ']' :: s) :
    ∃ p, StateT.run (moreItems true) c = .ok (false, ⟨']' :: s, p⟩) := by
  obtain ⟨p, hp⟩ := run_next c
  refine ⟨p, run_bind_eq_ok_iff.2 ⟨_, _, hp, ?_⟩⟩
  rw [h]
  rfl

theorem of_moreItems_eq_false {c c' : Cursor}
    (h : StateT.run (moreItems true) c = .ok (false, c')) :
    ∃ s, c.rest.dropWhile isSpace = ']' :: s ∧ c'.rest = ']' :: s := by
  obtain ⟨x, c₁, hx, h⟩ := run_bind_eq_ok_iff.1 h
  obtain ⟨rfl, hrest⟩ := next_eq_ok hx
  split at h
  · next hc =>
    cases h
    obtain ⟨s, hs⟩ := List.head?_eq_some_iff.1 hc
    exact ⟨s, by rw [← hrest, hs], hs⟩
  · cases h
  · cases h

theorem run_endList {c : Cursor} {s : List Char} (h : c.rest.dropWhile isSpace = ']' :: s) :
    ∃ p, StateT.run endList c = .ok ((), ⟨s, p⟩) := by
  obtain ⟨p, hp⟩ := run_next c
  rw [h] at hp
  obtain ⟨q, hq⟩ := run_skip (c := ⟨']' :: s, p⟩) rfl
  exact ⟨q, run_bind_eq_ok_iff.2 ⟨_, _, hp, hq⟩⟩

theorem run_listTail (item : Reader α) {c : Cursor} {s : List Char}
    (h : c.rest.dropWhile isSpace = ']' :: s) :
    ∃ p, StateT.run (listTail item) c = .ok ([], ⟨s, p⟩) := by
  obtain ⟨p, hmore⟩ := moreItems_eq_false h
  obtain ⟨q, hend⟩ := run_endList (c := ⟨']' :: s, p⟩) (s := s) rfl
  have hitems : StateT.run (items item (c.rest.length + 1) true) c = .ok ([], ⟨']' :: s, p⟩) :=
    run_bind_eq_ok_iff.2 ⟨_, _, hmore, rfl⟩
  refine ⟨q, run_bind_eq_ok_iff.2 ⟨c, c, rfl, ?_⟩⟩
  exact run_bind_eq_ok_iff.2 ⟨_, _, hitems, run_bind_eq_ok_iff.2 ⟨_, _, hend, rfl⟩⟩

theorem of_listTail_eq_nil {item : Reader α} {c c' : Cursor}
    (h : StateT.run (listTail item) c = .ok ([], c')) :
    c.rest.dropWhile isSpace = ']' :: c'.rest := by
  obtain ⟨d, c₀, hget, h⟩ := run_bind_eq_ok_iff.1 h
  cases hget
  obtain ⟨all, c₁, hitems, h⟩ := run_bind_eq_ok_iff.1 h
  obtain ⟨u, c₂, hend, h⟩ := run_bind_eq_ok_iff.1 h
  cases h
  -- If an item followed, it would be in the list.
  obtain ⟨b, c₃, hmore, h⟩ := run_bind_eq_ok_iff.1 hitems
  cases b with
  | true =>
    obtain ⟨a, c₄, -, h⟩ := run_bind_eq_ok_iff.1 h
    obtain ⟨as, c₅, -, h⟩ := run_bind_eq_ok_iff.1 h
    cases h
  | false =>
    cases h
    obtain ⟨s, hs, hrest⟩ := of_moreItems_eq_false hmore
    obtain ⟨p, hp⟩ := run_endList (c := c₁) (s := s) (by rw [hrest]; rfl)
    rw [hp] at hend
    cases hend
    exact hs

/-! ## Whole texts -/

theorem list_eq_ok_nil_iff {item : Reader α} {c : Cursor} {s : List Char} :
    (∃ p, StateT.run (list item) c = .ok ([], ⟨s, p⟩)) ↔
      ∃ t, c.rest.dropWhile isSpace = '[' :: t ∧ t.dropWhile isSpace = ']' :: s := by
  constructor
  · rintro ⟨p, h⟩
    obtain ⟨x, c₁, hx, h⟩ := run_bind_eq_ok_iff.1 h
    obtain ⟨rfl, hrest⟩ := next_eq_ok hx
    split at h
    · next hc =>
      obtain ⟨t, ht⟩ := List.head?_eq_some_iff.1 hc
      obtain ⟨u, c₂, hskip, h⟩ := run_bind_eq_ok_iff.1 h
      obtain ⟨q, hq⟩ := run_skip ht
      rw [hq] at hskip
      cases hskip
      exact ⟨t, by rw [← hrest, ht], of_listTail_eq_nil h⟩
    · exact (run_unexpected_ne_ok _ _ _ h).elim
  · rintro ⟨t, ht, hs⟩
    obtain ⟨p, hp⟩ := run_next c
    rw [ht] at hp
    obtain ⟨q, hq⟩ := run_skip (c := ⟨'[' :: t, p⟩) rfl
    obtain ⟨o, ho⟩ := run_listTail item (c := ⟨t, q⟩) hs
    exact ⟨o, run_bind_eq_ok_iff.2 ⟨_, _, hp, run_bind_eq_ok_iff.2 ⟨_, _, hq, ho⟩⟩⟩

theorem filter_not_eq_cons_iff {p : Char → Bool} {s l : List Char} {x : Char} :
    s.filter (!p ·) = x :: l ↔ ∃ t, s.dropWhile p = x :: t ∧ t.filter (!p ·) = l := by
  induction s with
  | nil => simp
  | cons c s ih =>
    cases hc : p c with
    | true => simpa [hc] using ih
    | false =>
      simp only [List.filter_cons, List.dropWhile_cons, hc, Bool.not_false, if_true,
        Bool.false_eq_true, if_false, List.cons.injEq]
      exact ⟨fun ⟨h, h'⟩ => ⟨s, ⟨h, rfl⟩, h'⟩, fun ⟨t, ⟨h, ht⟩, h'⟩ => ⟨h, ht ▸ h'⟩⟩

theorem filter_not_eq_nil_iff {p : Char → Bool} {s : List Char} :
    s.filter (!p ·) = [] ↔ s.dropWhile p = [] := by
  induction s with
  | nil => simp
  | cons c s ih => cases hc : p c <;> simp [hc, ih]

/-- A text is read as a list without items if it is a pair of brackets, spaces
    aside. -/
theorem run_list_eq_ok_nil_iff {item : Reader α} {text : String} :
    (list item).run text = .ok [] ↔ text.toList.filter (!isSpace ·) = ['[', ']'] := by
  have hlist : (list item).run text = .ok [] ↔
      ∃ s, (∃ p, StateT.run (list item) { rest := text.toList } = .ok ([], ⟨s, p⟩)) ∧
        s.dropWhile isSpace = [] := by
    rw [run]
    constructor
    · intro h
      obtain ⟨⟨a, c⟩, hread, h⟩ := bind_eq_ok_iff.1 h
      cases h
      obtain ⟨a, ⟨s, p⟩, hlist, h⟩ := run_bind_eq_ok_iff.1 hread
      obtain ⟨x, c₁, hx, h⟩ := run_bind_eq_ok_iff.1 h
      obtain ⟨rfl, hrest⟩ := next_eq_ok hx
      split at h
      · cases h
      · next hc =>
        cases h
        refine ⟨s, ⟨p, hlist⟩, ?_⟩
        rw [← hrest]
        simpa using hc
    · rintro ⟨s, ⟨p, hs⟩, hend⟩
      obtain ⟨q, hq⟩ := run_next ⟨s, p⟩
      rw [hend] at hq
      refine bind_eq_ok_iff.2 ⟨⟨[], ⟨[], q⟩⟩, ?_, rfl⟩
      exact run_bind_eq_ok_iff.2 ⟨_, _, hs, run_bind_eq_ok_iff.2 ⟨_, _, hq, rfl⟩⟩
  -- The brackets are met one after the other, and nothing but spaces behind them.
  rw [hlist, filter_not_eq_cons_iff]
  simp only [filter_not_eq_cons_iff, filter_not_eq_nil_iff, list_eq_ok_nil_iff]
  constructor
  · rintro ⟨s, ⟨t, ht, hs⟩, hend⟩
    exact ⟨t, ht, s, hs, hend⟩
  · rintro ⟨t, ht, s, hs, hend⟩
    exact ⟨s, ⟨t, ht, hs⟩, hend⟩

end Lintscope.Json.Reader

import Lintscope.Proofs.Text.Cut
import Lintscope.World

/-!
# Following paths

A path is followed name by name. So a path that is taken from a directory leads
where its names lead from the place of that directory
(`World.find_join_eq_ok_iff`), and this is below the directory unless one of
the names goes up (`World.prefix_of_find_join`).
-/

namespace Lintscope.World

namespace Tree

variable {t : Tree} {r : List String × Item}

/-- The place where a name leads to from a directory. -/
def next (place : List String) (name : String) : List String :=
  if name = "" ∨ name = "." then place else if name = ".." then place.dropLast else place ++ [name]

theorem follow_cons_eq_ok_iff {place names : List String} {name : String} :
    t.follow place (name :: names) = .ok r ↔
      t.item? place = some .directory ∧ t.follow (next place name) names = .ok r := by
  rw [follow, next]
  cases t.item? place with
  | none => simp
  | some item =>
    cases item with
    | directory => simp only [true_and, apply_ite (t.follow · names)]
    | _ => simp

theorem follow_nil_eq_ok_iff {place : List String} :
    t.follow place [] = .ok r ↔ t.item? place = some r.2 ∧ place = r.1 := by
  obtain ⟨q, item⟩ := r
  rw [follow]
  cases t.item? place with
  | none => simp
  | some _ => simp [and_comm]

theorem follow_append_eq_ok_iff {place names more : List String} :
    t.follow place (names ++ more) = .ok r ↔
      ∃ q, t.follow place names = .ok q ∧ t.follow q.1 more = .ok r := by
  induction names generalizing place with
  | nil =>
    simp only [List.nil_append, follow_nil_eq_ok_iff]
    constructor
    · intro h
      -- Something stands where the names are followed from.
      have hitem : ∃ item, t.item? place = some item := by
        cases more with
        | nil => exact ⟨_, (follow_nil_eq_ok_iff.1 h).1⟩
        | cons name more => exact ⟨_, (follow_cons_eq_ok_iff.1 h).1⟩
      obtain ⟨item, hitem⟩ := hitem
      exact ⟨(place, item), ⟨hitem, rfl⟩, h⟩
    · rintro ⟨q, ⟨-, rfl⟩, h⟩
      exact h
  | cons name names ih =>
    simp only [List.cons_append, follow_cons_eq_ok_iff, ih]
    constructor
    · rintro ⟨hplace, q, hq, hr⟩
      exact ⟨q, ⟨hplace, hq⟩, hr⟩
    · rintro ⟨q, ⟨hplace, hq⟩, hr⟩
      exact ⟨hplace, q, hq, hr⟩

/-- Names that do not go up lead to a place below. -/
theorem prefix_of_follow_eq_ok {place names : List String} (hup : ".." ∉ names)
    (h : t.follow place names = .ok r) : place <+: r.1 := by
  induction names generalizing place with
  | nil => exact (follow_nil_eq_ok_iff.1 h).2 ▸ List.prefix_refl place
  | cons name names ih =>
    rw [List.mem_cons, not_or] at hup
    have hnext : place <+: next place name := by
      rw [next]
      split
      · exact List.prefix_refl place
      · rw [if_neg (Ne.symm hup.1)]
        exact List.prefix_append place [name]
    exact hnext.trans (ih hup.2 (follow_cons_eq_ok_iff.1 h).2)

end Tree

theorem names_append_slash {path : String} {s t : List Char} (h : path.toList = s ++ '/' :: t) :
    names path = names (.ofList s) ++ names (.ofList t) := by
  simp only [names, h, String.toList_ofList, List.splitOn]
  rw [List.splitOnP_append_cons s t (by simp), List.map_append]

variable {w : World} {directory path : String} {place : List String} {r : List String × Item}

theorem find_eq (h : path ≠ "") (place : List String) : w.find place path =
    w.tree.follow (if Text.startsWith ['/'] path.toList then [] else place) (names path) :=
  if_neg h

/-- The path of something in a directory parts into a path that leads to the
    directory and the path from there. -/
theorem exists_join_eq {start : List String} (hne : directory ≠ "")
    (hrelative : Text.startsWith ['/'] path.toList = false)
    (hplace : w.tree.follow start (names directory) = .ok (place, .directory)) :
    ∃ s q, (Path.join directory path).toList = s ++ '/' :: path.toList ∧
      directory.toList <+: (Path.join directory path).toList ∧
        w.tree.follow start (names (.ofList s)) = .ok q ∧ q.1 = place := by
  by_cases hslash : Text.endsWith ['/'] directory.toList = true
  · have hjoin : Path.join directory path = directory ++ path := by
      simp [Path.join, hne, hrelative, hslash]
    obtain ⟨s, hs⟩ := Option.isSome_iff_exists.1 hslash
    rw [Text.dropTail?_eq_some_iff] at hs
    -- Nothing is named behind the slash at the end, which is where the directory is.
    rw [names_append_slash hs, Tree.follow_append_eq_ok_iff] at hplace
    obtain ⟨q, hq, hplace⟩ := hplace
    have hend : names (.ofList []) = [""] := by decide
    rw [hend, Tree.follow_cons_eq_ok_iff, Tree.follow_nil_eq_ok_iff] at hplace
    refine ⟨s, q, ?_, ?_, hq, hplace.2.2⟩
    · simp [hjoin, hs]
    · simp [hjoin]
  · have hjoin : Path.join directory path = directory ++ "/" ++ path := by
      simp [Path.join, hne, hrelative, hslash]
    refine ⟨directory.toList, (place, .directory), ?_, ?_, ?_, rfl⟩
    · simp [hjoin]
    · simp [hjoin]
    · rwa [String.ofList_toList]

/-- A relative path from a directory is followed from where the directory is. -/
theorem find_join_eq_ok_iff (hplace : w.find w.workplace directory = .ok (place, .directory))
    (hrelative : Text.startsWith ['/'] path.toList = false) :
    w.find w.workplace (Path.join directory path) = .ok r ↔
      w.tree.follow place (names path) = .ok r := by
  have hne : directory ≠ "" := by
    rintro rfl
    rw [find, if_pos rfl] at hplace
    cases hplace
  rw [find_eq hne] at hplace
  obtain ⟨s, q, hjoin, hprefix, hq, rfl⟩ := exists_join_eq hne hrelative hplace
  have hjoined : Path.join directory path ≠ "" := by
    intro h
    rw [h] at hjoin
    simp at hjoin
  have hstart : Text.startsWith ['/'] (Path.join directory path).toList =
      Text.startsWith ['/'] directory.toList := by
    obtain ⟨rest, hrest⟩ := hprefix
    obtain ⟨c, d, hd⟩ := List.exists_cons_of_ne_nil (mt String.toList_eq_nil_iff.1 hne)
    rw [← hrest, hd, List.cons_append]
    simp [Text.startsWith, Text.dropLead?, apply_ite Option.isSome]
  rw [find_eq hjoined, hstart, names_append_slash hjoin, Tree.follow_append_eq_ok_iff,
    String.ofList_toList]
  constructor
  · rintro ⟨q', hq', h⟩
    rw [hq, Except.ok.injEq] at hq'
    rwa [hq']
  · exact fun h => ⟨q, hq, h⟩

/-- A path that is relative and does not go up leads below the directory that it
    is taken from. -/
theorem prefix_of_find_join (hplace : w.find w.workplace directory = .ok (place, .directory))
    (hrelative : Text.startsWith ['/'] path.toList = false) (hup : ".." ∉ names path)
    (h : w.find w.workplace (Path.join directory path) = .ok r) : place <+: r.1 :=
  Tree.prefix_of_follow_eq_ok hup ((find_join_eq_ok_iff hplace hrelative).1 h)

theorem exists_find_of_isFile (h : w.isFile path = true) :
    ∃ r, w.find w.workplace path = .ok r ∧ r.2 ≠ .directory := by
  rw [isFile, read] at h
  split at h
  · cases h
  · cases hfind : w.find w.workplace path with
    | ok r =>
      refine ⟨r, rfl, fun hdirectory => ?_⟩
      obtain ⟨q, item⟩ := r
      cases hdirectory
      rw [hfind] at h
      cases h
    | error e =>
      rw [hfind] at h
      cases h

end Lintscope.World

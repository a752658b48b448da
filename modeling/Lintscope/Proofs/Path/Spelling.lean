import Lintscope.Proofs.Path
import Lintscope.Proofs.Text.Cut
import Mathlib.Logic.Relation

/-!
# Spellings of paths

A path can be spelled in other ways, with `./` or `.\` before it and with backslashes for slashes
(`Respells`). The canonical form of all of them is the same (`Spells.canonical_eq`), and a path is a
spelling of its canonical form (`spells_canonical`). So paths have one canonical form exactly if
they are spellings of one path (`canonical_eq_canonical_iff`).

The steps that a path starts with are taken off in turns, one `./` in each (`Turn`). Whatever the
path, the turns come to an end, and to no other one (`ends_iff`).
-/

namespace Lintscope.Path

open Relation (ReflTransGen)

/-! ## Turns -/

/-- A turn takes a `./` off the start of a path. -/
def Turn (s rest : List Char) : Prop := Text.dropLead? ['.', '/'] s = some rest

/-- Turns on a path come to an end at `rest`, from which there is no turn. -/
def Ends (s rest : List Char) : Prop := ReflTransGen Turn s rest ∧ ∀ next, ¬Turn rest next

theorem turn_iff {s rest : List Char} : Turn s rest ↔ s = '.' :: '/' :: rest :=
  Text.dropLead?_eq_some_iff

theorem Turn.dropDotSteps_eq {s rest : List Char} (h : Turn s rest) :
    dropDotSteps rest = dropDotSteps s := by
  obtain rfl := turn_iff.1 h
  rfl

theorem dropDotSteps_eq_of_turns {s rest : List Char} (h : ReflTransGen Turn s rest) :
    dropDotSteps rest = dropDotSteps s := by
  induction h with
  | refl => rfl
  | tail _ hturn ih => exact hturn.dropDotSteps_eq.trans ih

theorem turns_dropDotSteps (s : List Char) : ReflTransGen Turn s (dropDotSteps s) := by
  fun_induction dropDotSteps s with
  | case1 s ih => exact .head (turn_iff.2 rfl) ih
  | case2 s h => exact .refl

/-- There is one end that the turns on a path come to. -/
theorem ends_iff {s rest : List Char} : Ends s rest ↔ rest = dropDotSteps s := by
  constructor
  · rintro ⟨hturns, hend⟩
    rw [← dropDotSteps_eq_of_turns hturns]
    rcases (turns_dropDotSteps rest).cases_head with heq | ⟨next, hturn, -⟩
    · exact heq
    · exact absurd hturn (hend next)
  · rintro rfl
    refine ⟨turns_dropDotSteps s, fun next hturn => not_isPrefix_dropDotSteps s ⟨next, ?_⟩⟩
    exact (turn_iff.1 hturn).symm

/-! ## Spellings -/

/-- Another way to spell a path. -/
inductive Respells : List Char → List Char → Prop
  /-- A step to the same directory is put before it. -/
  | dotSlash (s : List Char) : Respells s ('.' :: '/' :: s)
  /-- The same, with a backslash. -/
  | dotBackslash (s : List Char) : Respells s ('.' :: '\\' :: s)
  /-- A backslash is written for one of its slashes. -/
  | backslash (s t : List Char) : Respells (s ++ '/' :: t) (s ++ '\\' :: t)

/-- A path is spelled in other ways, any number of times. -/
def Spells (path other : String) : Prop := ReflTransGen Respells path.toList other.toList

theorem Respells.canonicalChars_eq {s t : List Char} (h : Respells s t) :
    canonicalChars t = canonicalChars s := by
  cases h with
  | dotSlash => rfl
  | dotBackslash => rfl
  | backslash s t =>
    rw [canonicalChars, canonicalChars, List.map_append, List.map_append]
    rfl

theorem canonicalChars_eq_of_respells {s t : List Char} (h : ReflTransGen Respells s t) :
    canonicalChars t = canonicalChars s := by
  induction h with
  | refl => rfl
  | tail _ hrespells ih => exact hrespells.canonicalChars_eq.trans ih

theorem Spells.canonical_eq {path other : String} (h : Spells path other) :
    canonical other = canonical path :=
  congrArg String.ofList (canonicalChars_eq_of_respells h)

/-- The slashes that stand for backslashes can be respelled one after the other, whatever stands
    before them. -/
theorem respells_map_slash (lead s : List Char) :
    ReflTransGen Respells (lead ++ s.map slash) (lead ++ s) := by
  induction s generalizing lead with
  | nil => exact .refl
  | cons c s ih =>
    have hrest := ih (lead ++ [slash c])
    simp only [List.append_assoc, List.singleton_append] at hrest
    by_cases hc : c = '\\'
    · subst hc
      exact hrest.tail (.backslash lead s)
    · have hslash : slash c = c := if_neg hc
      rw [hslash] at hrest
      rw [List.map_cons, hslash]
      exact hrest

theorem respells_dropDotSteps (s : List Char) : ReflTransGen Respells (dropDotSteps s) s := by
  fun_induction dropDotSteps s with
  | case1 s ih => exact ih.tail (.dotSlash s)
  | case2 s h => exact .refl

/-- A path is a spelling of its canonical form. -/
theorem spells_canonical (path : String) : Spells (canonical path) path := by
  rw [Spells, canonical, String.toList_ofList]
  exact (respells_dropDotSteps _).trans (respells_map_slash [] _)

/-- Paths have one canonical form if, and only if, they are spellings of one path. -/
theorem canonical_eq_canonical_iff {path other : String} :
    canonical path = canonical other ↔ ∃ common, Spells common path ∧ Spells common other := by
  constructor
  · intro h
    exact ⟨canonical path, spells_canonical path, h ▸ spells_canonical other⟩
  · rintro ⟨common, hpath, hother⟩
    exact hpath.canonical_eq.trans hother.canonical_eq.symm

/-- The canonical form of a path is canonical, and it is the path itself exactly if that is; so it
    is its own. Other spellings of a path do not change it, and it is the one end that taking `./`
    off the path with slashes comes to. -/
theorem canonical_normalizes (path : String) :
    IsCanonical (canonical path) ∧ canonical (canonical path) = canonical path ∧
    (canonical path = path ↔ IsCanonical path) ∧
    (∀ other, Spells path other → canonical other = canonical path) ∧
    ∀ rest, Ends (path.toList.map slash) rest ↔ rest = (canonical path).toList := by
  refine ⟨isCanonical_canonical path, canonical_canonical path, canonical_eq_self_iff,
    fun other => Spells.canonical_eq, fun rest => ?_⟩
  rw [canonical, String.toList_ofList]
  exact ends_iff

/-- A path with slashes and backslashes, behind steps of either kind. -/
theorem canonical_normalizes_mixed :
    Spells "src/./a b.py" ".\\./src/.\\a b.py" ∧
    canonical ".\\./src/.\\a b.py" = canonical "src/./a b.py" ∧
    canonical "src/./a b.py" = "src/./a b.py" := by
  have hspells : Spells "src/./a b.py" ".\\./src/.\\a b.py" :=
    .tail (.tail (.single (.backslash "src/.".toList "a b.py".toList)) (.dotSlash _))
      (.dotBackslash _)
  refine ⟨hspells, (canonical_normalizes _).2.2.2.1 _ hspells,
    (canonical_normalizes _).2.2.1.2 ⟨?_, ?_⟩⟩
  · decide
  · decide

end Lintscope.Path

import Lintscope.Text.Lines
import Mathlib.Data.List.Forall2

/-!
# The lines of a written text

Writing puts a newline behind every line, and reading gives the lines back,
but for a carriage return at the end of a line, which belongs to the end.

* `lines_written`: reading what was written;
* `lines_written_append`: the same with more text behind it;
* `lines_append_newline`: a newline parts the lines before it from those behind it;
* `splitsInto_linesWithEnds`, `areLinesOf_lines`: the lines of any text are the text
  cut behind its newlines, with and without their ends.
-/

namespace Lintscope.Text

/-- The text of some lines, each with a newline behind it. -/
def written (ls : List (List Char)) : List Char := ls.flatMap (· ++ ['\n'])

/-- A line without a carriage return at its end. -/
def dropReturn (line : List Char) : List Char :=
  if line.getLast? = some '\r' then line.dropLast else line

@[simp]
theorem written_cons (l : List Char) (ls : List (List Char)) :
    written (l :: ls) = l ++ '\n' :: written ls := by
  simp [written]

theorem dropReturn_of_getLast? {l : List Char} (h : l.getLast? ≠ some '\r') :
    dropReturn l = l :=
  if_neg h

theorem dropReturn_eq_self_iff {l : List Char} : dropReturn l = l ↔ l.getLast? ≠ some '\r' := by
  constructor
  · intro h hlast
    obtain ⟨body, rfl⟩ := List.getLast?_eq_some_iff.1 hlast
    simp [dropReturn] at h
  · exact dropReturn_of_getLast?

theorem isPrefix_dropReturn (l : List Char) : dropReturn l <+: l := by
  rw [dropReturn]
  split
  · exact List.dropLast_prefix l
  · exact List.prefix_refl l

/-- Only the end of a line can lose a carriage return. -/
theorem dropReturn_append {l : List Char} (h : l.getLast? ≠ some '\r') (s : List Char) :
    dropReturn (l ++ s) = l ++ dropReturn s := by
  rcases List.eq_nil_or_concat s with rfl | ⟨s, c, rfl⟩
  · simp [dropReturn, h]
  · by_cases hc : c = '\r' <;> simp [dropReturn, hc, ← List.append_assoc]

/-- What has no carriage return stands in a line if it stands before the one at its end. -/
theorem infix_dropReturn_iff {part l : List Char} (h : '\r' ∉ part) :
    part <:+: dropReturn l ↔ part <:+: l := by
  rw [dropReturn]
  split
  · next hlast =>
    obtain ⟨body, rfl⟩ := List.getLast?_eq_some_iff.1 hlast
    rw [List.dropLast_concat, List.infix_concat_iff, List.suffix_concat_iff]
    refine ⟨.inr, ?_⟩
    rintro ((rfl | ⟨rest, rfl, -⟩) | hbody)
    · exact List.nil_infix
    · simp at h
    · exact hbody
  · exact Iff.rfl

/-- The first character of a line stays, unless it is a carriage return. -/
theorem dropReturn_cons {c : Char} (h : c ≠ '\r') (s : List Char) :
    dropReturn (c :: s) = c :: dropReturn s :=
  dropReturn_append (l := [c]) (by simpa using h) s

theorem linesWithEnds_append_newline {l : List Char} (h : '\n' ∉ l) (s : List Char) :
    linesWithEnds (l ++ '\n' :: s) = (l ++ ['\n']) :: linesWithEnds s := by
  induction l with
  | nil => simp [linesWithEnds]
  | cons c l ih =>
    rw [List.mem_cons, not_or] at h
    rw [List.cons_append, linesWithEnds, if_neg (Ne.symm h.1), ih h.2, List.cons_append]

theorem linesWithEnds_of_newline_not_mem {l : List Char} (hne : l ≠ []) (h : '\n' ∉ l) :
    linesWithEnds l = [l] := by
  induction l with
  | nil => exact absurd rfl hne
  | cons c l ih =>
    rw [List.mem_cons, not_or] at h
    rw [linesWithEnds, if_neg (Ne.symm h.1)]
    cases l with
    | nil => rfl
    | cons d l => rw [ih (List.cons_ne_nil d l) h.2]

theorem chomp_append_newline (l : List Char) : chomp (l ++ ['\n']) = dropReturn l := by
  simp [chomp, dropReturn]

theorem lines_written_append {ls : List (List Char)} (h : ∀ l ∈ ls, '\n' ∉ l) (s : List Char) :
    lines (written ls ++ s) = ls.map dropReturn ++ lines s := by
  induction ls with
  | nil => rfl
  | cons l ls ih =>
    rw [List.forall_mem_cons] at h
    rw [written_cons, List.append_assoc, List.cons_append, lines, linesWithEnds_append_newline h.1,
      List.map_cons, chomp_append_newline, ← lines, ih h.2, List.map_cons, List.cons_append]

theorem lines_written {ls : List (List Char)} (h : ∀ l ∈ ls, '\n' ∉ l) :
    lines (written ls) = ls.map dropReturn := by
  simpa [lines, linesWithEnds] using lines_written_append h []

theorem lines_concat_newline {l : List Char} (h : '\n' ∉ l) :
    lines (l ++ ['\n']) = [dropReturn l] := by
  simpa [written] using lines_written (List.forall_mem_singleton.2 h)

theorem lines_of_newline_not_mem {l : List Char} (hne : l ≠ []) (h : '\n' ∉ l) :
    lines l = [l] := by
  have hlast : l.getLast? ≠ some '\n' := fun hl => h (List.mem_of_getLast? hl)
  rw [lines, linesWithEnds_of_newline_not_mem hne h, List.map_singleton, chomp, if_neg hlast]

theorem newline_not_mem_dropLast {s : List Char} : ∀ l ∈ linesWithEnds s, '\n' ∉ l.dropLast := by
  induction s with
  | nil => exact List.forall_mem_nil _
  | cons c s ih =>
    rw [linesWithEnds]
    split
    · exact List.forall_mem_cons.2 ⟨List.not_mem_nil, ih⟩
    · next hc =>
      cases hs : linesWithEnds s with
      | nil => exact List.forall_mem_singleton.2 List.not_mem_nil
      | cons l ls =>
        rw [hs, List.forall_mem_cons] at ih
        refine List.forall_mem_cons.2 ⟨?_, ih.2⟩
        cases l with
        | nil => exact List.not_mem_nil
        | cons d l =>
          rw [List.dropLast_cons_cons, List.mem_cons, not_or]
          exact ⟨Ne.symm hc, ih.1⟩

/-- A newline stands nowhere but at the end of a line. -/
theorem newline_not_mem_or_exists_concat {line : List Char} (h : '\n' ∉ line.dropLast) :
    '\n' ∉ line ∨ ∃ s, '\n' ∉ s ∧ line = s ++ ['\n'] := by
  rcases List.eq_nil_or_concat line with rfl | ⟨s, c, rfl⟩
  · exact .inl List.not_mem_nil
  rw [List.concat_eq_append, List.dropLast_concat] at h
  rw [List.concat_eq_append]
  by_cases hc : c = '\n'
  · exact .inr ⟨s, h, by rw [hc]⟩
  · exact .inl (by simp [h, Ne.symm hc])

theorem isPrefix_chomp (line : List Char) : chomp line <+: line := by
  rw [chomp]
  split
  · dsimp only
    split
    · exact (List.dropLast_prefix _).trans (List.dropLast_prefix _)
    · exact List.dropLast_prefix _
  · exact List.prefix_refl _

/-- A line ends before the newline behind it. -/
theorem newline_not_mem_lines {s : List Char} : ∀ l ∈ lines s, '\n' ∉ l := by
  refine List.forall_mem_map.2 fun l hl => ?_
  rcases newline_not_mem_or_exists_concat (newline_not_mem_dropLast l hl) with hno | ⟨s, hs, rfl⟩
  · exact fun hmem => hno ((isPrefix_chomp l).subset hmem)
  · rw [chomp_append_newline]
    exact fun hmem => hs ((isPrefix_dropReturn s).subset hmem)

/-- A line has no character that the text does not have. -/
theorem mem_of_mem_lines {s l : List Char} {c : Char} (hl : l ∈ lines s) (hc : c ∈ l) : c ∈ s := by
  obtain ⟨whole, hwhole, rfl⟩ := List.mem_map.1 hl
  have hmem : c ∈ (linesWithEnds s).flatten :=
    List.mem_flatten_of_mem hwhole ((isPrefix_chomp whole).subset hc)
  rwa [flatten_linesWithEnds] at hmem

/-- A text starts with its first line. -/
theorem isPrefix_of_mem_head?_lines {s l : List Char} (h : l ∈ (lines s).head?) : l <+: s := by
  rw [lines, List.head?_map] at h
  obtain ⟨first, hfirst, rfl⟩ := Option.map_eq_some_iff.1 h
  obtain ⟨ls, hls⟩ := List.head?_eq_some_iff.1 hfirst
  have hflatten := flatten_linesWithEnds s
  rw [hls, List.flatten_cons] at hflatten
  exact (isPrefix_chomp first).trans ⟨ls.flatten, hflatten⟩

/-- What stands behind the last newline of a text. -/
theorem exists_last_newline {s : List Char} (h : '\n' ∈ s) :
    ∃ before last, s = before ++ '\n' :: last ∧ '\n' ∉ last := by
  obtain ⟨last, before, hs, hlast⟩ := List.eq_append_cons_of_mem (List.mem_reverse.2 h)
  refine ⟨before.reverse, last.reverse, ?_, by simpa using hlast⟩
  simpa using congrArg List.reverse hs

/-! ## Texts one behind the other -/

theorem linesWithEnds_ne_nil {s : List Char} (h : s ≠ []) : linesWithEnds s ≠ [] := by
  intro hnil
  have hflatten := flatten_linesWithEnds s
  rw [hnil] at hflatten
  exact h hflatten.symm

theorem linesWithEnds_append_newline_append (s t : List Char) :
    linesWithEnds (s ++ '\n' :: t) = linesWithEnds (s ++ ['\n']) ++ linesWithEnds t := by
  induction s with
  | nil => simp [linesWithEnds]
  | cons c s ih =>
    rw [List.cons_append, List.cons_append, linesWithEnds, linesWithEnds, ih]
    by_cases hc : c = '\n'
    · simp [hc]
    · -- The line that `c` belongs to ends with the newline, or before it.
      have hne : linesWithEnds (s ++ ['\n']) ≠ [] := linesWithEnds_ne_nil (by simp)
      cases hl : linesWithEnds (s ++ ['\n']) with
      | nil => exact absurd hl hne
      | cons l ls => simp [hc]

theorem lines_append_newline (s t : List Char) :
    lines (s ++ ['\n'] ++ t) = lines (s ++ ['\n']) ++ lines t := by
  rw [List.append_assoc, List.singleton_append, lines, linesWithEnds_append_newline_append,
    List.map_append, lines, lines]

/-- Reading what was written, whatever newlines it has itself. -/
theorem lines_written_eq_flatMap (ls : List (List Char)) :
    lines (written ls) = ls.flatMap fun l => lines (l ++ ['\n']) := by
  induction ls with
  | nil => rfl
  | cons l ls ih =>
    rw [written, List.flatMap_cons, lines_append_newline, ← written, ih, List.flatMap_cons]

theorem exists_linesWithEnds_append {lead : List Char} (hne : lead ≠ []) (hlead : '\n' ∉ lead)
    (s : List Char) : ∃ rest ls, linesWithEnds (lead ++ s) = (lead ++ rest) :: ls := by
  induction lead with
  | nil => exact absurd rfl hne
  | cons c lead ih =>
    rw [List.mem_cons, not_or] at hlead
    rw [List.cons_append, linesWithEnds, if_neg (Ne.symm hlead.1)]
    cases lead with
    | nil => cases hs : linesWithEnds s <;> simp [hs]
    | cons d lead =>
      obtain ⟨rest, ls, h⟩ := ih (List.cons_ne_nil d lead) hlead.2
      exact ⟨rest, ls, by rw [h]; rfl⟩

theorem exists_chomp_append {lead : List Char} (hlead : '\n' ∉ lead)
    (hreturn : lead.getLast? ≠ some '\r') (s : List Char) :
    ∃ rest, chomp (lead ++ s) = lead ++ rest := by
  rcases List.eq_nil_or_concat s with rfl | ⟨s, c, rfl⟩
  · have hlast : lead.getLast? ≠ some '\n' := fun h => hlead (List.mem_of_getLast? h)
    exact ⟨[], by simp [chomp, hlast]⟩
  · by_cases hc : c = '\n'
    · refine ⟨dropReturn s, ?_⟩
      rw [hc, List.concat_eq_append, ← List.append_assoc, chomp_append_newline,
        dropReturn_append hreturn]
    · exact ⟨s ++ [c], by simp [chomp, hc]⟩

/-- A text that starts with a part of a line has a first line that does so. -/
theorem exists_lines_append {lead : List Char} (hne : lead ≠ []) (hlead : '\n' ∉ lead)
    (hreturn : lead.getLast? ≠ some '\r') (s : List Char) :
    ∃ rest ls, lines (lead ++ s) = (lead ++ rest) :: ls := by
  obtain ⟨first, ls, h⟩ := exists_linesWithEnds_append hne hlead s
  obtain ⟨rest, hrest⟩ := exists_chomp_append hlead hreturn first
  exact ⟨rest, ls.map chomp, by rw [lines, h, List.map_cons, hrest]⟩

/-! ## What the lines of a text are -/

/-- A text splits into lines with their ends. They are the text in one piece, none of
    them is empty, and the newlines are the ends of all lines but perhaps the last. -/
structure SplitsInto (s : List Char) (ls : List (List Char)) : Prop where
  flatten_eq : ls.flatten = s
  nil_not_mem : [] ∉ ls
  newline_not_mem : ∀ l ∈ ls, '\n' ∉ l.dropLast
  getLast?_eq : ∀ l ∈ ls.dropLast, l.getLast? = some '\n'

/-- What is left of a line without its end, which is a newline, with the carriage
    return before it if there is one. -/
def IsWithoutEnd (line rest : List Char) : Prop :=
  '\n' ∉ line ∧ rest = line ∨ line = rest ++ ['\n'] ∧ rest.getLast? ≠ some '\r' ∨
    line = rest ++ ['\r', '\n']

/-- Some lines are those of a text without their ends. -/
def AreLinesOf (ls : List (List Char)) (s : List Char) : Prop :=
  ∃ ended, SplitsInto s ended ∧ List.Forall₂ IsWithoutEnd ended ls

theorem nil_not_mem_linesWithEnds (s : List Char) : [] ∉ linesWithEnds s := by
  induction s with
  | nil => exact List.not_mem_nil
  | cons c s ih =>
    rw [linesWithEnds]
    split
    · simp [ih]
    · split <;> simp_all

theorem getLast?_of_mem_dropLast_linesWithEnds (s : List Char) :
    ∀ l ∈ (linesWithEnds s).dropLast, l.getLast? = some '\n' := by
  induction s with
  | nil => exact List.forall_mem_nil _
  | cons c s ih =>
    rw [linesWithEnds]
    split
    · cases hs : linesWithEnds s with
      | nil => exact List.forall_mem_nil _
      | cons l ls =>
        rw [hs] at ih
        rw [List.dropLast_cons_cons]
        exact List.forall_mem_cons.2 ⟨rfl, ih⟩
    · -- The character joins the first line, whose end stays what it is.
      cases hs : linesWithEnds s with
      | nil => exact List.forall_mem_nil _
      | cons l ls =>
        rw [hs] at ih
        cases ls with
        | nil => exact List.forall_mem_nil _
        | cons l' ls =>
          rw [List.dropLast_cons_cons, List.forall_mem_cons] at ih ⊢
          exact ⟨by rw [List.getLast?_cons, ih.1]; rfl, ih.2⟩

theorem splitsInto_linesWithEnds (s : List Char) : SplitsInto s (linesWithEnds s) where
  flatten_eq := flatten_linesWithEnds s
  nil_not_mem := nil_not_mem_linesWithEnds s
  newline_not_mem := newline_not_mem_dropLast
  getLast?_eq := getLast?_of_mem_dropLast_linesWithEnds s

theorem isWithoutEnd_chomp {line : List Char} (h : '\n' ∉ line.dropLast) :
    IsWithoutEnd line (chomp line) := by
  rcases newline_not_mem_or_exists_concat h with hno | ⟨s, -, rfl⟩
  · have hlast : line.getLast? ≠ some '\n' := fun hl => hno (List.mem_of_getLast? hl)
    exact .inl ⟨hno, if_neg hlast⟩
  · rw [chomp_append_newline]
    by_cases hreturn : s.getLast? = some '\r'
    · obtain ⟨body, rfl⟩ := List.getLast?_eq_some_iff.1 hreturn
      exact .inr (.inr (by simp [dropReturn]))
    · rw [dropReturn_of_getLast? hreturn]
      exact .inr (.inl ⟨rfl, hreturn⟩)

theorem areLinesOf_lines (s : List Char) : AreLinesOf (lines s) s := by
  refine ⟨linesWithEnds s, splitsInto_linesWithEnds s, List.forall₂_map_right_iff.2 ?_⟩
  exact List.forall₂_same.2 fun line hline => isWithoutEnd_chomp (newline_not_mem_dropLast line hline)

end Lintscope.Text

import Lintscope.Check.Header
import Lintscope.Proofs.Text.Cut
import Lintscope.Proofs.Text.Lines
import Mathlib.Data.List.Infix

/-!
# What the check of headers finds

The lines of a text are compared with those that it should start with, place by place, as far
as there are both (`ofText_eq`). So the check has nothing to say exactly when the text is empty
or starts with these lines (`ofText_eq_nil_iff`).

A script has a line of its own above the header. The check passes over it if it is the one that
the options name (`silent_script_iff`). If they name none, it is taken for the first line of the
header, so that a text with its header is no longer in order once it is made a script
(`not_silent_both`). Both together tell when a script has messages exactly if the text below its
first line has some (`ofText_script_iff`).
-/

namespace Lintscope.Check.Header

open Text

variable (o : HeaderOptions)

/-- The lines that a content should start with: if it is that of a script, the one that the
    options name for it; further lines and those of the header as comments, without the blanks
    at their ends; two hyphens as a comment. -/
def wanted (header content : String) : List (List Char) :=
  let script := if startsWith ['#', '!'] content.toList then o.shebang.toList else []
  let comments := (o.extra.map String.toList ++ lines header.toList).map (o.comment.toList ++ ·)
  script.map String.toList ++ comments.map trimEnd ++ [o.comment.toList ++ "--".toList]

/-! ## Scripts -/

/-- The content of a script is known by its first line. -/
theorem isScript_lines (s : List Char) : isScript (lines s) = startsWith ['#', '!'] s := by
  rw [Bool.eq_iff_iff, isScript, Option.any_eq_true, startsWith_iff]
  constructor
  · rintro ⟨l, hl, hlead⟩
    exact (startsWith_iff.1 hlead).trans (isPrefix_of_mem_head?_lines hl)
  · rintro ⟨t, rfl⟩
    obtain ⟨rest, ls, h⟩ : ∃ rest ls, lines (['#', '!'] ++ t) = (['#', '!'] ++ rest) :: ls :=
      exists_lines_append (by simp) (by simp) (by simp) t
    exact ⟨['#', '!'] ++ rest, by rw [h]; rfl, startsWith_iff.2 (List.prefix_append _ _)⟩

/-- The lines that are expected are those that are wanted. -/
theorem expected_eq_wanted (header content : String) :
    expected o header (startsWith ['#', '!'] content.toList) = wanted o header content := by
  cases hscript : startsWith ['#', '!'] content.toList <;> cases hshebang : o.shebang <;>
    simp [expected, wanted, hscript, hshebang, Function.comp_def]

/-! ## Lines that differ -/

section

variable (path : String)

/-- The message about a place, if a line is wanted there and another one is found; it names the
    wanted one. Places count from zero, and the line in the first one has a number. -/
def difference? (number : Nat) (wanted found : List (List Char)) (i : Nat) : Option Message :=
  match wanted[i]?, found[i]? with
  | some w, some f =>
    if w = f then none
    else
      some
        { path := some (Path.canonical path), line := some (number + i)
          text := "Line should be: " ++ .ofList w }
  | _, _ => none

/-- The message about the file as a whole, if it has fewer lines than are wanted. -/
def shortage? (wanted found : List (List Char)) : Option Message :=
  if found.length < wanted.length then
    some
      { path := some (Path.canonical path), line := none
        text := "file ends inside the header: expected " ++ toString wanted.length ++
          " header lines, found " ++ toString found.length }
  else none

theorem shortage?_eq_none_iff (wanted found : List (List Char)) :
    shortage? path wanted found = none ↔ wanted.length ≤ found.length := by
  simp [shortage?]

theorem differences_eq {number : Nat} (h : 0 < number) (wanted found : List (List Char)) :
    differences path number wanted found =
      (List.range found.length).filterMap (difference? path number wanted found) := by
  induction wanted generalizing number found with
  | nil => simp [differences, difference?]
  | cons w ws ih =>
    cases found with
    | nil => simp [differences]
    | cons f fs =>
      have hlater : difference? path number (w :: ws) (f :: fs) ∘ Nat.succ =
          difference? path (number + 1) ws fs := by
        funext i
        simp [difference?, Nat.add_right_comm, Nat.add_assoc]
      rw [differences, ih (Nat.succ_pos number), List.length_cons, List.range_succ_eq_map,
        List.filterMap_cons, List.filterMap_map, hlater]
      by_cases hw : w = f
      · simp [difference?, hw]
      · simp [difference?, hw, Message.about, Message.positive?, h]

theorem differences_eq_nil_iff (number : Nat) (wanted found : List (List Char)) :
    differences path number wanted found = [] ∧ wanted.length ≤ found.length ↔
      wanted <+: found := by
  induction wanted generalizing number found with
  | nil => simp [differences]
  | cons w ws ih =>
    cases found with
    | nil => simp
    | cons f fs =>
      rw [List.cons_prefix_cons, differences, ← ih (number + 1) fs]
      by_cases hw : w = f <;> simp [hw]

end

/-! ## Texts -/

section

variable {o} {header path content : String}

theorem ofText_of_ne_empty (h : content ≠ "") :
    ofText o header path content =
      differences path 1 (wanted o header content) (lines content.toList) ++
        (shortage? path (wanted o header content) (lines content.toList)).toList := by
  simp only [ofText, if_neg h, isScript_lines, expected_eq_wanted, shortage?]
  split <;> rfl

theorem ofText_eq_nil_iff_of_ne_empty (h : content ≠ "") :
    ofText o header path content = [] ↔ wanted o header content <+: lines content.toList := by
  rw [ofText_of_ne_empty h, ← differences_eq_nil_iff path 1, List.append_eq_nil_iff,
    Option.toList_eq_nil_iff, shortage?_eq_none_iff]

end

/-- The lines of a text and of the header are these texts cut at their newlines. The check has
    nothing to say of a text exactly when it is empty or starts with the lines that are wanted.
    Otherwise it tells of every place where a line is wanted and another one is found, once and in
    their order, and then that the text is too short, if it is. -/
theorem ofText_eq (header path content : String) :
    AreLinesOf (lines header.toList) header.toList ∧
    AreLinesOf (lines content.toList) content.toList ∧
    (ofText o header path content = [] ↔
      content = "" ∨ wanted o header content <+: lines content.toList) ∧
    (content ≠ "" → ofText o header path content =
      (List.range (lines content.toList).length).filterMap
          (difference? path 1 (wanted o header content) (lines content.toList)) ++
        (shortage? path (wanted o header content) (lines content.toList)).toList) := by
  refine ⟨areLinesOf_lines _, areLinesOf_lines _, ?_, fun h => ?_⟩
  · by_cases h : content = ""
    · simp [h, ofText]
    · rw [ofText_eq_nil_iff_of_ne_empty h, or_iff_right h]
  · rw [ofText_of_ne_empty h, differences_eq path Nat.one_pos]

example :
    ofText {} "Demo\n\nMIT\n" "run.sh" "#!/bin/sh\r\n# Demo \n#" =
      [{ path := some "run.sh", line := some 1
         text := "Line should be: #!/usr/bin/env python3" },
       { path := some "run.sh", line := some 2, text := "Line should be: # Demo" },
       { path := some "run.sh", line := none
         text := "file ends inside the header: expected 5 header lines, found 3" }] := by
  decide +kernel

/-! ## Scripts and their headers -/

section

variable {o} {header path first content : String}

/-- The lines of a script are its first line and those of the text below. -/
theorem lines_script (hfirst : '\n' ∉ first.toList) (content : String) :
    lines (first ++ "\n" ++ content).toList =
      dropReturn first.toList :: lines content.toList := by
  have h := lines_written_append (List.forall_mem_singleton.2 hfirst) content.toList
  simpa [written] using h

theorem startsWith_dropReturn {s : List Char} (h : startsWith ['#', '!'] s = true) :
    startsWith ['#', '!'] (dropReturn s) = true := by
  obtain ⟨t, rfl⟩ := startsWith_iff.1 h
  rw [dropReturn_append (by simp)]
  exact startsWith_iff.2 (List.prefix_append _ _)

theorem wanted_script (h : startsWith ['#', '!'] first.toList = true) :
    wanted o header (first ++ "\n" ++ content) =
      (o.shebang.map String.toList).toList ++ expected o header false := by
  have hscript : startsWith ['#', '!'] (first ++ "\n" ++ content).toList = true := by
    obtain ⟨t, ht⟩ := startsWith_iff.1 h
    exact startsWith_iff.2 ⟨t ++ '\n' :: content.toList, by simp [← ht]⟩
  rw [← expected_eq_wanted, hscript]
  simp [expected]

theorem expected_ne_nil (isScript : Bool) : expected o header isScript ≠ [] := by
  simp [expected]

section

variable (hscript : startsWith ['#', '!'] first.toList = true) (hfirst : '\n' ∉ first.toList)
  (hne : content ≠ "") (hplain : startsWith ['#', '!'] content.toList = false)
include hscript hfirst

theorem ofText_script_eq_nil_iff :
    ofText o header path (first ++ "\n" ++ content) = [] ↔
      (o.shebang.map String.toList).toList ++ expected o header false <+:
        dropReturn first.toList :: lines content.toList := by
  have hne : first ++ "\n" ++ content ≠ "" := fun h => by simpa using congrArg String.toList h
  rw [ofText_eq_nil_iff_of_ne_empty hne, wanted_script hscript, lines_script hfirst]

include hne hplain

/-- If the first line is the one that is named, the check passes over it. -/
theorem silent_script_iff (hshebang : o.shebang = some first) :
    ofText o header path (first ++ "\n" ++ content) = [] ↔
      first.toList.getLast? ≠ some '\r' ∧ ofText o header path content = [] := by
  rw [ofText_script_eq_nil_iff hscript hfirst, ofText_eq_nil_iff_of_ne_empty hne,
    ← expected_eq_wanted, hplain, hshebang, ← dropReturn_eq_self_iff]
  exact List.cons_prefix_cons.trans (and_congr_left' eq_comm)

/-- If no line is named, the first line of the script would have to be that of the header. -/
theorem not_silent_both (hshebang : o.shebang = none) :
    ¬(ofText o header path (first ++ "\n" ++ content) = [] ∧
      ofText o header path content = []) := by
  rw [ofText_script_eq_nil_iff hscript hfirst, ofText_eq_nil_iff_of_ne_empty hne,
    ← expected_eq_wanted, hplain, hshebang]
  obtain ⟨e, es, he⟩ : ∃ e es, expected o header false = e :: es :=
    List.exists_cons_of_ne_nil (expected_ne_nil false)
  rw [he]
  rintro ⟨hs, t, ht⟩
  obtain ⟨rfl, -⟩ := List.cons_prefix_cons.1 hs
  -- The content would start with the first line of the script, and so be one itself.
  have hcontent := isScript_lines content.toList
  rw [← ht, hplain, isScript] at hcontent
  simp [startsWith_dropReturn hscript] at hcontent

end

end

/-- When the first line of a script, which the options name unless they name none, is of no matter
    to the check, so that the script has messages exactly if the text below has some: that is so if
    the options name it, and it does not end with a carriage return, which would belong to the end
    of the line and not to the line. Else it is so only where both have messages anyway. -/
theorem ofText_script_iff {o : HeaderOptions} {header path first content : String}
    (hscript : startsWith ['#', '!'] first.toList = true) (hfirst : '\n' ∉ first.toList)
    (hne : content ≠ "") (hplain : startsWith ['#', '!'] content.toList = false)
    (hshebang : o.shebang = some first ∨ o.shebang = none) :
    (ofText o header path (first ++ "\n" ++ content) = [] ↔ ofText o header path content = []) ↔
      o.shebang = some first ∧ first.toList.getLast? ≠ some '\r' ∨
        ofText o header path (first ++ "\n" ++ content) ≠ [] ∧
          ofText o header path content ≠ [] := by
  rcases hshebang with hnamed | hnone
  · simp only [ne_eq, silent_script_iff hscript hfirst hne hplain hnamed, hnamed, true_and]
    tauto
  · have hboth : ¬(ofText o header path (first ++ "\n" ++ content) = [] ∧
        ofText o header path content = []) := not_silent_both hscript hfirst hne hplain hnone
    simp only [hnone, reduceCtorEq, false_and, false_or]
    tauto

/-- A script for another shell than the usual one, with its header and a line above it. -/
theorem ofText_script_iff_shell :
    let o : HeaderOptions := { shebang := some "#!/bin/sh -e", extra := ["mode: sh"] }
    let content := "# mode: sh\n# Demo\n#\n# --\r\nset\n"
    (startsWith ['#', '!'] "#!/bin/sh -e".toList = true ∧ '\n' ∉ "#!/bin/sh -e".toList ∧
      content ≠ "" ∧ startsWith ['#', '!'] content.toList = false ∧
      (o.shebang = some "#!/bin/sh -e" ∨ o.shebang = none)) ∧
    ((ofText o "Demo\n\n" "run.sh" ("#!/bin/sh -e" ++ "\n" ++ content) = [] ↔
        ofText o "Demo\n\n" "run.sh" content = []) ↔
      o.shebang = some "#!/bin/sh -e" ∧ "#!/bin/sh -e".toList.getLast? ≠ some '\r' ∨
        ofText o "Demo\n\n" "run.sh" ("#!/bin/sh -e" ++ "\n" ++ content) ≠ [] ∧
          ofText o "Demo\n\n" "run.sh" content ≠ []) := by
  refine ⟨⟨by decide, by decide, by decide, by decide, .inl rfl⟩, ?_⟩
  exact ofText_script_iff (by decide) (by decide) (by decide) (by decide) (.inl rfl)

/-- Where no first line is named, a text with its header is in order, and the script that is made
    of it is not: its first line is taken for that of the header. -/
theorem ofText_unnamedScript :
    let o : HeaderOptions := { shebang := none }
    let content := "# Demo project\n# --\n"
    ofText o "Demo project\n" "run.py" content = [] ∧
      ofText o "Demo project\n" "run.py" ("#!/usr/bin/env python3" ++ "\n" ++ content) =
        [{ path := some "run.py", line := some 1, text := "Line should be: # Demo project" },
         { path := some "run.py", line := some 2, text := "Line should be: # --" }] := by
  decide +kernel

end Lintscope.Check.Header

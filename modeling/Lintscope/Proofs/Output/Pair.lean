import Lintscope.Output.Paired
import Lintscope.Proofs.Output.Location

/-!
# Problems on two lines

`pydocstyle` writes the location of a problem on one line, and `CODE: text` on the next. Blank
lines and warnings are left out first (`lines_speaking`), so that a line is paired with the one
that it was written with, whatever stands between them. A problem takes two lines and gives one
message (`Paired.ofPairs_lines`), or, if it has no path, it leaves its lines over. So problems are
read as they were written if, and only if, each of them has a path (`Paired.ofPairedLines_eq_iff`).
-/

namespace Lintscope.Output

open Text

/-! ## Lines that say something -/

/-- A line is blank, or a warning of the tool about itself. -/
def IsIdle (line : List Char) : Prop := allBlank line = true ∨ "WARNING: ".toList <:+: line

theorem isIdle_iff {line : List Char} :
    IsIdle line ↔ allBlank line = true ∨ isWarning line = true := by
  rw [IsIdle, isWarning, contains_iff]

instance : DecidablePred IsIdle := fun _ => decidable_of_iff _ isIdle_iff.symm

/-- A carriage return at the end of a line does not make it speak. -/
theorem isIdle_dropReturn_iff {line : List Char} : IsIdle (dropReturn line) ↔ IsIdle line := by
  rw [IsIdle, IsIdle, Entry.allBlank_dropReturn, infix_dropReturn_iff (by decide)]

section

variable {es : List (Entry (List Char))}
  (hline : ∀ line, .problem line ∈ es → '\n' ∉ line ∧ ¬IsIdle line)
  (hother : ∀ line, .other line ∈ es → '\n' ∉ line ∧ IsIdle line)
include hline hother

/-- What is left of an output are the lines that say something. -/
theorem lines_speaking :
    (lines (Entry.text id es)).filter (!isWarning ·) = (Entry.problems es).map dropReturn := by
  have hnewline : ∀ l ∈ es.map (Entry.line id), '\n' ∉ l := by
    refine List.forall_mem_map.2 fun e he => ?_
    cases e with
    | problem line => exact (hline line he).1
    | other line => exact (hother line he).1
  rw [lines, Entry.text, lines_written hnewline, List.filter_filter, List.map_map, Entry.problems,
    List.map_filterMap, ← List.filterMap_eq_filter, List.filterMap_map]
  refine List.filterMap_congr fun e he => ?_
  cases e with
  | problem line =>
    have hidle := mt isIdle_dropReturn_iff.1 (hline line he).2
    rw [isIdle_iff, not_or, Bool.not_eq_true, Bool.not_eq_true] at hidle
    simp [Entry.line, Entry.problem?, Option.guard, hidle]
  | other line =>
    have hidle := isIdle_iff.1 (isIdle_dropReturn_iff.2 (hother line he).2)
    have hfalse : (!isWarning (dropReturn line) && !allBlank (dropReturn line)) = false := by
      rcases hidle with hblank | hwarning
      · rw [hblank, Bool.not_true, Bool.and_false]
      · rw [hwarning, Bool.not_true, Bool.false_and]
    simp [Entry.line, Entry.problem?, Option.guard, hfalse]

end

/-! ## Headings -/

theorem heading?_eq_some {path : List Char} {n : Nat} (hpath : path ≠ [])
    (hhead : path.head?.any isBlank = false) (hcolon : ':' ∉ path) (hn : n < limit32)
    (rest : List Char) :
    heading? (path ++ ':' :: (numeral n ++ ' ' :: rest)) = some (path, some n) := by
  have hany : path.head?.any (!isBlank ·) = true := by
    obtain ⟨c, path, rfl⟩ := List.exists_cons_of_ne_nil hpath
    simpa using hhead
  have hdigits : (numeral n ++ ' ' :: rest).takeWhile Unicode.isDigit = numeral n := by
    rw [List.takeWhile_append_of_pos fun c hc => isDigit_of_isDigit (isDigit_of_mem_numeral hc),
      List.takeWhile_cons_of_neg (by decide), List.append_nil]
  simp only [heading?, Option.bind_eq_bind, Option.bind_eq_some_iff, Option.guard_eq_some',
    Prod.exists, cut?_singleton_eq_some_iff, exists_const, Option.pure_def, Option.some.injEq,
    Prod.mk.injEq]
  refine ⟨path, _, ⟨rfl, hcolon⟩, hany, ?_, ?_, rfl, ?_⟩
  · rw [hdigits]
    exact numeral_ne_nil n
  · rw [hdigits, List.drop_left]
    rfl
  · rw [hdigits, natOfNumeral?_numeral, if_pos hn]

/-- A heading starts with a path, and a path is not empty and starts with no blank. -/
theorem heading?_eq_none {c : Char} (h : isBlank c = true ∨ c = ':') (s : List Char) :
    heading? (c :: s) = none := by
  refine Option.eq_none_iff_forall_ne_some.2 fun a ha => ?_
  simp only [heading?, Option.bind_eq_bind, Option.bind_eq_some_iff, Option.guard_eq_some',
    Prod.exists, cut?_singleton_eq_some_iff, exists_const] at ha
  obtain ⟨path, rest, ⟨hs, hcolon⟩, hhead, -⟩ := ha
  cases path with
  | nil => cases hhead
  | cons d path =>
    obtain rfl := (List.cons.inj hs).1
    rcases h with hblank | rfl
    · simp [hblank] at hhead
    · exact hcolon List.mem_cons_self

theorem ofPairs_cons_of_some {first : List Char} {path : List Char} {n : Option Nat}
    (h : heading? first = some (path, n)) (detail : List Char) (rest : List (List Char)) :
    ofPairs (first :: detail :: rest) =
      { ofPairs rest with messages := ofPair path n detail :: (ofPairs rest).messages } := by
  rw [ofPairs.eq_def]
  simp only [h]

theorem ofPairs_cons_of_none {first : List Char} (h : heading? first = none)
    (rest : List (List Char)) :
    ofPairs (first :: rest) =
      { ofPairs rest with others := .ofList first :: (ofPairs rest).others } := by
  rw [ofPairs.eq_def]
  simp only [h]

/-! ## Problems -/

/-- A problem as `pydocstyle` writes it. -/
structure Paired where
  /-- The path. -/
  path : List Char
  /-- The line; zero for the whole file. -/
  line : Nat
  /-- What stands behind the line. -/
  context : List Char
  /-- The blanks before the code. -/
  indent : List Char
  /-- The code. -/
  code : List Char
  /-- What it says. -/
  text : List Char
  any_isBlank_head_path : path.head?.any isBlank = false := by decide
  colon_not_mem_path : ':' ∉ path := by decide
  line_lt : line < limit32 := by decide
  indent_ne_nil : indent ≠ [] := by decide
  allBlank_indent : allBlank indent = true := by decide
  code_ne_nil : code ≠ [] := by decide
  trim_code : trim code = code := by decide
  colon_not_mem_code : ':' ∉ code := by decide
  trim_text : trim text = text := by decide

namespace Paired

variable (p : Paired)

/-- The first line that is written. -/
def location : List Char := p.path ++ ':' :: (numeral p.line ++ ' ' :: p.context)

/-- The second line that is written. -/
def detail : List Char := p.indent ++ (p.code ++ ':' :: ' ' :: p.text)

/-- The lines that are written. -/
def lines : List (List Char) := [p.location, p.detail]

/-- The message that is meant. -/
def message : Message where
  path := some (Path.canonical (.ofList p.path))
  line := if p.line = 0 then none else some p.line
  code := some (.ofList p.code)
  text := .ofList p.text

variable {p}

/-- The end of the first line may be taken for that of a line, but not that of the second. -/
theorem dropReturn_location :
    dropReturn p.location = p.path ++ ':' :: (numeral p.line ++ ' ' :: dropReturn p.context) := by
  have hlast : (p.path ++ ':' :: numeral p.line ++ [' ']).getLast? ≠ some '\r' := by
    rw [List.getLast?_concat]
    decide
  have hlocation : p.location = p.path ++ ':' :: numeral p.line ++ [' '] ++ p.context := by
    simp [location]
  rw [hlocation, dropReturn_append hlast]
  simp

theorem dropReturn_detail : dropReturn p.detail = p.detail := by
  have hdetail : p.detail = (p.indent ++ (p.code ++ [':'])) ++ ' ' :: p.text := by
    simp [detail]
  rw [hdetail]
  exact dropReturn_of_getLast? (getLast?_append_cons_ne p.trim_text rfl (by decide) _)

theorem trim_detail : trim p.detail = p.code ++ ':' :: trimEnd (' ' :: p.text) := by
  obtain ⟨c, code, hcode⟩ := List.exists_cons_of_ne_nil p.code_ne_nil
  have hc : isBlank c = false := (trim_eq_self_iff.1 p.trim_code).1 c (by simp [hcode])
  have hstart : trimStart p.detail = (p.code ++ [':']) ++ ' ' :: p.text := by
    rw [detail, trimStart, List.dropWhile_append_of_pos (List.all_eq_true.1 p.allBlank_indent),
      hcode, List.cons_append, List.dropWhile_cons_of_neg (by simp [hc])]
    simp
  have hcolon : ∀ d ∈ (p.code ++ [':']).getLast?, isBlank d = false := by
    intro d hd
    rw [List.getLast?_concat] at hd
    cases hd
    decide
  rw [trim, hstart, trimEnd_append hcolon, List.append_assoc, List.singleton_append]

theorem trim_trimEnd_text : trim (trimEnd (' ' :: p.text)) = p.text := by
  by_cases htext : p.text = []
  · rw [htext]
    decide
  · have hlast : ∀ c ∈ (' ' :: p.text).getLast?, isBlank c = false := by
      rw [← List.singleton_append, List.getLast?_append_of_ne_nil _ htext]
      exact (trim_eq_self_iff.1 p.trim_text).2
    rw [trimEnd_of_getLast? hlast]
    exact (trim_cons_of_isBlank rfl _).trans p.trim_text

theorem ofPair_detail : ofPair p.path (some p.line) p.detail = p.message := by
  have hcode : String.ofList p.code ≠ "" := by simp [p.code_ne_nil]
  rw [ofPair, trim_detail, cut?_singleton p.colon_not_mem_code]
  simp only [trim_trimEnd_text, p.trim_code, Message.withCode, Message.about, positive?_some,
    message, hcode, if_false]

/-- The lines of a problem give its message. -/
theorem ofPairs_lines (hpath : p.path ≠ []) (rest : List (List Char)) :
    ofPairs (p.lines.map dropReturn ++ rest) =
      { ofPairs rest with messages := p.message :: (ofPairs rest).messages } := by
  have hheading := heading?_eq_some hpath p.any_isBlank_head_path p.colon_not_mem_path p.line_lt
    (dropReturn p.context)
  rw [lines, List.map_cons, List.map_singleton, dropReturn_location, dropReturn_detail,
    List.cons_append, List.singleton_append, ofPairs_cons_of_some hheading, ofPair_detail]

/-- Without a path, the lines of a problem are left over. -/
theorem others_ofPairs_lines (hpath : p.path = []) (rest : List (List Char)) :
    (ofPairs (p.lines.map dropReturn ++ rest)).others ≠ [] := by
  rw [lines, List.map_cons, dropReturn_location, hpath, List.nil_append, List.cons_append,
    ofPairs_cons_of_none (heading?_eq_none (.inr rfl) _)]
  exact List.cons_ne_nil _ _

theorem ofPairs_flatMap_lines_iff {ps : List Paired} :
    ofPairs (ps.flatMap fun p => p.lines.map dropReturn) = { messages := ps.map message } ↔
      ∀ p ∈ ps, p.path ≠ [] := by
  induction ps with
  | nil => exact iff_of_true rfl nofun
  | cons p ps ih =>
    rw [List.flatMap_cons, List.forall_mem_cons, ← ih]
    by_cases hpath : p.path = []
    · refine iff_of_false (fun h => ?_) fun h => h.1 hpath
      exact others_ofPairs_lines hpath _ (congrArg Output.others h)
    · rw [ofPairs_lines hpath, and_iff_right hpath]
      cases ofPairs (ps.flatMap fun p => p.lines.map dropReturn)
      simp

/-- Whatever blank lines and warnings stand before, between and behind the lines of problems,
    problems are read as they were written, each as one message and in their order, and no line is
    left over, if and only if each of them has a path. -/
theorem ofPairedLines_eq_iff {ps : List Paired} {es : List (Entry (List Char))}
    (hes : Entry.problems es = ps.flatMap lines)
    (hline : ∀ p ∈ ps, ∀ line ∈ p.lines, '\n' ∉ line ∧ ¬"WARNING: ".toList <:+: line)
    (hother : ∀ line, .other line ∈ es → '\n' ∉ line ∧ IsIdle line) :
    ofPairedLines (Entry.text id es) = { messages := ps.map message, others := [] } ↔
      ∀ p ∈ ps, p.path ≠ [] := by
  have hspeaks : ∀ line, .problem line ∈ es → '\n' ∉ line ∧ ¬IsIdle line := by
    intro line hmem
    have hproblem : line ∈ Entry.problems es := List.mem_filterMap.2 ⟨_, hmem, rfl⟩
    rw [hes] at hproblem
    obtain ⟨p, hp, hline'⟩ := List.mem_flatMap.1 hproblem
    obtain ⟨hnewline, hwarning⟩ := hline p hp line hline'
    refine ⟨hnewline, fun hidle => hidle.elim (fun hblank => ?_) hwarning⟩
    -- Both lines have a colon.
    have hcolon : ':' ∈ line := by
      rw [lines, List.mem_cons, List.mem_singleton] at hline'
      rcases hline' with rfl | rfl
      · simp [location]
      · simp [detail]
    exact absurd (List.all_eq_true.1 hblank ':' hcolon) (by decide)
  rw [ofPairedLines, lines_speaking hspeaks hother, hes, List.map_flatMap]
  exact ofPairs_flatMap_lines_iff

/-- A problem whose text looks like a location. -/
def lookalike : Paired where
  path := "./pkg\\a b.py".toList
  line := 12
  context := "in public function `run`:\r".toList
  indent := "        ".toList
  code := "D103".toList
  text := "b.py:3 at: WARNING".toList

/-- A problem of a whole file, without a text. -/
def bare : Paired where
  path := "b.py".toList
  line := 0
  context := []
  indent := "\t".toList
  code := "D 1".toList
  text := []
  line_lt := limit32_pos

/-- They are read among blank lines and warnings. -/
theorem ofPairedLines_lookalike :
    ofPairedLines (Entry.text id
        [.other "WARNING: b.py:1 in module".toList, .problem lookalike.location,
          .other " \r".toList, .other "b.py:3 WARNING: no code".toList,
          .problem lookalike.detail, .problem bare.location, .other [], .problem bare.detail,
          .other ['\t']]) =
      { messages := [lookalike.message, bare.message], others := [] } ∧
    [lookalike.message, bare.message] =
      [{ path := some "pkg/a b.py", line := some 12, code := some "D103"
         text := "b.py:3 at: WARNING" },
        { path := some "b.py", line := none, code := some "D 1", text := "" }] := by
  refine ⟨(@ofPairedLines_eq_iff [lookalike, bare] _ rfl ?_ ?_).2 ?_, by decide⟩
  · simp only [← contains_iff]
    decide
  · intro line hline
    simp only [List.mem_cons, Entry.other.injEq, List.not_mem_nil, or_false, reduceCtorEq,
      false_or] at hline
    rcases hline with rfl | rfl | rfl | rfl | rfl <;> exact ⟨by decide, by decide⟩
  · decide

/-- A problem without a path. -/
def pathless : Paired where
  path := "".toList
  line := 2
  context := "at module level:".toList
  indent := "        ".toList
  code := "D100".toList
  text := "Missing docstring in public module".toList

/-- Without a path, the lines of a problem are left over; and the message of a problem in line
    zero has no line. -/
theorem ofPairedLines_pathless :
    ofPairedLines (Entry.text id (pathless.lines.map .problem)) =
      { messages := [], others := pathless.lines.map String.ofList } ∧
    (ofPairedLines (Entry.text id (bare.lines.map .problem))).messages.map Message.line =
      [none] := by
  decide +kernel

end Paired

end Lintscope.Output

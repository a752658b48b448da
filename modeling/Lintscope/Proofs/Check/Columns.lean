import Lintscope.Proofs.Check.Whitespace
import Mathlib.Data.List.Infix

/-!
# Columns of defects

The column of a message tells where in its line the defect stands (`Defect.StandsAt`): at the
first tab or carriage return, behind the last character if a newline is missing, at the first of
the blanks at the end. It is the number of the character there, except for these blanks: they are
looked for in the body of the line, and what is counted leaves out the carriage returns before
them (`Defect.leftOut`). So a column is right if and only if nothing is left out
(`placed_of_mem_ofText`), and a carriage return inside a line sends the reader to a place before
the blanks (`not_standsAt_innerReturn`). Lines and columns are counted without a bound; they fit 32
bits in a text whose lines are so few and so short.
-/

namespace Lintscope.Check.Whitespace

open Text

namespace Defect

/-- What stands before and after the place of a defect in its line. -/
def Parts (before after : List Char) : Defect → Prop
  | trailingEmptyLine => False
  | missingNewline => after = []
  | tab => after.head? = some '\t' ∧ '\t' ∉ before
  | carriageReturn => after.head? = some '\r' ∧ '\r' ∉ before
  | trailingBlanks => (∃ c ∈ after.head?, c ≠ '\n') ∧ (∀ c ∈ after, isBlank c = true) ∧
      ∀ c ∈ before.getLast?, isBlank c = true → c = '\r'

instance (before after : List Char) : DecidablePred (Parts before after)
  | trailingEmptyLine => inferInstanceAs (Decidable False)
  | missingNewline => inferInstanceAs (Decidable (after = []))
  | tab => inferInstanceAs (Decidable (_ ∧ '\t' ∉ before))
  | carriageReturn => inferInstanceAs (Decidable (_ ∧ '\r' ∉ before))
  | trailingBlanks =>
    decidable_of_iff (after.head?.any (· ≠ '\n') = true ∧ after.all isBlank = true ∧
        before.getLast?.all (fun c => !isBlank c || c = '\r') = true) <| by
      simp [Parts, Option.any_eq_true, Option.all_eq_true, imp_iff_not_or]

/-- A defect stands at a column of a line. Columns count characters, from one. -/
def StandsAt (line : List Char) (column : Nat) (d : Defect) : Prop :=
  0 < column ∧ column ≤ line.length + 1 ∧
    d.Parts (line.take (column - 1)) (line.drop (column - 1))

instance (line : List Char) (column : Nat) : DecidablePred (StandsAt line column) :=
  fun _ => inferInstanceAs (Decidable (_ ∧ _ ∧ _))

/-- The carriage returns of a line that the column of a defect does not count. -/
def leftOut (line : List Char) : Defect → Nat
  | trailingBlanks => (trimEnd line).count '\r'
  | _ => 0

/-- How the column that is told of a defect is related to its place. -/
structure Placed (line : List Char) (d : Defect) (column : Option Nat) : Prop where
  eq_none_iff : column = none ↔ d = trailingEmptyLine
  standsAt_add : ∀ n ∈ column, d.StandsAt line (n + d.leftOut line)
  standsAt_iff : ∀ n ∈ column, (d.StandsAt line n ↔ d.leftOut line = 0)

theorem placed_some {line : List Char} {d : Defect} {n : Nat} (hd : d ≠ trailingEmptyLine)
    (hleft : d.leftOut line = 0) (h : d.StandsAt line n) : d.Placed line (some n) where
  eq_none_iff := iff_of_false nofun hd
  standsAt_add := by
    rintro _ ⟨⟩
    rwa [hleft]
  standsAt_iff := by
    rintro _ ⟨⟩
    exact iff_of_true h hleft

theorem standsAt_append_iff {before after : List Char} {d : Defect} :
    d.StandsAt (before ++ after) (before.length + 1) ↔ d.Parts before after := by
  simp [StandsAt]

end Defect

/-! ## Places in a line -/

section

variable {line : List Char}

theorem before?_eq_some_iff {c : Char} {n : Nat} :
    before? c line = some n ↔
      ∃ before after, line = before ++ c :: after ∧ before.length = n ∧ c ∉ before := by
  rw [before?, List.findIdx?_eq_some_iff_getElem]
  constructor
  · rintro ⟨hn, hc, hbefore⟩
    refine ⟨line.take n, line.drop (n + 1), ?_, List.length_take_of_le (Nat.le_of_lt hn), ?_⟩
    · rw [← of_decide_eq_true hc, List.getElem_cons_drop, List.take_append_drop]
    · intro hmem
      obtain ⟨i, hi, rfl⟩ := List.mem_iff_getElem.1 hmem
      rw [List.length_take] at hi
      exact hbefore i (by omega) (by simp)
  · rintro ⟨before, after, rfl, rfl, hbefore⟩
    refine ⟨by simp, by simp, fun i hi => ?_⟩
    simp only [List.getElem_append_left hi, decide_eq_true_eq]
    rintro rfl
    exact hbefore (List.getElem_mem hi)

section

variable (h : '\n' ∉ line.dropLast)
include h

theorem newline_not_mem_trimEnd : '\n' ∉ trimEnd line := by
  rcases newline_not_mem_or_exists_concat h with hno | ⟨s, hs, rfl⟩
  · exact fun hmem => hno ((isPrefix_trimEnd line).subset hmem)
  · rw [trimEnd_concat_of_isBlank (by decide)]
    exact fun hmem => hs ((isPrefix_trimEnd s).subset hmem)

/-- What is kept of the body is what stays of the trimmed line, without its carriage returns. -/
theorem trimEnd_body :
    trimEnd (body line) = (trimEnd line).filter fun c => c ≠ '\n' ∧ c ≠ '\r' := by
  rw [body_eq h]
  refine trimEnd_filter (fun c hc => ?_) line
  have hnewline : c ≠ '\n' := by
    rintro rfl
    cases hc
  have hreturn : c ≠ '\r' := by
    rintro rfl
    cases hc
  simp [hnewline, hreturn]

/-- So it is shorter by their number. -/
theorem length_trimEnd_body :
    (trimEnd (body line)).length + (trimEnd line).count '\r' = (trimEnd line).length := by
  have hreturns : (trimEnd line).count '\r' =
      ((trimEnd line).filter fun c => !decide (c ≠ '\n' ∧ c ≠ '\r')).length := by
    rw [List.count_eq_length_filter]
    congr 1
    refine List.filter_congr fun c hc => ?_
    have hne : c ≠ '\n' := fun heq => newline_not_mem_trimEnd h (heq ▸ hc)
    simp [hne, beq_eq_decide]
  rw [trimEnd_body h, hreturns, ← List.length_eq_length_filter_add]

/-- Blanks at the end of the body are among what is trimmed off the line. -/
theorem exists_mem_of_lt {t : List Char} (ht : line = trimEnd line ++ t)
    (hlt : (trimEnd (body line)).length < (body line).length) :
    ∃ c ∈ t, c ≠ '\n' ∧ c ≠ '\r' := by
  have hbody : body line =
      trimEnd (body line) ++ t.filter fun c => c ≠ '\n' ∧ c ≠ '\r' := by
    conv_lhs => rw [body_eq h, ht, List.filter_append]
    rw [trimEnd_body h]
  have hlength := congrArg List.length hbody
  rw [List.length_append] at hlength
  obtain ⟨c, hc⟩ := List.exists_mem_of_length_pos
    (show 0 < (t.filter fun c => c ≠ '\n' ∧ c ≠ '\r').length by omega)
  obtain ⟨hmem, hkept⟩ := List.mem_filter.1 hc
  exact ⟨c, hmem, of_decide_eq_true hkept⟩

/-- The blanks at the end of a line begin behind what stays of it when it is trimmed. -/
theorem standsAt_trimEnd (hlt : (trimEnd (body line)).length < (body line).length) :
    Defect.trailingBlanks.StandsAt line ((trimEnd line).length + 1) := by
  obtain ⟨t, ht, hblank⟩ := exists_trimEnd_append line
  obtain ⟨d, hd, hnewline, -⟩ := exists_mem_of_lt h ht hlt
  have hparts : Defect.trailingBlanks.Parts (trimEnd line) t := by
    refine ⟨?_, hblank, fun c hc hc' => ?_⟩
    · cases t with
      | nil => cases hd
      | cons c t =>
        refine ⟨c, rfl, ?_⟩
        rintro rfl
        -- Nothing stands behind a newline, and so not `d`.
        have ht' : t ≠ [] := List.ne_nil_of_mem (List.mem_of_ne_of_mem hnewline hd)
        rw [ht, List.dropLast_append_of_ne_nil (List.cons_ne_nil _ t),
          List.dropLast_cons_of_ne_nil ht'] at h
        exact h (by simp)
    · rw [isBlank_of_mem_getLast?_trimEnd line c hc] at hc'
      cases hc'
  have hstands := Defect.standsAt_append_iff.2 hparts
  rwa [← ht] at hstands

end

/-- Before the end of what stays, not all that follows is blank. -/
theorem not_standsAt_of_lt {n : Nat} (hn : n < (trimEnd line).length) :
    ¬Defect.trailingBlanks.StandsAt line (n + 1) := by
  rintro ⟨-, -, -, hblank, -⟩
  have hne : trimEnd line ≠ [] := List.ne_nil_of_length_pos (Nat.zero_lt_of_lt hn)
  obtain ⟨c, hc⟩ := Option.ne_none_iff_exists'.1 (mt List.getLast?_eq_none_iff.1 hne)
  have hmem : c ∈ (trimEnd line).drop n := by
    refine List.mem_of_getLast? ?_
    rw [List.getLast?_drop, if_neg (Nat.not_le.2 hn), hc]
  have hkept := isBlank_of_mem_getLast?_trimEnd line c hc
  rw [hblank c (((isPrefix_trimEnd line).drop n).subset hmem)] at hkept
  cases hkept

theorem standsAt_of_before? {c : Char} {n : Nat} {d : Defect} (hn : before? c line = some n)
    (hd : ∀ before after, d.Parts before after ↔ after.head? = some c ∧ c ∉ before) :
    d.StandsAt line (n + 1) := by
  obtain ⟨before, after, rfl, rfl, hbefore⟩ := before?_eq_some_iff.1 hn
  exact Defect.standsAt_append_iff.2 ((hd _ _).2 ⟨rfl, hbefore⟩)

theorem placed_trailingBlanks (h : '\n' ∉ line.dropLast)
    (hlt : (trimEnd (body line)).length < (body line).length) :
    Defect.trailingBlanks.Placed line (some ((trimEnd (body line)).length + 1)) := by
  have hlength : (trimEnd (body line)).length + Defect.trailingBlanks.leftOut line =
      (trimEnd line).length := length_trimEnd_body h
  have hstands := standsAt_trimEnd h hlt
  refine ⟨iff_of_false nofun nofun, ?_, ?_⟩
  · rintro _ ⟨⟩
    rwa [Nat.add_right_comm, hlength]
  · rintro _ ⟨⟩
    constructor
    · intro hcolumn
      by_contra hne
      exact not_standsAt_of_lt (by omega) hcolumn
    · intro hleft
      rw [hleft, Nat.add_zero] at hlength
      rwa [hlength]

/-- Every defect of a line is told with the characters before its place, less those that are left
    out. -/
theorem placed_of_mem_defects (h : '\n' ∉ line.dropLast) {number : Nat} {isLast : Bool}
    {e : Defect × Option Nat} (he : e ∈ defects number isLast line) :
    e.1.Placed line (e.2.map (· + 1)) := by
  simp only [defects, List.mem_append, List.mem_ite_nil_right, List.mem_singleton,
    Option.mem_toList, Option.map_eq_some_iff] at he
  rcases he with (((⟨-, rfl⟩ | ⟨-, rfl⟩) | ⟨n, hn, rfl⟩) | ⟨n, hn, rfl⟩) | ⟨hlt, rfl⟩
  · exact ⟨iff_of_true rfl rfl, by simp, by simp⟩
  · have hend : Defect.missingNewline.StandsAt (line ++ []) (line.length + 1) :=
      Defect.standsAt_append_iff.2 rfl
    rw [List.append_nil] at hend
    exact Defect.placed_some (by simp) rfl hend
  · exact Defect.placed_some (by simp) rfl (standsAt_of_before? hn fun _ _ => Iff.rfl)
  · exact Defect.placed_some (by simp) rfl (standsAt_of_before? hn fun _ _ => Iff.rfl)
  · exact placed_trailingBlanks h hlt

end

/-- Let the number of the lines of a text, and that of the places of each of them, fit 32 bits.
    Then every message is about a defect of a line. It has a column unless the defect is a trailing
    empty line, and the defect stands there if and only if the column leaves out no carriage
    return; otherwise it stands as many characters further on as are left out. The line and the
    column of the message fit 32 bits too. -/
theorem placed_of_mem_ofText {path content : String}
    (hlines : (linesWithEnds content.toList).length < limit32)
    (hplaces : ∀ line ∈ linesWithEnds content.toList, line.length + 1 < limit32)
    {m : Message} (hm : m ∈ ofText path content) :
    (∃ number line, ∃ d : Defect,
      (linesWithEnds content.toList)[number]? = some line ∧ d.Told number m ∧
        d.Placed line m.column) ∧
    (∀ n ∈ m.line, n < limit32) ∧ ∀ n ∈ m.column, n < limit32 := by
  obtain ⟨i, line, hline, e, he, rfl⟩ := exists_of_mem_ofLines hm
  rw [Nat.zero_add] at he ⊢
  have hmem := List.mem_of_getElem? hline
  have hplaced := placed_of_mem_defects (newline_not_mem_dropLast line hmem) he
  have hcolumn : (message path i e).column = e.2.map (· + 1) := by
    cases hn : e.2 <;> simp [message, Message.withColumn, Message.positive?, hn]
  rw [hcolumn]
  refine ⟨⟨i, line, e.1, hline, told_message_iff.2 rfl, hplaced⟩, ?_, fun n hn => ?_⟩
  · rintro _ ⟨⟩
    obtain ⟨hi, -⟩ := List.getElem?_eq_some_iff.1 hline
    exact Nat.lt_of_le_of_lt hi hlines
  · -- The place of the defect is in its line or right behind it, and the column not behind the place.
    have hle : n + e.1.leftOut line ≤ line.length + 1 := (hplaced.standsAt_add n hn).2.1
    exact Nat.lt_of_le_of_lt (Nat.le_trans (Nat.le_add_right ..) hle) (hplaces line hmem)

/-- Characters are counted, not octets, and a carriage return at the end of the line does not
    stand before its blanks. -/
theorem placed_of_mem_ofText_accents :
    let m : Message :=
      { path := some "a.txt", line := some 1, column := some 4, text := "trailing whitespace" }
    (linesWithEnds "é\tü \r\n".toList).length < limit32 ∧
      (∀ line ∈ linesWithEnds "é\tü \r\n".toList, line.length + 1 < limit32) ∧
      m ∈ ofText "a.txt" "é\tü \r\n" ∧ ∃ number line, ∃ d : Defect,
        (linesWithEnds "é\tü \r\n".toList)[number]? = some line ∧ d.Told number m ∧
          d.Placed line m.column := by
  intro m
  have hlines : (linesWithEnds "é\tü \r\n".toList).length < limit32 := by decide
  have hplaces : ∀ line ∈ linesWithEnds "é\tü \r\n".toList, line.length + 1 < limit32 := by decide
  have hm : m ∈ ofText "a.txt" "é\tü \r\n" := by decide +kernel
  exact ⟨hlines, hplaces, hm, (placed_of_mem_ofText hlines hplaces hm).1⟩

/-- The blanks at the end of a line with a carriage return inside are told to stand where its last
    letter does. -/
theorem not_standsAt_innerReturn :
    ofText "a.txt" "a\rb  \n" =
      [{ path := some "a.txt", line := some 1, column := some 2, text := "carriage return" },
       { path := some "a.txt", line := some 1, column := some 3, text := "trailing whitespace" }] ∧
    ¬Defect.trailingBlanks.StandsAt "a\rb  \n".toList 3 ∧
    Defect.trailingBlanks.StandsAt "a\rb  \n".toList 4 := by
  refine ⟨?_, ?_, ?_⟩ <;> decide +kernel

end Lintscope.Check.Whitespace

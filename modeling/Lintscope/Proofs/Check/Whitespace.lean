import Lintscope.Proofs.Check.Remarks
import Lintscope.Proofs.Text.Cut
import Lintscope.Proofs.Text.Lines

/-!
# What the check of blanks finds

A defect is a property of a line, of its number and of the number of lines
(`Defect.Spoils`). The check tells every defect of every line of a text once, in
the order of the lines, and nothing else (`tells_ofText`); so it has nothing to
say exactly when no line has a defect.
-/

namespace Lintscope.Check.Whitespace

open Text

namespace Defect

/-- All defects, in the order in which they are told. -/
def all : List Defect := [trailingEmptyLine, missingNewline, tab, carriageReturn, trailingBlanks]

/-- A line has a defect, where the lines of the text are so many and the line
    has a number, counted from zero. -/
def Spoils (number count : Nat) (line : List Char) : Defect → Prop
  | trailingEmptyLine => 0 < number ∧ number + 1 = count ∧ ∀ c ∈ line, isBlank c = true
  | missingNewline => number + 1 = count ∧ '\n' ∉ line
  | tab => '\t' ∈ line
  | carriageReturn => '\r' ∈ line
  | trailingBlanks => ∃ c ∈ (line.filter fun c => c ≠ '\n' ∧ c ≠ '\r').getLast?, isBlank c = true

instance (number count : Nat) (line : List Char) : DecidablePred (Spoils number count line)
  | trailingEmptyLine => inferInstanceAs (Decidable (_ ∧ _ ∧ ∀ c ∈ line, isBlank c = true))
  | missingNewline => inferInstanceAs (Decidable (_ ∧ '\n' ∉ line))
  | tab => inferInstanceAs (Decidable ('\t' ∈ line))
  | carriageReturn => inferInstanceAs (Decidable ('\r' ∈ line))
  | trailingBlanks =>
    inferInstanceAs (Decidable (∃ c ∈ (line.filter _).getLast?, isBlank c = true))

/-- A message tells the defect of the line with a number, counted from zero. -/
def Told (d : Defect) (number : Nat) (m : Message) : Prop :=
  m.line = some (number + 1) ∧ m.text = d.text

instance (d : Defect) (number : Nat) : DecidablePred (d.Told number) :=
  fun _ => inferInstanceAs (Decidable (_ ∧ _))

theorem mem_all (d : Defect) : d ∈ all := by cases d <;> decide

theorem nodup_all : all.Nodup := by decide

theorem text_injective : Function.Injective text := by
  intro d e h
  cases d <;> cases e <;> first | rfl | exact absurd h (by decide)

end Defect

/-! ## The defects of one line -/

section Line

variable {line : List Char}

theorem endsWith_newline_iff (h : '\n' ∉ line.dropLast) :
    endsWith ['\n'] line = true ↔ '\n' ∈ line := by
  rw [endsWith_singleton]
  rcases newline_not_mem_or_exists_concat h with hno | ⟨s, -, rfl⟩
  · exact ⟨List.mem_of_getLast?, fun hmem => absurd hmem hno⟩
  · simp

/-- The body of a line has all its characters but the newline and the carriage
    returns. -/
theorem body_eq (h : '\n' ∉ line.dropLast) :
    body line = line.filter fun c => c ≠ '\n' ∧ c ≠ '\r' := by
  have hfilter : ∀ s : List Char, '\n' ∉ s →
      s.filter (· ≠ '\r') = s.filter fun c => c ≠ '\n' ∧ c ≠ '\r' := by
    intro s hs
    refine List.filter_congr fun c hc => ?_
    have hne : c ≠ '\n' := fun heq => hs (heq ▸ hc)
    simp [hne]
  rcases newline_not_mem_or_exists_concat h with hno | ⟨s, hs, rfl⟩
  · have hcut : dropTail? ['\n'] line = none := by
      rw [Option.eq_none_iff_forall_ne_some]
      rintro s hs
      exact hno (by rw [dropTail?_eq_some_iff.1 hs]; simp)
    rw [body, hcut, Option.getD_none, hfilter line hno]
  · rw [body, dropTail?_eq_some_iff.2 rfl, Option.getD_some, hfilter s hs, List.filter_append]
    simp

theorem length_trimEnd_lt_iff {s : List Char} :
    (trimEnd s).length < s.length ↔ ∃ c ∈ s.getLast?, isBlank c = true := by
  constructor
  · intro hlt
    by_contra hnone
    push Not at hnone
    rw [trimEnd_of_getLast? fun c hc => Bool.eq_false_iff.2 (hnone c hc)] at hlt
    exact Nat.lt_irrefl _ hlt
  · rintro ⟨c, hc, hblank⟩
    exact length_trimEnd_lt (by rw [hc]; exact hblank)

section Told

variable {number count : Nat} {d : Defect}

theorem map_fst_ite {p : Prop} [Decidable p] (h : p ↔ d.Spoils number count line)
    (column : Option Nat) :
    (if p then [(d, column)] else []).map Prod.fst = [d].filter (·.Spoils number count line) := by
  by_cases hp : p
  · simp [hp, h.1 hp]
  · simp [hp, mt h.2 hp]

theorem map_fst_before? {c : Char} (h : c ∈ line ↔ d.Spoils number count line) :
    (((before? c line).map fun n => (d, some n)).toList).map Prod.fst =
      [d].filter (·.Spoils number count line) := by
  cases hbefore : before? c line with
  | none =>
    have hno : c ∉ line := by
      rw [before?, List.findIdx?_eq_none_iff] at hbefore
      exact fun hmem => by simpa using hbefore c hmem
    simp [mt h.2 hno]
  | some n =>
    have hmem : c ∈ line := by
      rw [before?, List.findIdx?_eq_some_iff_getElem] at hbefore
      obtain ⟨hn, hc, -⟩ := hbefore
      exact of_decide_eq_true hc ▸ List.getElem_mem hn
    simp [h.1 hmem]

end Told

/-- Of a line its defects are told, each once. -/
theorem map_fst_defects (h : '\n' ∉ line.dropLast) (number count : Nat) :
    (defects number (decide (number + 1 = count)) line).map Prod.fst =
      Defect.all.filter (·.Spoils number count line) := by
  have hempty : (decide (number + 1 = count) = true ∧ 0 < number ∧ allBlank line = true) ↔
      Defect.trailingEmptyLine.Spoils number count line := by
    simp only [decide_eq_true_eq, allBlank, List.all_eq_true, Defect.Spoils]
    exact and_left_comm
  have hnewline : (decide (number + 1 = count) = true ∧ ¬endsWith ['\n'] line = true) ↔
      Defect.missingNewline.Spoils number count line := by
    rw [decide_eq_true_eq, endsWith_newline_iff h, Defect.Spoils]
  have hblanks : (trimEnd (body line)).length < (body line).length ↔
      Defect.trailingBlanks.Spoils number count line := by
    rw [length_trimEnd_lt_iff, body_eq h, Defect.Spoils]
  have htab : '\t' ∈ line ↔ Defect.tab.Spoils number count line := Iff.rfl
  have hreturn : '\r' ∈ line ↔ Defect.carriageReturn.Spoils number count line := Iff.rfl
  simp only [defects, List.map_append, map_fst_ite hempty, map_fst_ite hnewline,
    map_fst_before? htab, map_fst_before? hreturn, map_fst_ite hblanks, ← List.filter_append]
  rfl

end Line

/-! ## The messages about all lines -/

section

variable {path : String} {number i : Nat} {line : List Char} {lines : List (List Char)}
  {m : Message}

theorem isEmpty_eq_decide (line : List Char) (rest : List (List Char)) :
    rest.isEmpty = decide (0 + 1 = (line :: rest).length) := by
  cases rest <;> simp

/-- Every message is about a defect of one of the lines. -/
theorem exists_of_mem_ofLines (h : m ∈ ofLines path number lines) :
    ∃ i line, lines[i]? = some line ∧
      ∃ d ∈ defects (number + i) (decide (i + 1 = lines.length)) line,
        m = message path (number + i) d := by
  induction lines generalizing number with
  | nil => cases h
  | cons line rest ih =>
    rw [ofLines, List.mem_append] at h
    rcases h with hhead | hrest
    · obtain ⟨d, hd, rfl⟩ := List.mem_map.1 hhead
      exact ⟨0, line, rfl, d, isEmpty_eq_decide line rest ▸ hd, rfl⟩
    · obtain ⟨i, l, hl, d, hd, rfl⟩ := ih hrest
      refine ⟨i + 1, l, hl, d, ?_, ?_⟩
      · simpa [Nat.add_right_comm, Nat.add_assoc] using hd
      · rw [Nat.add_right_comm, Nat.add_assoc]

theorem line_of_mem_ofLines (h : m ∈ ofLines path number lines) :
    ∃ i, m.line = some (number + i + 1) := by
  obtain ⟨i, -, -, d, -, rfl⟩ := exists_of_mem_ofLines h
  exact ⟨i, rfl⟩

/-- What is asked of the messages about one line depends on that line alone. -/
theorem countP_ofLines {p : Message → Bool} (hi : lines[i]? = some line)
    (hp : ∀ m, p m = true → m.line = some (number + i + 1)) :
    (ofLines path number lines).countP p =
      (defects (number + i) (decide (i + 1 = lines.length)) line).countP
        (p ∘ message path (number + i)) := by
  induction lines generalizing number i with
  | nil => cases hi
  | cons first rest ih =>
    rw [ofLines, List.countP_append]
    cases i with
    | zero =>
      obtain rfl : first = line := Option.some.inj hi
      have hlater : (ofLines path (number + 1) rest).countP p = 0 := by
        refine List.countP_eq_zero.2 fun m hm htold => ?_
        obtain ⟨j, hj⟩ := line_of_mem_ofLines hm
        rw [hp m htold, Option.some.injEq] at hj
        omega
      rw [hlater, isEmpty_eq_decide first rest, List.countP_map]
      rfl
    | succ i =>
      have hfirst :
          ((defects number rest.isEmpty first).map (message path number)).countP p = 0 := by
        refine List.countP_eq_zero.2 fun m hm htold => ?_
        obtain ⟨d, -, rfl⟩ := List.mem_map.1 hm
        have hline := hp _ htold
        rw [message, Message.withColumn, Message.about, Message.positive?] at hline
        simp at hline
      rw [hfirst, Nat.zero_add, ih hi]
      · simp [Nat.add_right_comm, Nat.add_assoc]
      · intro m hm
        rw [hp m hm]
        congr 1
        omega

theorem pairwise_ofLines (path : String) (number : Nat) (lines : List (List Char)) :
    (ofLines path number lines).Pairwise fun m m' => ∀ a ∈ m.line, ∀ b ∈ m'.line, a ≤ b := by
  induction lines generalizing number with
  | nil => exact List.Pairwise.nil
  | cons line rest ih =>
    have hfirst : ∀ m ∈ (defects number rest.isEmpty line).map (message path number),
        m.line = some (number + 1) := by
      intro m hm
      obtain ⟨d, -, rfl⟩ := List.mem_map.1 hm
      rfl
    rw [ofLines, List.pairwise_append]
    refine ⟨List.pairwise_of_forall_mem_list fun m hm m' hm' a ha b hb => ?_, ih (number + 1),
      fun m hm m' hm' a ha b hb => ?_⟩
    · rw [hfirst m hm, Option.mem_some_iff] at ha
      rw [hfirst m' hm', Option.mem_some_iff] at hb
      omega
    · obtain ⟨i, hi⟩ := line_of_mem_ofLines hm'
      rw [hfirst m hm, Option.mem_some_iff] at ha
      rw [hi, Option.mem_some_iff] at hb
      omega

end

/-- The messages tell the defects of the lines of a file: all are about the
    file and tell a defect that a line has, every defect of every line is told
    once, and the lines come in their order. -/
structure Tells (path : String) (lines : List (List Char)) (ms : List Message) : Prop where
  sound : ∀ m ∈ ms, m.path = some (Path.canonical path) ∧ ∃ number line, ∃ d : Defect,
    lines[number]? = some line ∧ d.Spoils number lines.length line ∧ d.Told number m
  once : ∀ number line, lines[number]? = some line → ∀ d : Defect,
    ms.countP (d.Told number) = if d.Spoils number lines.length line then 1 else 0
  ordered : ms.Pairwise fun m m' => ∀ a ∈ m.line, ∀ b ∈ m'.line, a ≤ b

/-- Nothing is told of the lines exactly when none has a defect. -/
theorem Tells.eq_nil_iff {path : String} {lines : List (List Char)} {ms : List Message}
    (h : Tells path lines ms) :
    ms = [] ↔ ∀ number line, lines[number]? = some line →
      ∀ d : Defect, ¬d.Spoils number lines.length line := by
  constructor
  · rintro rfl number line hline d hd
    have honce := h.once number line hline d
    rw [if_pos hd] at honce
    cases honce
  · intro hclean
    refine List.eq_nil_iff_forall_not_mem.2 fun m hm => ?_
    obtain ⟨-, number, line, d, hline, hd, -⟩ := h.sound m hm
    exact hclean number line hline d hd

theorem told_message_iff {path : String} {number : Nat} {d : Defect} {e : Defect × Option Nat} :
    d.Told number (message path number e) ↔ e.1 = d :=
  ⟨fun h => Defect.text_injective h.2, fun h => ⟨rfl, congrArg Defect.text h⟩⟩

theorem tells_ofLines {path : String} {lines : List (List Char)}
    (h : ∀ line ∈ lines, '\n' ∉ line.dropLast) : Tells path lines (ofLines path 0 lines) where
  sound := by
    intro m hm
    obtain ⟨i, line, hline, e, he, rfl⟩ := exists_of_mem_ofLines hm
    rw [Nat.zero_add] at he ⊢
    have hmem : e.1 ∈ (defects i (decide (i + 1 = lines.length)) line).map Prod.fst :=
      List.mem_map_of_mem he
    rw [map_fst_defects (h line (List.mem_of_getElem? hline)), List.mem_filter] at hmem
    exact ⟨rfl, i, line, e.1, hline, of_decide_eq_true hmem.2, told_message_iff.2 rfl⟩
  once := by
    intro number line hline d
    have htold : (fun m => decide (d.Told number m)) ∘ message path number =
        (fun e => e == d) ∘ Prod.fst := by
      funext e
      exact decide_eq_decide.2 told_message_iff
    have hnodup : (Defect.all.filter (·.Spoils number lines.length line)).Nodup :=
      Defect.nodup_all.filter _
    have hmem : d ∈ Defect.all.filter (·.Spoils number lines.length line) ↔
        d.Spoils number lines.length line := by
      simp [Defect.mem_all]
    rw [countP_ofLines hline]
    · rw [Nat.zero_add, htold, ← List.countP_map,
        map_fst_defects (h line (List.mem_of_getElem? hline)), ← List.count, hnodup.count]
      simp only [hmem]
    · intro m hm
      rw [Nat.zero_add]
      exact (of_decide_eq_true hm).1
  ordered := pairwise_ofLines path 0 lines

/-- The lines of a text are the text cut behind its newlines. The check tells every defect of
    every line once, in the order of the lines, and nothing else; it is silent exactly
    when no line has one. -/
theorem tells_ofText (path content : String) :
    SplitsInto content.toList (linesWithEnds content.toList) ∧
    Tells path (linesWithEnds content.toList) (ofText path content) ∧
      (ofText path content = [] ↔
        ∀ number line, (linesWithEnds content.toList)[number]? = some line →
          ∀ d : Defect, ¬d.Spoils number (linesWithEnds content.toList).length line) := by
  have h : Tells path (linesWithEnds content.toList) (ofText path content) :=
    tells_ofLines newline_not_mem_dropLast
  exact ⟨splitsInto_linesWithEnds _, h, h.eq_nil_iff⟩

example : (ofText "a.py" "ok\n\tx \r\n\n").map (fun m => (m.line, m.column, m.text)) =
    [(some 2, some 1, "tab"), (some 2, some 4, "carriage return"),
      (some 2, some 3, "trailing whitespace"), (some 3, none, "trailing empty line")] := by
  decide +kernel

end Lintscope.Check.Whitespace

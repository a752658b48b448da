import Lintscope.Output
import Lintscope.Proofs.Order.Filtered
import Lintscope.Proofs.Text.Lines

/-!
# Problems among other lines

What a tool writes about problems stands among lines about anything else. As long as
nothing is read of those, what is read of the output is what is read of each problem,
problem by problem (`Entry.messages_ofLines_eq_iff`), and what is left over are the other
lines that are not blank (`Entry.others_ofLines`).
-/

namespace Lintscope.Output

/-- A line of an output: one about a problem, or another one. -/
inductive Entry (α : Type) where
  | problem (a : α)
  | other (line : List Char)

namespace Entry

variable {α : Type}

/-- What the line says about a problem, if it is about one. -/
def problem? : Entry α → Option α
  | problem a => some a
  | other _ => none

/-- The line, if it is not about a problem. -/
def other? : Entry α → Option (List Char)
  | problem _ => none
  | other line => some line

/-- The line, if problems are written in a certain way. -/
def line (write : α → List Char) : Entry α → List Char
  | problem a => write a
  | other line => line

/-- The problems that are written about. -/
def problems (es : List (Entry α)) : List α := es.filterMap problem?

/-- The other lines. -/
def others (es : List (Entry α)) : List (List Char) := es.filterMap other?

/-- The text of the lines. -/
def text (write : α → List Char) (es : List (Entry α)) : List Char :=
  Text.written (es.map (line write))

/-- Each line is one line, and a reader reads nothing of those that are not about a
    problem. -/
def Apart (write : α → List Char) (read? : List Char → Option Message) : Entry α → Prop
  | problem a => '\n' ∉ write a ∧ (write a).getLast? ≠ some '\r'
  | other line => '\n' ∉ line ∧ read? (Text.dropReturn line) = none

variable {write : α → List Char} {read? : List Char → Option Message} {es : List (Entry α)}

theorem lines_text (h : ∀ e ∈ es, e.Apart write read?) :
    Text.lines (text write es) = es.map (Text.dropReturn ∘ line write) := by
  have hnewline : ∀ l ∈ es.map (line write), '\n' ∉ l := by
    refine List.forall_mem_map.2 fun e he => ?_
    cases e with
    | problem a => exact (h _ he).1
    | other line => exact (h _ he).1
  rw [text, Text.lines_written hnewline, List.map_map]

theorem filterMap_lines_text (h : ∀ e ∈ es, e.Apart write read?) :
    (Text.lines (text write es)).filterMap read? = (problems es).filterMap (read? ∘ write) := by
  rw [lines_text h, List.filterMap_map, problems, List.filterMap_filterMap]
  refine List.filterMap_congr fun e he => ?_
  cases e with
  | problem a =>
    change read? (Text.dropReturn (write a)) = read? (write a)
    rw [Text.dropReturn_of_getLast? (h _ he).2]
  | other line => exact (h _ he).2

/-- If nothing comes of the other lines, what comes of all lines comes of the problems. -/
theorem flatMap_problems {β : Type} {f : Entry α → List β}
    (h : ∀ line, .other line ∈ es → f (other line) = []) :
    es.flatMap f = (problems es).flatMap (f ∘ problem) := by
  induction es with
  | nil => rfl
  | cons e es ih =>
    have ih := ih fun line hline => h line (List.mem_cons_of_mem _ hline)
    cases e with
    | problem a => exact congrArg (f (problem a) ++ ·) ih
    | other line => rw [List.flatMap_cons, h line List.mem_cons_self, ih]; rfl

theorem allBlank_dropReturn (line : List Char) :
    Text.allBlank (Text.dropReturn line) = Text.allBlank line := by
  rw [Text.dropReturn]
  split
  · next hlast =>
    obtain ⟨body, rfl⟩ := List.getLast?_eq_some_iff.1 hlast
    have hreturn : Text.isBlank '\r' = true := rfl
    simp [Text.allBlank, hreturn]
  · rfl

/-- If all problems are read, the lines that are left over are the other ones that are not blank,
    in their order. A carriage return that ends a line is none of it. -/
theorem others_ofLines (h : ∀ e ∈ es, e.Apart write read?)
    (hread : ∀ a ∈ problems es, (read? (write a)).isSome = true) :
    (ofLines read? (text write es)).others =
      ((others es).filter (!Text.allBlank ·)).map (String.ofList ∘ Text.dropReturn) := by
  simp only [ofLines, lines, lines_text h, List.filter_filter]
  induction es with
  | nil => rfl
  | cons e es ih =>
    rw [List.forall_mem_cons] at h
    cases e with
    | problem a =>
      have hread := List.forall_mem_cons.1 hread
      have hline : (Text.dropReturn ∘ line write) (problem a) = write a :=
        Text.dropReturn_of_getLast? h.1.2
      have hsome : (read? (write a)).isNone = false := Option.isNone_eq_false_iff.2 hread.1
      rw [List.map_cons, hline, List.filter_cons_of_neg (by simp [hsome]), ih h.2 hread.2]
      rfl
    | other l =>
      have hline : (Text.dropReturn ∘ line write) (other l) = Text.dropReturn l := rfl
      have hothers : others (other l :: es) = l :: others es := rfl
      have hnone := h.1.2
      rw [List.map_cons, hothers, hline]
      by_cases hblank : Text.allBlank l = true
      · rw [List.filter_cons_of_neg (by simp [allBlank_dropReturn, hblank]),
          List.filter_cons_of_neg (by simp [hblank]), ih h.2 hread]
      · rw [List.filter_cons_of_pos (by simp [allBlank_dropReturn, hblank, hnone]),
          List.filter_cons_of_pos (by simp [hblank]), List.map_cons, List.map_cons, ih h.2 hread]
        rfl

/-- Each problem has its message, in the order of the problems, and there is no other
    message, if and only if the line of each problem is read as its message. -/
theorem messages_ofLines_eq_iff (h : ∀ e ∈ es, e.Apart write read?)
    (hblank : ∀ line, Text.allBlank line = true → read? line = none) {message : α → Message} :
    (ofLines read? (text write es)).messages = (problems es).map message ↔
      ∀ a ∈ problems es, read? (write a) = some (message a) := by
  have hmessages (s : List Char) :
      (ofLines read? s).messages = (Text.lines s).filterMap read? := by
    rw [ofLines, lines, List.filterMap_filter]
    refine List.filterMap_congr fun line _ => ?_
    cases hline : Text.allBlank line with
    | true => exact (hblank line hline).symm
    | false => rfl
  rw [hmessages, filterMap_lines_text h]
  exact Filtered.filterMap_eq_map_iff

end Entry

end Lintscope.Output

import Lintscope.Proofs.Diff.Index
import Lintscope.Run

/-!
# What is in scope

Whether a message is in scope is settled by the list of the index that its path
is in, and, if its file is changed, by its lines (`inScope?_iff`). The lines of
a message are a range that is never empty: a last line before the first one
counts for nothing (`Message.fst_le_snd_of_mem_lineRange`).
-/

namespace Lintscope

namespace Message

variable {m : Message}

theorem lineRange_eq_none_iff : m.lineRange = none ↔ m.line = none :=
  Option.map_eq_none_iff

theorem fst_le_snd_of_mem_lineRange : ∀ range ∈ m.lineRange, range.1 ≤ range.2 := by
  intro range h
  obtain ⟨line, -, rfl⟩ := Option.map_eq_some_iff.1 h
  exact Nat.le_max_left ..

end Message

theorem touches_iff {range : Nat × Nat} {lines : List Nat} :
    touches range lines = true ↔ ∃ l ∈ lines, range.1 ≤ l ∧ l ≤ range.2 := by
  simp [touches]

/-- Whether some of these lines are lines of a message; any are if it has none
    of its own. -/
def Message.Meets (m : Message) (lines : List Nat) : Prop :=
  m.line = none ∨ ∃ line ∈ m.line, ∃ l ∈ lines, line ≤ l ∧ l ≤ max line (m.lineEnd.getD line)

instance (m : Message) (lines : List Nat) : Decidable (m.Meets lines) :=
  inferInstanceAs <| Decidable <| m.line = none ∨
    ∃ line ∈ m.line, ∃ l ∈ lines, line ≤ l ∧ l ≤ max line (m.lineEnd.getD line)

namespace Diff.Index

variable {i : Index} {path : String} {m : Message}

theorem covers?_of_changed {lines : List Nat} (h : i.lookup path = .changed lines) :
    i.covers? path m = some true ↔ m.Meets lines := by
  simp only [covers?, h, Message.Meets]
  cases hr : m.lineRange with
  | none =>
    have hline := Message.lineRange_eq_none_iff.1 hr
    exact iff_of_true rfl (.inl hline)
  | some range =>
    obtain ⟨line, hline, rfl⟩ := Option.map_eq_some_iff.1 hr
    simp [touches_iff, hline]

theorem covers?_eq_none_iff : i.covers? path m = none ↔ Path.canonical path ∈ i.deleted := by
  rw [← lookup_eq_deleted_iff, covers?]
  cases i.lookup path with
  | deleted => exact iff_of_true rfl rfl
  | changed lines => cases m.lineRange <;> exact iff_of_false nofun nofun
  | new => exact iff_of_false nofun nofun
  | untouched => exact iff_of_false nofun nofun

theorem Settled.covers?_eq_some_true_iff (hi : i.Settled) : i.covers? path m = some true ↔
    Path.canonical path ∈ i.added ∨
      ∃ lines, (Path.canonical path, lines) ∈ i.changed ∧ m.Meets lines := by
  rw [← hi.lookup_eq_new_iff]
  simp only [← hi.lookup_eq_changed_iff]
  cases h : i.lookup path with
  | changed lines =>
    rw [covers?_of_changed h]
    simp
  | new => simp [covers?, h]
  | deleted => simp [covers?, h]
  | untouched => simp [covers?, h]

end Diff.Index

theorem inScope?_of_path {i : Diff.Index} {m : Message} {path : String}
    (h : m.path = some path) : inScope? (some i) m = i.covers? path m := by
  simp [inScope?, h]

/-- With an index that was built from a diff, or from files and hunks, and also
    without one: a message is dropped if its file is gone, and only then. Else
    it stays as it is, and it is in scope if there is no index, if it is about
    no file, if its file is new, or if its file is changed and it has no line,
    or a changed line is from its first line up to its last one, which is never
    before the first. -/
theorem inScope?_iff {index : Option Diff.Index} (hb : ∀ i ∈ index, i.Built) (m : Message) :
    (inScope? index m = none ↔
      ∃ i ∈ index, ∃ path ∈ m.path, Path.canonical path ∈ i.deleted) ∧
    (inScope? index m = some true ↔
      index = none ∨ m.path = none ∨ ∃ i ∈ index, ∃ path ∈ m.path,
        Path.canonical path ∈ i.added ∨
          ∃ lines, (Path.canonical path, lines) ∈ i.changed ∧
            (m.line = none ∨ ∃ line ∈ m.line, ∃ l ∈ lines,
              line ≤ l ∧ l ≤ max line (m.lineEnd.getD line))) ∧
    (∀ o : Outcome, ∀ e ∈ o.entry? index m, e.message = m ∧ inScope? index m = some e.inScope) ∧
    ∀ range ∈ m.lineRange, range.1 ≤ range.2 := by
  refine ⟨?_, ?_, ?_, Message.fst_le_snd_of_mem_lineRange⟩
  · rcases index with _ | i
    · simp [inScope?]
    · cases hm : m.path <;> simp [inScope?, hm, Diff.Index.covers?_eq_none_iff]
  · rcases index with _ | i
    · simp [inScope?]
    · -- Only of a settled index can it be told by one list what a lookup gives.
      have hi := (hb i rfl).settled
      cases hm : m.path with
      | none => simp [inScope?, hm]
      | some path =>
        have hcovers : i.covers? path m = some true ↔ _ := hi.covers?_eq_some_true_iff
        simpa [inScope?, hm, Message.Meets] using hcovers
  · intro o e he
    unfold Outcome.entry? at he
    split at he
    · obtain ⟨inScope, hs, rfl⟩ := Option.map_eq_some_iff.1 he
      exact ⟨rfl, hs⟩
    · cases he

/-- An index of a file with one changed line. -/
def lineIndex : Diff.Index := .ofHunks [] ["y.py"] [⟨"x.py", [4]⟩]

/-- A message whose last line is before its first one. -/
def invertedMessage : Message :=
  { path := some "./x.py", line := some 4, lineEnd := some 2, text := "" }

theorem inScope?_iff_inverted :
    (∀ i ∈ some lineIndex, i.Built) ∧ inScope? (some lineIndex) invertedMessage = some true ∧
      invertedMessage.lineRange = some (4, 4) := by
  have hb : ∀ i ∈ some lineIndex, i.Built := by
    intro i hi
    cases hi
    exact .inr ⟨_, _, _, rfl⟩
  have hchanged : (Path.canonical "./x.py", [4]) ∈ lineIndex.changed := by decide +kernel
  refine ⟨hb, (inScope?_iff hb invertedMessage).2.1.2 (.inr (.inr ?_)), rfl⟩
  refine ⟨lineIndex, rfl, "./x.py", rfl, .inr ⟨[4], hchanged, .inr ⟨4, rfl, 4, ?_⟩⟩⟩
  exact ⟨List.mem_singleton_self 4, le_rfl, le_rfl⟩

end Lintscope

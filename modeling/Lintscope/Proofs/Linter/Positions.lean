import Lintscope.CommandLine
import Lintscope.Proofs.Linter.Silence
import Lintscope.Proofs.Run.Ending

/-!
# Positions that do not fit

A tool may write any position of 32 bits, but three linters compute others from
it: the formatters the last line of a stretch from its first line and its
length, and `pylint` a column counted from one from a column counted from zero.
If these do not fit, it is not the linter that fails, but all of the program
breaks down. With these linters this happens if, and only if, the diff has a
stretch of a modified file that is too large, or a record the last column of all
(`Options.perform_eq_hugePosition_iff`). Both can happen
(`Options.hugePosition_black`).
-/

namespace Lintscope

open Text

/-- The number of the first line and the length of a stretch do not fit 32 bits
    together. The number of its last line, which is smaller by one, may fit. -/
def Diff.Span.IsHuge (s : Diff.Span) : Prop := s.length ≠ 0 ∧ limit32 ≤ s.start + s.length

/-- The column of a record does not fit 32 bits when it is counted from one. -/
def Output.PylintRecord.IsHuge (r : Output.PylintRecord) : Prop := limit32 ≤ r.column + 1

/-! ## Outputs -/

namespace Output

theorem stretch?_eq_none_iff {s : Diff.Span} : stretch? s = none ↔ s.IsHuge := by
  rw [stretch?, Diff.Span.IsHuge]
  by_cases hlength : s.length = 0
  · simp [hlength]
  · by_cases hfits : s.start + s.length < limit32
    · simp [hlength, hfits]
    · simp [hlength, hfits, Nat.le_of_not_lt hfits]

section

variable {tool directory : String} {f : Diff.FileChange} {e : Failure}

theorem reformatsOf_eq_error_iff : reformatsOf tool directory f = .error e ↔
    e = .hugePosition ∧ f.status = .modified ∧ ∃ s ∈ f.oldSpans, s.IsHuge := by
  rw [reformatsOf]
  split
  · next hstatus =>
    rw [mapM_eq_error_iff, and_iff_right hstatus]
    intro s e'
    rw [← stretch?_eq_none_iff]
    cases stretch? s with
    | some place => simp
    | none => simp [eq_comm]
  · next hstatus => simp [hstatus]

/-- A formatter's diff has a stretch of a modified file that is too large. -/
def IsHugeDiff (diff : String) : Prop :=
  ∃ files, Diff.parse diff = .ok files ∧
    ∃ f ∈ files, f.status = .modified ∧ ∃ s ∈ f.oldSpans, s.IsHuge

theorem reformats_eq_hugePosition_iff {diff : String} :
    reformats tool directory diff = .error .hugePosition ↔ IsHugeDiff diff := by
  rw [reformats, IsHugeDiff]
  cases Diff.parse diff with
  | error e =>
    exact iff_of_false nofun nofun
  | ok files =>
    have hflatten : (do return (← files.mapM (reformatsOf tool directory)).flatten) =
        .error .hugePosition ↔ files.mapM (reformatsOf tool directory) = .error .hugePosition := by
      rw [bind_eq_error_iff]
      exact or_iff_left nofun
    refine hflatten.trans ?_
    rw [mapM_eq_error_iff fun f e => reformatsOf_eq_error_iff]
    simp

end

/-- A report of `pylint` has a record with the last column of all. -/
def IsHugeReport (output : String) : Prop :=
  ∃ rs, records PylintRecord.read output = .ok rs ∧ ∃ r ∈ rs, r.IsHuge

theorem PylintRecord.message_eq_error_iff {r : PylintRecord} {e : Failure} :
    r.message = .error e ↔ e = .hugePosition ∧ r.IsHuge := by
  rw [message, IsHuge, ← Nat.not_lt]
  split
  · next h => simp [h]
  · next h => simp [h, eq_comm]

theorem records_ne_hugePosition {α : Type} (record : Json.Reader α) (output : String) :
    records record output ≠ .error .hugePosition := by
  rw [records]
  split
  · rintro ⟨⟩
  · cases (Json.Reader.list record).run output <;> rintro ⟨⟩

theorem pylintMessages_eq_hugePosition_iff {output : String} :
    pylintMessages output = .error .hugePosition ↔ IsHugeReport output := by
  rw [pylintMessages, bind_eq_error_iff, or_iff_right (records_ne_hugePosition _ output),
    IsHugeReport]
  refine exists_congr fun rs => and_congr_right fun _ => ?_
  rw [mapM_eq_error_iff fun r e => PylintRecord.message_eq_error_iff, and_iff_right rfl]

end Output

/-! ## Plans -/

namespace Plan

variable {w : World} {c : Context}

/-- What goes wrong with a position goes wrong where an output is read. -/
theorem outcome_eq_hugePosition_iff {p : Plan} {call : World.Call} {accepts : Int → Bool}
    {read : ToolOutput → Except Failure (List Message)} {Accepted : Int → Prop}
    (Read : String → Prop) (hp : p = tool call accepts read)
    (haccepts : ∀ n, accepts n = true ↔ Accepted n)
    (hread : ∀ out, read out = .error .hugePosition ↔ Read out.stdout) :
    p.outcome w c = .error .hugePosition ↔
      w.cancelled = false ∧ ∃ l ∈ p.launches w c, ∃ n stdout stderr,
        l.result = .ok (.ends (.code n) stdout stderr) ∧ Accepted n ∧
          Read (ToolOutput.textOf stdout) := by
  subst hp
  rw [outcome, launches, bind_eq_error_iff, World.Launch.output]
  simp only [List.mem_singleton, exists_eq_left, hread, ← haccepts]
  rcases (w.launch c.root call).result with e | _ | ⟨n | _, stdout, stderr⟩
  · simp
  · cases w.cancelled <;> cases c.limit <;> simp
  · cases w.cancelled <;> cases ha : accepts n <;> simp [ToolOutput.ofEnd, ha]
  · cases w.cancelled <;> simp [ToolOutput.ofEnd]

theorem upTo_iff_eq_or {greatest : Int} (h : 0 ≤ greatest) (n : Int) :
    upTo greatest n = true ↔ n = 0 ∨ 1 ≤ n ∧ n ≤ greatest := by
  simp only [upTo, Bool.and_eq_true, decide_eq_true_eq]
  omega

theorem upTo_zero_iff (n : Int) : upTo 0 n = true ↔ n = 0 ∨ False := by
  rw [upTo_iff_eq_or (Int.le_refl 0), or_false]
  omega

end Plan

/-! ## Linters -/

namespace Options

/-- The linter computes positions from those that its tool has written. -/
def Computes : Options → Prop
  | black _ | autopep8 _ | pylint _ => True
  | _ => False

/-- What such a linter reads has a position from which it cannot compute another one. -/
def IsHuge (o : Options) (stdout : String) : Prop :=
  match o with
  | black _ | autopep8 _ => Output.IsHugeDiff stdout
  | pylint _ => Output.IsHugeReport stdout
  | _ => False

/-- A linter that computes positions breaks down at one if, and only if, its tool
    ends with a code that it may end with, and has written one from which the
    linter cannot compute the position that it tells. -/
theorem perform_eq_hugePosition_iff {o : Options} (ho : o.Computes) (c : Context)
    (files : List String) (w : World) (log : List World.Launch) :
    (((Plan.ofOptions o c files).perform w c).run.run log).1 = .error .hugePosition ↔
      w.cancelled = false ∧ ∃ l ∈ (Plan.ofOptions o c files).launches w c, ∃ n stdout stderr,
        l.result = .ok (.ends (.code n) stdout stderr) ∧ (n = 0 ∨ o.Tolerates n) ∧
          o.IsHuge (ToolOutput.textOf stdout) := by
  rw [(Plan.gives_perform w c _).fst_run, (Plan.gives_perform w c _).result_eq]
  cases o with
  | black options | autopep8 options =>
    refine Plan.outcome_eq_hugePosition_iff _ rfl Plan.upTo_zero_iff fun out => ?_
    exact Output.reformats_eq_hugePosition_iff
  | pylint rcfile =>
    refine Plan.outcome_eq_hugePosition_iff _ rfl (Plan.upTo_iff_eq_or (by decide)) fun out => ?_
    exact Output.pylintMessages_eq_hugePosition_iff
  | _ => exact ho.elim

/-- A world in which a tool writes something and ends well, whatever it is asked. -/
def endingWorld (tool stdout : String) : World where
  tree := ⟨[(["r", Settings.fileName], .file (Utf8.encode ("linters: [" ++ tool ++ "]\n").toList)),
    (["r", "a.py"], .file [])]⟩
  program? name := some fun args _ =>
    .ends (.code 0)
      (Utf8.encode <| (if name = tool then stdout
        else if "--show-toplevel" ∈ args then "/r\n"
        else if "--cached" ∈ args then "a.py\n"
        else "").toList) []

/-- A diff that would rewrite the last line that has a number of 32 bits. -/
def lastLineDiff : String := "--- a.py\n+++ a.py\n@@ -4294967295 +4294967295 @@\n-x\n+y\n"

theorem perform_eq_hugePosition_iff_lastLine :
    (black {}).Computes ∧
      (((Plan.ofOptions (.black {}) { root := "/r" } ["a.py"]).perform
        (endingWorld "black" lastLineDiff) { root := "/r" }).run.run []).1 =
          .error .hugePosition := by
  have hhuge : Output.IsHugeDiff lastLineDiff := by
    have hparse : Diff.parse lastLineDiff =
        .ok [⟨"a.py", .modified, [4294967295], [⟨4294967295, 1⟩]⟩] := by decide +kernel
    refine ⟨_, hparse, _, List.mem_singleton_self _, rfl, _, List.mem_singleton_self _, ?_⟩
    exact ⟨by decide, by decide⟩
  have hcomputes : (black {}).Computes := trivial
  refine ⟨hcomputes, (perform_eq_hugePosition_iff hcomputes _ _ _ _).2 ?_⟩
  refine ⟨rfl, _, List.mem_singleton_self _, 0, _, _, rfl, .inl rfl, ?_⟩
  have htext : ToolOutput.textOf (Utf8.encode lastLineDiff.toList) = lastLineDiff := by
    decide +kernel
  exact htext.symm ▸ hhuge

/-- A report with a record in the last column that has a number of 32 bits. -/
def lastColumnReport : String :=
  "[[\"error\", \"a.py\", 1, 4294967295, null, \"syntax-error\", \"no\", \"E0001\"]]"

/-- The last line of the stretch would fit, and so would all of the diff, but the
    linter does not get that far, and the whole run ends without a report. -/
theorem hugePosition_black :
    (((Plan.ofOptions (.black {}) { root := "/r" } ["a.py"]).perform
        (endingWorld "black" lastLineDiff) { root := "/r" }).run.run []).1 =
          .error .hugePosition ∧
      (((Plan.ofOptions (.pylint none) { root := "/r" } ["a.py"]).perform
          (endingWorld "pylint" lastColumnReport) { root := "/r" }).run.run []).1 =
            .error .hugePosition ∧
        (CommandLine.perform (endingWorld "black" lastLineDiff) "/r" (.check {})).1.code = 101 := by
  have hmatches : ∀ a : Except Failure (List Message),
      (a matches .error .hugePosition) = true → a = .error .hugePosition := by
    intro a ha
    split at ha
    · rfl
    · cases ha
  refine ⟨hmatches _ ?_, hmatches _ ?_, ?_⟩
  · decide +kernel
  · decide +kernel
  · decide +kernel

end Options

end Lintscope

import Lintscope.Proofs.Json.EmptyList
import Lintscope.Proofs.Run.Ending

/-!
# Tools that find something and say nothing

A tool may end with a code that tells that it found something. Its linter then
fails, or has a message, unless the tool left nothing to be read: this is when,
and only when, the code passes in silence (`Options.perform_eq_ok_nil_iff`).
What is read depends on the linter. So a tool that crashes with a code that it
also ends with when it found something, and complains on the output that is not
read, is taken for one that found nothing (`Options.flake8_silent`).
-/

namespace Lintscope

/-! ## Outputs without anything -/

namespace Output

theorem require_eq_ok_nil_iff (o : Output) : o.require true = .ok [] ↔ o = {} := by
  rcases o with ⟨_ | ⟨m, ms⟩, _ | ⟨line, others⟩⟩ <;> simp [require]

theorem ofLines_eq_empty_iff {read? : List Char → Option Message} {s : List Char} :
    ofLines read? s = {} ↔ lines s = [] := by
  rw [ofLines]
  constructor
  · intro h
    obtain ⟨hmessages, hothers⟩ := Output.mk.inj h
    rw [List.filterMap_eq_nil_iff] at hmessages
    rw [List.map_eq_nil_iff, List.filter_eq_nil_iff] at hothers
    refine List.eq_nil_iff_forall_not_mem.2 fun line hl => hothers line hl ?_
    rw [hmessages line hl]
    rfl
  · intro h
    rw [h]
    rfl

theorem ofPairs_eq_empty_iff {ls : List (List Char)} : ofPairs ls = {} ↔ ls = [] := by
  refine ⟨fun h => ?_, fun h => by rw [h]; rfl⟩
  cases ls with
  | nil => rfl
  | cons first rest =>
    -- A line is a message, belongs to one, or is another line.
    unfold ofPairs at h
    split at h <;> simp at h

theorem ofPairedLines_eq_empty_iff {s : List Char} :
    ofPairedLines s = {} ↔ ∀ line ∈ lines s, isWarning line = true := by
  simp only [ofPairedLines, ofPairs_eq_empty_iff, List.filter_eq_nil_iff, Bool.not_eq_true,
    Bool.not_eq_false']

/-- A report in which nothing is listed. -/
def IsEmptyReport (output : String) : Prop :=
  Text.allBlank output.toList = true ∨
    output.toList.filter (!Json.Reader.isSpace ·) = ['[', ']']

theorem records_eq_ok_nil_iff {α : Type} (record : Json.Reader α) {output : String} :
    records record output = .ok [] ↔ IsEmptyReport output := by
  rw [records, IsEmptyReport]
  split
  · next h => simp [h]
  · next h => simp [h, mapError_eq_ok_iff, Json.Reader.run_list_eq_ok_nil_iff]

theorem pylintMessages_eq_ok_nil_iff {output : String} :
    pylintMessages output = .ok [] ↔ IsEmptyReport output := by
  rw [pylintMessages, bind_eq_ok_iff]
  simp only [mapM_eq_ok_nil_iff, exists_eq_right, records_eq_ok_nil_iff]

theorem rstMessages_eq_ok_nil_iff {output : String} :
    rstMessages output = .ok [] ↔ IsEmptyReport output := by
  rw [rstMessages, bind_eq_ok_iff, ← records_eq_ok_nil_iff RstRecord.read]
  refine ⟨fun ⟨rs, hrs, h⟩ => ?_, fun h => ⟨[], h, rfl⟩⟩
  rw [hrs, List.map_eq_nil_iff.1 (Except.ok.inj h)]

end Output

/-! ## Plans -/

namespace Plan

variable {w : World} {c : Context} {call : World.Call} {accepts : Int → Bool}
  {read : ToolOutput → Except Failure (List Message)} {n : Int} {stdout stderr : List UInt8}

/-- What a tool that ended has said is read if its code is one that it may end
    with, and if nothing is to stop. -/
theorem outcome_eq_ok_iff {p : Plan} {l : World.Launch} (hp : p = tool call accepts read)
    (hl : l ∈ p.launches w c) (hend : l.result = .ok (.ends (.code n) stdout stderr))
    {ms : List Message} :
    p.outcome w c = .ok ms ↔ w.cancelled = false ∧ accepts n = true ∧
      read ⟨ToolOutput.textOf stdout, ToolOutput.textOf stderr, n⟩ = .ok ms := by
  subst hp
  obtain rfl := List.mem_singleton.1 hl
  rw [outcome, World.Launch.output, hend]
  cases hw : w.cancelled with
  | true => simp [Bind.bind, Except.bind]
  | false =>
    cases ha : accepts n <;> simp [ToolOutput.ofEnd, ha, Bind.bind, Except.bind]

/-- The same, with other words for both conditions. -/
theorem outcome_eq_ok_iff_and {p : Plan} {l : World.Launch} (hp : p = tool call accepts read)
    (hl : l ∈ p.launches w c) (hend : l.result = .ok (.ends (.code n) stdout stderr))
    {ms : List Message} {Accepted Read : Prop} (haccepts : accepts n = true ↔ Accepted)
    (hread : read ⟨ToolOutput.textOf stdout, ToolOutput.textOf stderr, n⟩ = .ok ms ↔ Read) :
    p.outcome w c = .ok ms ↔ w.cancelled = false ∧ Accepted ∧ Read := by
  rw [outcome_eq_ok_iff hp hl hend, haccepts, hread]

theorem upTo_iff {greatest : Int} (hn : n ≠ 0) :
    upTo greatest n = true ↔ 1 ≤ n ∧ n ≤ greatest := by
  simp only [upTo, Bool.and_eq_true, decide_eq_true_eq]
  omega

theorem upTo_one_iff (hn : n ≠ 0) : upTo 1 n = true ↔ n = 1 := by
  rw [upTo_iff hn]
  omega

theorem not_upTo_zero (hn : n ≠ 0) : ¬upTo 0 n = true := by
  rw [upTo_iff hn]
  omega

theorem fromStdout_eq_ok_nil_iff {read : List Char → Output} {out : ToolOutput}
    (hn : out.code ≠ 0) : fromStdout read out = .ok [] ↔ read out.stdout.toList = {} := by
  rw [fromStdout, decide_eq_true hn, Output.require_eq_ok_nil_iff]

theorem fromStderr_eq_ok_nil_iff {read : List Char → Output} {out : ToolOutput}
    (hn : out.code ≠ 0) : fromStderr read out = .ok [] ↔ read out.stderr.toList = {} := by
  rw [fromStderr, decide_eq_true hn, Output.require_eq_ok_nil_iff]

theorem readCpplint_eq_ok_nil_iff {out : ToolOutput} (hn : out.code ≠ 0) :
    readCpplint out = .ok [] ↔ Text.contains "FATAL".toList out.stdout.toList = false ∧
      Output.lines out.stderr.toList = [] := by
  rw [readCpplint]
  cases Text.contains "FATAL".toList out.stdout.toList with
  | true => exact ⟨nofun, nofun⟩
  | false =>
    rw [if_neg Bool.false_ne_true, fromStderr_eq_ok_nil_iff hn, Output.ofLocations,
      Output.ofLines_eq_empty_iff]
    exact (and_iff_right rfl).symm

/-- A linter with a command of its own that launches something has made its plan
    with the call that the command tells. -/
theorem exists_ofCommand_eq {command : String} {args : List String} {make : World.Call → Plan}
    {l : World.Launch} (hl : l ∈ (ofCommand command args make).launches w c) :
    ∃ call, ofCommand command args make = make call := by
  cases hparse : Shell.Command.parse command with
  | ok found =>
    refine ⟨{ program := found.program, args := found.args ++ args }, ?_⟩
    rw [ofCommand, hparse]
  | error e =>
    rw [ofCommand, hparse] at hl
    exact absurd hl List.not_mem_nil

end Plan

/-! ## Linters -/

namespace Options

/-- The codes other than zero that the tool of a linter may end with. -/
def Tolerates (o : Options) (n : Int) : Prop :=
  match o with
  | flake8 _ | pycodestyle _ | pydocstyle _ | yamllint _ | cpplint _ => n = 1
  | pylint _ => 1 ≤ n ∧ n ≤ 31
  | rstLint => n = 2
  | custom o => n ∈ o.okExitCodes
  | _ => False

/-- The tool of a linter left nothing to be read. -/
def IsSilent (o : Options) (out : ToolOutput) : Prop :=
  match o with
  | flake8 _ | pycodestyle _ | yamllint _ => Output.lines out.stdout.toList = []
  | pydocstyle _ => ∀ line ∈ Output.lines out.stdout.toList, Output.isWarning line
  | pylint _ | rstLint => Output.IsEmptyReport out.stdout
  | cpplint _ =>
    Text.contains "FATAL".toList out.stdout.toList = false ∧ Output.lines out.stderr.toList = []
  | custom o => Output.lines (Output.chosen o.stream out.stdout out.stderr).toList = []
  | _ => True

variable {o : Options} {c : Context} {files : List String} {w : World} {l : World.Launch} {n : Int}
  {stdout stderr : List UInt8}

/-- If the tool of a linter ends with another code than zero, the linter fails or
    has a message, except if the tool may end with that code and left nothing to
    be read; then the linter has no message. -/
theorem perform_eq_ok_nil_iff (hl : l ∈ (Plan.ofOptions o c files).launches w c)
    (hend : l.result = .ok (.ends (.code n) stdout stderr)) (hn : n ≠ 0)
    (log : List World.Launch) :
    (((Plan.ofOptions o c files).perform w c).run.run log).1 = .ok [] ↔
      w.cancelled = false ∧ o.Tolerates n ∧
        o.IsSilent ⟨ToolOutput.textOf stdout, ToolOutput.textOf stderr, n⟩ := by
  rw [(Plan.gives_perform w c _).fst_run, (Plan.gives_perform w c _).result_eq]
  -- Linters that read their tool in the same way have the same proof.
  cases o with
  | flake8 config | pycodestyle config | yamllint config =>
    refine Plan.outcome_eq_ok_iff_and rfl hl hend (Plan.upTo_one_iff hn) ?_
    exact (Plan.fromStdout_eq_ok_nil_iff hn).trans Output.ofLines_eq_empty_iff
  | pydocstyle config =>
    refine Plan.outcome_eq_ok_iff_and rfl hl hend (Plan.upTo_one_iff hn) ?_
    exact (Plan.fromStdout_eq_ok_nil_iff hn).trans Output.ofPairedLines_eq_empty_iff
  | pylint rcfile =>
    refine Plan.outcome_eq_ok_iff_and rfl hl hend (Plan.upTo_iff hn) ?_
    exact Output.pylintMessages_eq_ok_nil_iff
  | rstLint =>
    refine Plan.outcome_eq_ok_iff_and rfl hl hend ?_ Output.rstMessages_eq_ok_nil_iff
    simp [Tolerates, hn]
  | cpplint options =>
    rw [Plan.ofOptions, Plan.cpplint] at hl ⊢
    obtain ⟨call, hp⟩ := Plan.exists_ofCommand_eq hl
    refine Plan.outcome_eq_ok_iff_and hp hl hend (Plan.upTo_one_iff hn) ?_
    exact Plan.readCpplint_eq_ok_nil_iff hn
  | custom options =>
    rw [Plan.ofOptions, Plan.custom] at hl ⊢
    obtain ⟨call, hp⟩ := Plan.exists_ofCommand_eq hl
    refine Plan.outcome_eq_ok_iff_and hp hl hend decide_eq_true_iff ?_
    rw [decide_eq_true hn, Output.require_eq_ok_nil_iff]
    exact Output.ofLines_eq_empty_iff
  | black options | autopep8 options | cppcheck options | doxygen =>
    -- A tool that may only end with a zero.
    refine (Plan.outcome_eq_ok_iff rfl hl hend).trans (and_congr_right' ?_)
    exact ⟨fun h => absurd h.1 (Plan.not_upTo_zero hn), fun h => h.1.elim⟩
  | imports packages | whitespace options | header options => exact absurd hl List.not_mem_nil

/-- A world in which `flake8` ends with a one, whatever it is asked. -/
def complainingWorld (stdout stderr : String) : World where
  tree := ⟨[(["a.py"], .file [])]⟩
  program?
    | "flake8" => some fun _ _ =>
      .ends (.code 1) (Utf8.encode stdout.toList) (Utf8.encode stderr.toList)
    | _ => none

theorem perform_eq_ok_nil_iff_usage :
    (((Plan.ofOptions (flake8 none) { root := "/" } ["a.py"]).perform
      (complainingWorld "usage: flake8\n" "") { root := "/" }).run.run []).1 ≠ .ok [] := by
  intro h
  obtain ⟨_, _, hsilent⟩ := (perform_eq_ok_nil_iff List.mem_cons_self rfl Int.one_ne_zero []).1 h
  rw [IsSilent] at hsilent
  exact absurd hsilent (by decide)

/-- A tool that broke down, and complained on the output that is not read. -/
theorem flake8_silent :
    ∃ l ∈ (Plan.ofOptions (flake8 none) { root := "/" } ["a.py"]).launches
        (complainingWorld "" "Traceback (most recent call last):\n") { root := "/" },
      l.result = .ok (.ends (.code 1) []
        (Utf8.encode "Traceback (most recent call last):\n".toList)) ∧
      (((Plan.ofOptions (flake8 none) { root := "/" } ["a.py"]).perform
        (complainingWorld "" "Traceback (most recent call last):\n") { root := "/" }).run.run
          []).1 = .ok [] :=
  ⟨_, List.mem_cons_self, rfl, rfl⟩

end Options

end Lintscope

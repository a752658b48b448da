import Lintscope.Proofs.Except
import Lintscope.Proofs.Linter.Handover

/-!
# Files that look like options

What a tool takes for an option stands before the first `--` of its arguments. Linters that
tell their tool the files by arguments put a `--` between their own options and the files,
so it does not matter what a file is called; only `cppcheck` gets its files without one
(`Plan.exists_own_append`). There, a file may well be an option (`Plan.leading_cppcheck`).
-/

namespace Lintscope

/-- The arguments of a call that its tool may take for options. -/
def World.Call.leading (call : World.Call) : List String := call.args.takeWhile (· ≠ "--")

/-- Whether a linter that is no custom one tells its tool the files by arguments. -/
def Options.tellsByArguments : Options → Bool
  | .imports _ | .doxygen | .whitespace _ | .header _ | .custom _ => false
  | _ => true

namespace Plan

/-- What stands behind a `--` is of no matter to what stands before it. -/
theorem takeWhile_append_guarded (own files : List String) :
    (own ++ guarded files).takeWhile (· ≠ "--") = own.takeWhile (· ≠ "--") := by
  rw [List.takeWhile_append]
  split
  · next h =>
    rw [(List.takeWhile_sublist _).eq_of_length h]
    simp [guarded]
  · rfl

theorem append_ne_dashes {lead : String} (h : ¬lead.toList <+: ['-', '-']) (s : String) :
    lead ++ s ≠ "--" := by
  intro heq
  have hlist := congrArg String.toList heq
  rw [String.toList_append] at hlist
  exact h ⟨s.toList, hlist⟩

variable {o : Options}

theorem guards {call : World.Call} {own files : List String}
    (h : call.args = own ++ guarded files) :
    call.args = own ++ "--" :: files ∧ call.leading = own.takeWhile (· ≠ "--") :=
  ⟨h, by rw [World.Call.leading, h, takeWhile_append_guarded]⟩

/-- A command that can be split calls its program with its own arguments before others. -/
theorem exists_call?_ofCommand {command : String} (h : (Shell.Command.parse command).isOk = true)
    (args : List String) (accepts : Int → Bool)
    (read : ToolOutput → Except Failure (List Message)) :
    ∃ own, ∀ files, ∃ call,
      (ofCommand command (args ++ guarded files) fun call => tool call accepts read).call? =
        some call ∧ call.args = own ++ guarded files := by
  obtain ⟨found, hfound⟩ := exists_of_isOk h
  refine ⟨found.args ++ args, fun files => ⟨_, by rw [call?_ofCommand, hfound]; rfl, ?_⟩⟩
  exact (List.append_assoc ..).symm

/-- In the call of a linter that tells its tool the files by arguments, its own options stand
    before a `--`, and the files behind it; so what the tool may take for an option is the
    linter's own. The one exception is `cppcheck`, which has no `--` among its options or
    behind them: its tool may take every file for one, up to a file of that name. -/
theorem exists_own_append (h : o.tellsByArguments = true) (hc : o.Callable) (c : Context) :
    ∃ own, ∀ files, ∃ call, (ofOptions o c files).call? = some call ∧
      (o.linter ≠ .cppcheck →
        call.args = own ++ "--" :: files ∧ call.leading = own.takeWhile (· ≠ "--")) ∧
      (o.linter = .cppcheck →
        call.args = own ++ files ∧ call.leading = own ++ files.takeWhile (· ≠ "--")) := by
  cases o with
  | imports packages | doxygen | whitespace width | header options | custom options => cases h
  | flake8 config | pycodestyle config | pydocstyle config | pylint rcfile | black options
  | autopep8 options | yamllint config | rstLint =>
    exact ⟨_, fun files => ⟨_, rfl, fun _ => guards rfl, nofun⟩⟩
  | cpplint options =>
    obtain ⟨own, hown⟩ := exists_call?_ofCommand (hc.2 options.script rfl)
      (["--linelength=" ++ toString options.lineLength] ++
        if options.categories = [] then [] else ["--filter=" ++ ",".intercalate options.categories])
      (upTo 1) readCpplint
    refine ⟨own, fun files => ?_⟩
    obtain ⟨call, hcall, hargs⟩ := hown files
    exact ⟨call, hcall, fun _ => guards hargs, nofun⟩
  | cppcheck options =>
    refine ⟨_, fun files => ⟨_, rfl, fun hne => absurd rfl hne, fun _ => ⟨rfl, ?_⟩⟩⟩
    -- None of the own options is a `--`, since each starts with more than that.
    refine List.takeWhile_append_of_pos fun arg harg => decide_eq_true ?_
    simp only [List.mem_append, List.mem_cons, List.not_mem_nil, or_false, List.mem_map] at harg
    rcases harg with ((rfl | rfl | rfl | rfl | rfl | rfl) | ⟨id, -, rfl⟩) | ⟨dir, -, rfl⟩
    · decide
    · decide
    all_goals exact append_ne_dashes (by decide) _

/-- A script with an argument of its own, and two files that look like options. -/
theorem exists_own_append_script :
    ∃ own call, (ofOptions (.cpplint { script := "python3 cpplint.py" }) { root := "/" }
        ["-h", "--filter=.cpp"]).call? = some call ∧
      call.args = own ++ ["--", "-h", "--filter=.cpp"] ∧ call.leading = own ∧
        own = ["cpplint.py", "--linelength=100", "--filter=-runtime/int"] := by
  obtain ⟨own, hown⟩ := exists_own_append (o := .cpplint { script := "python3 cpplint.py" }) rfl
    (by decide) { root := "/" }
  obtain ⟨call, hcall, hguards, -⟩ := hown ["-h", "--filter=.cpp"]
  obtain ⟨hargs, hleading⟩ := hguards nofun
  have howns : own = ["cpplint.py", "--linelength=100", "--filter=-runtime/int"] := by
    have hcall' : (ofOptions (.cpplint { script := "python3 cpplint.py" }) { root := "/" }
        ["-h", "--filter=.cpp"]).call? = some { program := "python3", args :=
          ["cpplint.py", "--linelength=100", "--filter=-runtime/int"] ++
            ["--", "-h", "--filter=.cpp"] } := rfl
    obtain rfl := Option.some.inj (hcall.symm.trans hcall')
    exact List.append_cancel_right hargs.symm
  refine ⟨own, call, hcall, hargs, hleading.trans ?_, howns⟩
  rw [howns]
  decide

/-- A file whose name is an option that makes `cppcheck` write to another file. -/
theorem leading_cppcheck :
    ∃ call, (ofOptions (.cppcheck {}) { root := "/" } ["--output-file=a.cpp"]).call? = some call ∧
      "--" ∉ call.args ∧ "--output-file=a.cpp" ∈ call.leading :=
  ⟨_, rfl, by decide, by decide⟩

end Plan

end Lintscope

import Lintscope.Linter.Plan
import Lintscope.Proofs.Text.Cut
import Lintscope.Proofs.Text.Lines

/-!
# How files get to a tool

A linter with a tool makes one call of it, and none if its command is none
(`Plan.isSome_call?_iff`). The call on some files is the call on no files with the files
put behind its arguments (`Plan.exists_hands`): whatever the options are, no file is left
out, put twice or put elsewhere.

One tool is not told its files by arguments: `doxygen` reads settings, one of which lists
them in double quotes. What it reads there are the files, as long as their names have no
backslash, which would take the meaning from the character behind it, and no newline,
which would end the setting (`Plan.inputNames?_doxygenSettings`). So no name can pass for
several, or for a setting of its own (`Plan.doxygenSettings_eq_iff_and_lists`).
-/

namespace Lintscope

namespace Plan

/-! ## Quoted words -/

/-- The words in double quotes that a text is made of, with nothing but spaces between
    them, where the text starts inside of the given word, if there is one. In a word a
    backslash stands for the character behind it. -/
def quotedWords? : Option (List Char) → List Char → Option (List (List Char))
  | none, [] => some []
  | none, ' ' :: s => quotedWords? none s
  | none, '"' :: s => quotedWords? (some []) s
  | none, _ => none
  | some _, [] => none
  | some word, '"' :: s => (quotedWords? none s).map (word :: ·)
  | some word, '\\' :: c :: s => quotedWords? (some (word ++ [c])) s
  | some word, c :: s => quotedWords? (some (word ++ [c])) s

/-- What stands before the names of the files in the settings of `doxygen`. -/
def inputLead : String := "INPUT                  = "

/-- The names of the files that settings of `doxygen` list; none if there is no such list,
    or more than one. -/
def inputNames? (settings : String) : Option (List String) :=
  match (Text.lines settings.toList).filterMap (Text.dropLead? inputLead.toList) with
  | [value] => (quotedWords? none value).map (·.map String.ofList)
  | _ => none

theorem quotedWords?_quote {name : List Char} (h : '\\' ∉ name) (word s : List Char) :
    quotedWords? (some word)
        (name.flatMap (fun c => if c = '"' then ['\\', '"'] else [c]) ++ s) =
      quotedWords? (some (word ++ name)) s := by
  induction name generalizing word with
  | nil => simp
  | cons c name ih =>
    rw [List.mem_cons, not_or] at h
    rw [List.flatMap_cons, List.append_assoc, List.append_cons word c name, ← ih h.2]
    by_cases hc : c = '"'
    · rw [if_pos hc, hc]
      rfl
    · rw [if_neg hc, List.singleton_append, quotedWords?]
      · exact hc
      · exact fun _ _ heq => absurd heq.symm h.1

theorem toList_quotedName (file : String) :
    (quotedName file).toList =
      '"' :: (file.toList.flatMap (fun c => if c = '"' then ['\\', '"'] else [c]) ++ ['"']) := by
  rw [quotedName, String.toList_ofList, List.cons_append]

theorem quotedWords?_quotedName {file : String} (h : '\\' ∉ file.toList) (s : List Char) :
    quotedWords? none ((quotedName file).toList ++ s) =
      (quotedWords? none s).map (file.toList :: ·) := by
  rw [toList_quotedName, List.cons_append, List.append_assoc, quotedWords?, quotedWords?_quote h]
  rfl

/-! ## Settings -/

/-- The quoted names of files, with spaces between them. -/
def quotedNames (files : List String) : List Char :=
  [' '].intercalate (files.map fun file => (quotedName file).toList)

theorem quotedNames_cons_cons (file next : String) (files : List String) :
    quotedNames (file :: next :: files) =
      (quotedName file).toList ++ ' ' :: quotedNames (next :: files) := by
  rw [quotedNames, List.map_cons, List.map_cons, List.intercalate_cons_cons, List.append_assoc,
    List.singleton_append, quotedNames, List.map_cons]

theorem quotedNames_singleton (file : String) : quotedNames [file] = (quotedName file).toList := by
  rw [quotedNames, List.map_singleton, List.intercalate_singleton]

/-- Quoted names are read back. -/
theorem quotedWords?_quotedNames {files : List String} (h : ∀ file ∈ files, '\\' ∉ file.toList) :
    quotedWords? none (quotedNames files) = some (files.map String.toList) := by
  induction files with
  | nil => rfl
  | cons file files ih =>
    rw [List.forall_mem_cons] at h
    cases files with
    | nil =>
      rw [quotedNames_singleton, ← List.append_nil (quotedName file).toList,
        quotedWords?_quotedName h.1]
      rfl
    | cons next files =>
      rw [quotedNames_cons_cons, quotedWords?_quotedName h.1, quotedWords?, ih h.2]
      rfl

theorem newline_not_mem_quotedNames {files : List String} (h : ∀ file ∈ files, '\n' ∉ file.toList) :
    '\n' ∉ quotedNames files := by
  induction files with
  | nil => exact List.not_mem_nil
  | cons file files ih =>
    rw [List.forall_mem_cons] at h
    have hfile : '\n' ∉ (quotedName file).toList := by
      rw [toList_quotedName]
      simp only [List.mem_cons, List.mem_append, List.mem_flatMap, List.not_mem_nil, or_false,
        not_or]
      refine ⟨by decide, ?_, by decide⟩
      rintro ⟨c, hc, hmem⟩
      split at hmem
      · simp at hmem
      · exact h.1 (List.mem_singleton.1 hmem ▸ hc)
    cases files with
    | nil =>
      rw [quotedNames_singleton]
      exact hfile
    | cons next files =>
      rw [quotedNames_cons_cons, List.mem_append, List.mem_cons, not_or, not_or]
      exact ⟨hfile, by decide, ih h.2⟩

/-- The line of the names has no carriage return to lose at its end. -/
theorem getLast?_quotedNames_ne (files : List String) :
    (quotedNames files).getLast? ≠ some '\r' := by
  induction files with
  | nil => nofun
  | cons file files ih =>
    cases files with
    | nil =>
      rw [quotedNames_singleton, toList_quotedName, ← List.cons_append, List.getLast?_concat]
      decide
    | cons next files =>
      rw [quotedNames_cons_cons, List.getLast?_append, List.getLast?_cons]
      cases hlast : (quotedNames (next :: files)).getLast? with
      | none => simp
      | some c => simpa [hlast] using ih

/-- No setting but the first one lists files. -/
theorem filterMap_otherSettings :
    (Text.lines otherSettings.toList).filterMap (Text.dropLead? inputLead.toList) = [] := by
  unfold otherSettings Output.mark
  simp only [String.toList_append]
  decide +kernel

/-- The list of files takes up the first line of the settings, and the lines behind it
    are the other settings, whatever the names are. -/
theorem toList_doxygenSettings (files : List String) :
    (doxygenSettings files).toList =
      Text.written [inputLead.toList ++ quotedNames files] ++ otherSettings.toList := by
  have hspace : " ".toList = [' '] := rfl
  have hend : "\n".toList = ['\n'] := rfl
  unfold doxygenSettings
  rw [String.toList_append, String.toList_append, String.toList_append,
    String.toList_intercalate, List.map_map, hspace, hend, Text.written, List.flatMap_singleton,
    inputLead, quotedNames, Function.comp_def]

theorem lines_doxygenSettings {files : List String} (h : ∀ file ∈ files, '\n' ∉ file.toList) :
    Text.lines (doxygenSettings files).toList =
      (inputLead.toList ++ quotedNames files) :: Text.lines otherSettings.toList := by
  have hline : '\n' ∉ inputLead.toList ++ quotedNames files := by
    rw [List.mem_append, not_or]
    exact ⟨by decide, newline_not_mem_quotedNames h⟩
  have hreturn : Text.dropReturn (inputLead.toList ++ quotedNames files) =
      inputLead.toList ++ quotedNames files := by
    rw [Text.dropReturn_append (by decide),
      Text.dropReturn_of_getLast? (getLast?_quotedNames_ne files)]
  rw [toList_doxygenSettings, Text.lines_written_append (by simpa using hline),
    List.map_singleton, hreturn, List.singleton_append]

/-- The settings list the files that they are made for, in their order. -/
theorem inputNames?_doxygenSettings {files : List String}
    (h : ∀ file ∈ files, '\\' ∉ file.toList ∧ '\n' ∉ file.toList) :
    inputNames? (doxygenSettings files) = some files := by
  rw [inputNames?, lines_doxygenSettings fun file hfile => (h file hfile).2,
    List.filterMap_cons_some (Text.dropLead?_append ..), filterMap_otherSettings]
  simp [quotedWords?_quotedNames fun file hfile => (h file hfile).1]

/-- The settings for some files are those for others only if the files are the same. On
    their first line they list the files, and what stands there is read as the names, in
    their order; the lines behind it are the same for all files, and none of them lists
    any. -/
theorem doxygenSettings_eq_iff_and_lists {files files' : List String}
    (h : ∀ file ∈ files, '\\' ∉ file.toList ∧ '\n' ∉ file.toList)
    (h' : ∀ file ∈ files', '\\' ∉ file.toList ∧ '\n' ∉ file.toList) :
    (doxygenSettings files = doxygenSettings files' ↔ files = files') ∧
      ∃ value, Text.lines (doxygenSettings files).toList =
          (inputLead.toList ++ value) :: Text.lines otherSettings.toList ∧
        (∀ line ∈ Text.lines otherSettings.toList, ¬inputLead.toList <+: line) ∧
          quotedWords? none value = some (files.map String.toList) := by
  constructor
  · refine ⟨fun heq => ?_, fun heq => congrArg _ heq⟩
    have hread := congrArg inputNames? heq
    rw [inputNames?_doxygenSettings h, inputNames?_doxygenSettings h'] at hread
    exact Option.some.inj hread
  · refine ⟨quotedNames files, lines_doxygenSettings fun file hfile => (h file hfile).2, ?_,
      quotedWords?_quotedNames fun file hfile => (h file hfile).1⟩
    intro line hline hlead
    have hnone := List.filterMap_eq_nil_iff.1 filterMap_otherSettings line hline
    exact Text.dropLead?_eq_none_iff.1 hnone hlead

/-- Two files, the first with a name that would end its quotes and begin others. -/
def breakingNames : List String := ["a.h\" \"b.h", "my dir/c.h"]

theorem doxygenSettings_eq_iff_and_lists_breaking :
    (∀ file ∈ breakingNames, '\\' ∉ file.toList ∧ '\n' ∉ file.toList) ∧
      (∀ file ∈ ["a.h", "b.h", "my dir/c.h"], '\\' ∉ file.toList ∧ '\n' ∉ file.toList) ∧
        doxygenSettings breakingNames ≠ doxygenSettings ["a.h", "b.h", "my dir/c.h"] ∧
          ∃ value, Text.lines (doxygenSettings breakingNames).toList =
              (inputLead.toList ++ value) :: Text.lines otherSettings.toList ∧
            quotedWords? none value = some (breakingNames.map String.toList) := by
  have h : ∀ file ∈ breakingNames, '\\' ∉ file.toList ∧ '\n' ∉ file.toList := by decide
  have h' : ∀ file ∈ ["a.h", "b.h", "my dir/c.h"],
      '\\' ∉ file.toList ∧ '\n' ∉ file.toList := by decide
  obtain ⟨heq, value, hlines, -, hwords⟩ := doxygenSettings_eq_iff_and_lists h h'
  refine ⟨h, h', ?_, value, hlines, hwords⟩
  rw [Ne, heq]
  decide

/-! ## Calls -/

/-- The call that a plan makes. -/
def call? : Plan → Option World.Call
  | tool call _ _ => some call
  | check _ | refused _ => none

end Plan

namespace Options

/-- Whether a linter works with a tool. -/
def isExternal : Options → Bool
  | imports _ | whitespace _ | header _ => false
  | _ => true

/-- The command that calls the tool of a linter, if the settings tell it. -/
def command? : Options → Option String
  | cpplint o => some o.script
  | custom o => some o.command
  | _ => none

/-- A linter has a tool, and its command can be split if the settings tell it. -/
def Callable (o : Options) : Prop :=
  o.isExternal = true ∧ ∀ command ∈ o.command?, (Shell.Command.parse command).isOk = true

instance : DecidablePred Callable := fun _ => inferInstanceAs (Decidable (_ ∧ _))

/-- A call hands over some files, compared with a call that hands over none: the files
    are its last arguments, or what `doxygen` has to read lists them; all else is the
    same. -/
def Hands (o : Options) (bare call : World.Call) (files : List String) : Prop :=
  call.program = bare.program ∧
    match o with
    | doxygen => call.args = bare.args ∧ Plan.inputNames? call.input = some files
    | _ => call.args = bare.args ++ files ∧ call.input = bare.input

end Options

namespace Plan

variable {o : Options} {c : Context} {files : List String}

theorem call?_ofCommand {command : String} {args : List String}
    {accepts : Int → Bool} {read : ToolOutput → Except Failure (List Message)} :
    (ofCommand command args fun call => tool call accepts read).call? =
      (Shell.Command.parse command).toOption.map fun found =>
        { program := found.program, args := found.args ++ args } := by
  rw [ofCommand]
  cases Shell.Command.parse command <;> rfl

theorem isSome_call?_iff : (ofOptions o c files).call?.isSome = true ↔ o.Callable := by
  have hcommand : ∀ {command : String} {args : List String} {accepts : Int → Bool}
      {read : ToolOutput → Except Failure (List Message)},
      (ofCommand command args fun call => tool call accepts read).call?.isSome = true ↔
        (Shell.Command.parse command).isOk = true := by
    intro command args accepts read
    rw [call?_ofCommand]
    cases Shell.Command.parse command <;> simp [Except.toOption, Except.isOk, Except.toBool]
  cases o with
  | imports packages | whitespace width | header options =>
    simp [ofOptions, call?, Options.Callable, Options.isExternal]
  | cpplint options =>
    rw [ofOptions, cpplint, hcommand]
    simp [Options.Callable, Options.isExternal, Options.command?]
  | custom options =>
    rw [ofOptions, custom, hcommand]
    simp [Options.Callable, Options.isExternal, Options.command?]
  | flake8 config | pycodestyle config | pydocstyle config | pylint rcfile | black options
  | autopep8 options | yamllint config | cppcheck options | doxygen | rstLint =>
    exact iff_of_true rfl ⟨rfl, nofun⟩

/-- The call on some files is that on none, but for the files. -/
theorem exists_hands (h : ∀ file ∈ files, '\\' ∉ file.toList ∧ '\n' ∉ file.toList)
    {call : World.Call} (hcall : (ofOptions o c files).call? = some call) :
    ∃ bare, (ofOptions o c []).call? = some bare ∧ o.Hands bare call files := by
  cases o with
  | imports packages | whitespace width | header options => cases hcall
  | doxygen =>
    cases hcall
    exact ⟨_, rfl, rfl, rfl, inputNames?_doxygenSettings h⟩
  | cpplint options =>
    rw [ofOptions, cpplint, call?_ofCommand] at hcall
    obtain ⟨found, hfound, rfl⟩ := Option.map_eq_some_iff.1 hcall
    rw [ofOptions, cpplint, call?_ofCommand, hfound]
    refine ⟨_, rfl, rfl, ?_, rfl⟩
    simp [guarded]
  | custom options =>
    rw [ofOptions, custom, call?_ofCommand] at hcall
    obtain ⟨found, hfound, rfl⟩ := Option.map_eq_some_iff.1 hcall
    rw [ofOptions, custom, call?_ofCommand, hfound]
    refine ⟨_, rfl, rfl, ?_, rfl⟩
    simp
  | flake8 config | pycodestyle config | pydocstyle config | pylint rcfile | black options
  | autopep8 options | yamllint config | cppcheck options | rstLint =>
    cases hcall
    refine ⟨_, rfl, rfl, ?_, rfl⟩
    simp [guarded]

end Plan

end Lintscope

import Lintscope.Proofs.Check.Remarks
import Lintscope.Proofs.Git.Files
import Lintscope.Proofs.Output.Normal
import Lintscope.Proofs.Run.Accounting
import Lintscope.Proofs.Run.Narrowing

/-!
# Normal messages of linters

Whatever a linter does, if it succeeds, all of its messages are normal: those that it reads of a
tool, and the remarks of its own checks. The files that it was given are those of version control,
and these are canonical, too. So a path of a message and that of a file are the same already if
they only have the same canonical form, and no message is dropped for how its path is spelled
(`Run.allNormal_and_expects_iff`).
-/

namespace Lintscope

open Message

/-! ## Checks -/

namespace Check

theorem IsRemark.isNormal {file : String} {m : Message} (h : IsRemark file m) : m.IsNormal := by
  obtain ⟨line, column, text, rfl⟩ := h
  exact (IsNormal.about file line text).withColumn column

/-- A check that makes remarks on each file makes normal messages on all of them. -/
theorem allNormal_files (w : World) {names : List String} {check : String → List Message}
    (h : ∀ name, ∀ m ∈ check name, IsRemark name m) : AllNormal (files w names check) := by
  intro ms hms m hm
  rw [files] at hms
  split at hms
  · cases hms
  · cases hms
    obtain ⟨name, -, hname⟩ := List.mem_flatMap.1 hm
    exact (h name m hname).isNormal

end Check

/-! ## Plans -/

namespace Plan

variable {w : World} {c : Context}

theorem allNormal_outcome_tool {call : World.Call} {accepts : Int → Bool}
    {read : ToolOutput → Except Failure (List Message)} (h : ∀ out, AllNormal (read out)) :
    AllNormal ((tool call accepts read).outcome w c) := by
  intro ms hms
  obtain ⟨out, -, hout⟩ := bind_eq_ok_iff.1 hms
  exact h out ms hout

theorem allNormal_outcome_ofCommand {command : String} {args : List String}
    {make : World.Call → Plan} (h : ∀ call, AllNormal ((make call).outcome w c)) :
    AllNormal ((ofCommand command args make).outcome w c) := by
  rw [ofCommand]
  split
  · exact h _
  · nofun

theorem allNormal_fromStdout {read : List Char → Output} (h : ∀ s, (read s).IsNormal)
    (out : ToolOutput) : AllNormal (fromStdout read out) :=
  (h _).require _

theorem allNormal_readCpplint (out : ToolOutput) : AllNormal (readCpplint out) := by
  rw [readCpplint]
  split
  · nofun
  · exact (Output.isNormal_ofLocations (fun _ s h => Output.isNormal_withCategory h s) _).require _

end Plan

/-! ## Linters -/

theorem Options.allNormal_outcome (o : Options) (c : Context) (files : List String) (w : World) :
    AllNormal ((Plan.ofOptions o c files).outcome w c) := by
  cases o with
  | flake8 config | pycodestyle config =>
    exact Plan.allNormal_outcome_tool <| Plan.allNormal_fromStdout <|
      Output.isNormal_ofLocations fun _ s h => Output.isNormal_withLeadingCode h s
  | pydocstyle config =>
    exact Plan.allNormal_outcome_tool <| Plan.allNormal_fromStdout fun s =>
      Output.isNormal_ofPairs _
  | pylint rcfile =>
    exact Plan.allNormal_outcome_tool fun out => Output.allNormal_pylintMessages out.stdout
  | black options | autopep8 options =>
    exact Plan.allNormal_outcome_tool fun out => Output.allNormal_reformats _ _ out.stdout
  | yamllint config =>
    exact Plan.allNormal_outcome_tool <| Plan.allNormal_fromStdout <|
      Output.isNormal_ofLocations fun _ s h => Output.isNormal_withLevel h s
  | cppcheck options =>
    refine Plan.allNormal_outcome_tool fun out ms hms => ?_
    exact Except.ok.inj hms ▸ Output.isNormal_of_mem_templatedMessages _
  | cpplint options =>
    rw [Plan.ofOptions, Plan.cpplint]
    exact Plan.allNormal_outcome_ofCommand fun call =>
      Plan.allNormal_outcome_tool Plan.allNormal_readCpplint
  | doxygen =>
    refine Plan.allNormal_outcome_tool fun out ms hms => ?_
    exact Except.ok.inj hms ▸ Output.isNormal_of_mem_markedMessages c.root _
  | rstLint => exact Plan.allNormal_outcome_tool fun out => Output.allNormal_rstMessages out.stdout
  | custom options =>
    rw [Plan.ofOptions, Plan.custom]
    exact Plan.allNormal_outcome_ofCommand fun call => Plan.allNormal_outcome_tool fun out =>
      (Output.isNormal_ofPattern options.pattern _).require _
  | whitespace tabWidth =>
    exact Check.allNormal_files w (Check.Whitespace.isRemark_of_mem_ofFile w c.root)
  | imports packages =>
    change AllNormal (Check.Imports.run w c.root packages files)
    rw [Check.Imports.run]
    split
    · rintro _ ⟨⟩ m hm
      cases hm
    · exact Check.allNormal_files w (Check.Imports.isRemark_of_mem_ofFile w c.root packages)
  | header options =>
    intro ms hms
    obtain ⟨header, -, hfiles⟩ := bind_eq_ok_iff.1 hms
    exact Check.allNormal_files w
      (Check.Header.isRemark_of_mem_ofFile options w c.root header) ms hfiles

/-! ## Runs -/

namespace Run

variable {r : Run} {w : World} {index : Option Diff.Index} {files : List String} {o : Outcome}

/-- The messages of an outcome are normal, or it is a failure, and the one message is about no
    file. -/
theorem isNormal_or_of_mem_outcomes (ho : o ∈ r.outcomes w index files) :
    ∀ m ∈ o.messages, m.IsNormal ∨ m.path = none := by
  obtain ⟨⟨t, own⟩, -, rfl⟩ := List.mem_map.1 ho
  have hnormal := Options.allNormal_outcome t.options (r.context t) own w
  simp only [Outcome.messages, outcome]
  split
  · next ms hms => exact fun m hm => .inl (hnormal ms hms m hm)
  · exact List.forall_mem_singleton.2 (.inr rfl)

/-- If a linter succeeds, its messages are normal, whichever it is, whatever its options are,
    whatever files it is given, and whatever it finds there and its tool writes. In a run, a message
    is expected if its path is that of a file which the linter was given, up to the spelling. -/
theorem allNormal_and_expects_iff :
    (∀ (o : Options) (c : Context) (files : List String) (w : World) (log : List World.Launch),
      AllNormal (((Plan.ofOptions o c files).perform w c).run.run log).1) ∧
    ∀ (r : Run) (w : World) (index : Option Diff.Index) (files : List String),
      (Git.files w r.root).result = .ok files →
        ∀ o ∈ r.outcomes w index files, ∀ m ∈ o.messages,
          (o.expects m = true ↔
            ∀ path ∈ m.path, ∃ file ∈ o.files, Path.canonical file = Path.canonical path) := by
  refine ⟨fun o c files w log => ?_, fun r w index files hfiles o ho m hm => ?_⟩
  · rw [(Plan.gives_perform w c _).fst_run, (Plan.gives_perform w c _).result_eq]
    exact o.allNormal_outcome c files w
  · rcases isNormal_or_of_mem_outcomes ho m hm with hnormal | hnone
    · obtain ⟨path, hpath, hcanonical⟩ := hnormal.path
      have hsame : ∀ file ∈ o.files, Path.canonical file = Path.canonical path ↔ file = path := by
        intro file hfile
        have hmem := mem_of_mem_candidates (mem_candidates_of_mem_outcomes ho file hfile)
        rw [Path.canonical_eq_self_iff.2 hcanonical, Git.canonical_of_mem_files hfiles file hmem]
      rw [Outcome.expects, hpath, Option.all_some, decide_eq_true_iff]
      simp only [Option.mem_some_iff, forall_eq']
      refine ⟨fun hmem => ⟨path, hmem, rfl⟩, ?_⟩
      rintro ⟨file, hfile, heq⟩
      exact (hsame file hfile).1 heq ▸ hfile
    · rw [Outcome.expects, hnone]
      exact iff_of_true rfl fun path h => absurd h (Option.not_mem_none path)

/-- A repository with a file, and a linter that spells the path in another way, and writes zeros for
    no place. -/
def spellingWorld : World where
  tree := ⟨[(["src", "a.py"], .file [])]⟩
  program?
    | "git" => some fun args _ =>
      .ends (.code 0) (Utf8.encode (if "--cached" ∈ args then "src/a.py\n".toList else [])) []
    | "flake8" => some fun _ _ =>
      .ends (.code 1) (Utf8.encode "././src\\a.py:0:0: E902 no such thing\n".toList) []
    | _ => none

/-- A run about all messages on that repository. -/
def spellingRun : Run where
  root := "/"
  commonFilter := .all
  failOn := .error
  tasks := [⟨"flake8", .all, none, .flake8 none⟩]
  request := .everything
  jobs := 1

/-- The message of the linter. -/
def spelled : Message :=
  { path := some "src/a.py", line := none, code := some "E902", text := "no such thing" }

/-- The message is normal, and expected. -/
theorem allNormal_and_expects_iff_spelled :
    spelled.IsNormal ∧ ∃ o ∈ spellingRun.outcomes spellingWorld none ["src/a.py"],
      o.messages = [spelled] ∧ o.expects spelled = true := by
  have hperform : (((Plan.ofOptions (.flake8 none) { root := "/" } ["src/a.py"]).perform
      spellingWorld { root := "/" }).run.run []).1 = .ok [spelled] := rfl
  have hfiles : (Git.files spellingWorld spellingRun.root).result = .ok ["src/a.py"] := rfl
  have hone : spellingRun.outcomes spellingWorld none ["src/a.py"] =
      [⟨⟨"flake8", .all, none, .flake8 none⟩, ["src/a.py"], .ok [spelled]⟩] := rfl
  refine ⟨allNormal_and_expects_iff.1 _ _ _ _ _ _ hperform _ (List.mem_singleton_self _),
    _, hone ▸ List.mem_singleton_self _, rfl, ?_⟩
  refine (allNormal_and_expects_iff.2 _ _ _ _ hfiles _ (hone ▸ List.mem_singleton_self _) _
    (List.mem_singleton_self _)).2 fun path hpath => ⟨path, ?_, rfl⟩
  exact Option.some.inj hpath ▸ List.mem_singleton_self _

end Run

end Lintscope

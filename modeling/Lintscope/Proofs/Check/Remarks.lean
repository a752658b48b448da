import Lintscope.Proofs.Order.Filtered
import Lintscope.Proofs.Run.Ending

/-!
# What a check says of a file

A linter that does a check of its own says something of each file by itself
(`Options.outcome_ofOptions`), whatever other files it is given, and all that it
says of a file is about that file (`Options.path_of_mem_remarks`).
-/

namespace Lintscope

namespace Check

/-- A message about a file, perhaps with a place in it. -/
def IsRemark (file : String) (m : Message) : Prop :=
  ∃ line column text, m = (Message.about file line text).withColumn column

theorem isRemark_about (file : String) (line : Option Nat) (text : String) :
    IsRemark file (.about file line text) :=
  ⟨line, none, text, rfl⟩

theorem IsRemark.path {file : String} {m : Message} (h : IsRemark file m) :
    m.path = some (Path.canonical file) := by
  obtain ⟨line, column, text, rfl⟩ := h
  rfl

theorem isRemark_of_mem_ofContent {content : Except Message String}
    {check : String → List Message} {file : String}
    (hc : ∀ e, content = .error e → IsRemark file e)
    (h : ∀ s, ∀ m ∈ check s, IsRemark file m) :
    ∀ m ∈ ofContent content check, IsRemark file m := by
  intro m hm
  cases content with
  | ok s => exact h s m hm
  | error e =>
    rw [List.mem_singleton.1 hm]
    exact hc e rfl

section

variable {w : World} {root file : String} {m : Message}

theorem isRemark_of_text_eq_error (h : text w root file = .error m) : IsRemark file m := by
  rw [text] at h
  split at h
  · cases h
    exact isRemark_about ..
  · split at h
    · cases h
      exact isRemark_about ..
    · cases h

theorem isRemark_of_plainText_eq_error (h : plainText w root file = .error m) :
    IsRemark file m := by
  rw [plainText] at h
  cases hr : w.readText (Path.join root file) with
  | ok s =>
    rw [hr] at h
    cases h
  | error e =>
    rw [hr] at h
    cases h
    exact isRemark_about ..

end

theorem files_of_not_cancelled {w : World} (hw : w.cancelled = false) (names : List String)
    (check : String → List Message) : files w names check = .ok (names.flatMap check) := by
  rw [files, if_neg]
  simp [hw]

namespace Whitespace

theorem isRemark_of_mem_ofLines (path : String) (number : Nat) (lines : List (List Char)) :
    ∀ m ∈ ofLines path number lines, IsRemark path m := by
  induction lines generalizing number with
  | nil => simp [ofLines]
  | cons line rest ih =>
    rw [ofLines, List.forall_mem_append]
    refine ⟨List.forall_mem_map.2 fun d _ => ?_, ih (number + 1)⟩
    exact ⟨some (number + 1), d.2.map (· + 1), d.1.text, rfl⟩

theorem isRemark_of_mem_ofFile (w : World) (root name : String) :
    ∀ m ∈ ofContent (text w root name) (ofText name), IsRemark name m :=
  isRemark_of_mem_ofContent (fun _ => isRemark_of_text_eq_error)
    fun _ => isRemark_of_mem_ofLines name 0 _

end Whitespace

namespace Imports

theorem isRemark_of_mem_ofText (packages : List String) (path content : String) :
    ∀ m ∈ ofText packages path content, IsRemark path m := by
  intro m hm
  obtain ⟨⟨line, number⟩, -, hm⟩ := List.mem_flatMap.1 hm
  obtain ⟨package, -, rfl⟩ := List.mem_map.1 hm
  exact isRemark_about ..

theorem isRemark_of_mem_ofFile (w : World) (root : String) (packages : List String)
    (name : String) :
    ∀ m ∈ ofContent (plainText w root name) (ofText packages name), IsRemark name m :=
  isRemark_of_mem_ofContent (fun _ => isRemark_of_plainText_eq_error)
    (isRemark_of_mem_ofText packages name)

end Imports

namespace Header

theorem isRemark_of_mem_differences (path : String) (number : Nat)
    (wanted found : List (List Char)) :
    ∀ m ∈ differences path number wanted found, IsRemark path m := by
  induction wanted generalizing number found with
  | nil => simp [differences]
  | cons w ws ih =>
    cases found with
    | nil => simp [differences]
    | cons f fs =>
      rw [differences]
      split
      · exact ih (number + 1) fs
      · rw [List.forall_mem_cons]
        exact ⟨isRemark_about .., ih (number + 1) fs⟩

theorem isRemark_of_mem_ofText (o : HeaderOptions) (header path content : String) :
    ∀ m ∈ ofText o header path content, IsRemark path m := by
  rw [ofText]
  split
  · simp
  · rw [List.forall_mem_append]
    refine ⟨isRemark_of_mem_differences path 1 _ _, ?_⟩
    split
    · rw [List.forall_mem_singleton]
      exact isRemark_about ..
    · simp

theorem isRemark_of_mem_ofFile (o : HeaderOptions) (w : World) (root header name : String) :
    ∀ m ∈ ofContent (text w root name) (ofText o header name), IsRemark name m :=
  isRemark_of_mem_ofContent (fun _ => isRemark_of_text_eq_error)
    (isRemark_of_mem_ofText o header name)

end Header

end Check

namespace Options

open Check

variable (w : World) (root : String) (o : Options)

/-- The linter does a check of its own, and the header that it looks for, if it
    looks for one, can be read. -/
def IsCheck : Prop :=
  match o with
  | imports _ | whitespace _ => True
  | header o => ∃ wanted, w.readText (Path.join root o.header) = .ok wanted
  | _ => False

/-- What the check says of a file. -/
def remarks (name : String) : List Message :=
  match o with
  | imports packages =>
    if packages = [] ∨ Imports.makesPackage name then []
    else ofContent (plainText w root name) (Imports.ofText packages name)
  | whitespace _ => ofContent (text w root name) (Whitespace.ofText name)
  | header o =>
    match w.readText (Path.join root o.header) with
    | .ok wanted => ofContent (text w root name) (Header.ofText o wanted name)
    | .error _ => []
  | _ => []

theorem isRemark_of_mem_remarks (name : String) :
    ∀ m ∈ o.remarks w root name, IsRemark name m := by
  cases o with
  | imports packages =>
    rw [remarks]
    split
    · simp
    · exact Imports.isRemark_of_mem_ofFile w root packages name
  | whitespace tabWidth => exact Whitespace.isRemark_of_mem_ofFile w root name
  | header o =>
    rw [remarks]
    split
    · exact Header.isRemark_of_mem_ofFile o w root _ name
    · simp
  | _ => simp [remarks]

/-- All that a check says of a file is about that file. -/
theorem path_of_mem_remarks (name : String) :
    ∀ m ∈ o.remarks w root name, m.path = some (Path.canonical name) :=
  fun m hm => (isRemark_of_mem_remarks w root o name m hm).path

/-- A check says of some files what it says of each of them. -/
theorem outcome_ofOptions {w : World} {o : Options} {c : Context} (ho : o.IsCheck w c.root)
    (hw : w.cancelled = false) (files : List String) :
    (Plan.ofOptions o c files).outcome w c = .ok (files.flatMap (o.remarks w c.root)) := by
  cases o with
  | imports packages =>
    change Imports.run w c.root packages files = _
    rw [Imports.run]
    split
    · next hp => simp [remarks, hp]
    · next hp =>
      rw [files_of_not_cancelled hw]
      -- Of a file that makes a package nothing would be said.
      refine congrArg Except.ok (Filtered.flatMap_filter_eq ?_ ?_)
      · intro name _ hname
        simp only [Bool.not_eq_true'] at hname
        simp [remarks, hp, hname]
      · intro name _ hname
        simp only [Bool.not_eq_false'] at hname
        simp [remarks, hname]
  | whitespace tabWidth => exact files_of_not_cancelled hw files _
  | header o =>
    obtain ⟨wanted, hwanted⟩ := ho
    have hremarks : (header o).remarks w c.root =
        fun name => ofContent (text w c.root name) (Header.ofText o wanted name) := by
      funext name
      simp only [remarks, hwanted]
    change Header.run o w c.root files = _
    rw [Header.run, hwanted, hremarks]
    exact files_of_not_cancelled hw files _
  | _ => exact ho.elim

end Options

end Lintscope

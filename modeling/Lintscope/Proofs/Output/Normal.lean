import Lintscope.Output.Coded
import Lintscope.Output.Marked
import Lintscope.Output.Matched
import Lintscope.Output.Paired
import Lintscope.Output.Record
import Lintscope.Output.Reformat
import Lintscope.Proofs.Except
import Lintscope.Proofs.Message
import Lintscope.Proofs.Output.Template

/-!
# Normal messages of tools

However the output of a tool is read, all messages that are read of it are normal, whatever the
tool has written (`Output.IsNormal`, `Message.AllNormal`): each reader starts from a message about
a file, and only puts something in.
-/

namespace Lintscope.Output

open Message Text

/-- All messages that are read of an output are normal. -/
def IsNormal (o : Output) : Prop := ∀ m ∈ o.messages, m.IsNormal

theorem IsNormal.require {o : Output} (h : o.IsNormal) (claims : Bool) :
    AllNormal (o.require claims) := by
  intro ms hms
  rw [Output.require] at hms
  split at hms
  · cases claims <;> cases hms
    nofun
  · exact Except.ok.inj hms ▸ h

/-! ## Lines -/

theorem isNormal_ofLines {read? : List Char → Option Message}
    (h : ∀ line m, read? line = some m → m.IsNormal) (s : List Char) :
    (ofLines read? s).IsNormal := by
  intro m hm
  obtain ⟨line, -, hline⟩ := List.mem_filterMap.1 hm
  exact h line m hline

/-- What is said about a location is put into a normal message. -/
theorem isNormal_ofLocations {finish : Message → List Char → Message}
    (h : ∀ m s, m.IsNormal → (finish m s).IsNormal) (s : List Char) :
    (ofLocations finish s).IsNormal := by
  refine isNormal_ofLines (fun line m hm => ?_) s
  obtain ⟨l, -, rfl⟩ := Option.map_eq_some_iff.1 hm
  exact h _ _ ((IsNormal.about ..).withColumn l.column)

section

variable {m : Message} (h : m.IsNormal) (s : List Char)
include h

theorem isNormal_withLeadingCode : (withLeadingCode m s).IsNormal := by
  rw [withLeadingCode]
  dsimp only
  split
  · exact (h.withText _).withCode _
  · exact h.withText _

theorem isNormal_withCategory : (withCategory m s).IsNormal := by
  rw [withCategory]
  split
  · exact (h.withText _).withCode _
  · exact h.withText _

theorem isNormal_withLevel : (withLevel m s).IsNormal :=
  ((h.withText _).withSeverity _).withCode _

theorem isNormal_withLeadingSeverity : (withLeadingSeverity m s).IsNormal :=
  (h.withText _).withSeverity _

end

theorem isNormal_of_mem_markedMessages (root : String) (s : List Char) :
    ∀ m ∈ markedMessages root s, m.IsNormal :=
  isNormal_ofLocations (fun _ s h => isNormal_withLeadingSeverity h s) _

theorem isNormal_of_mem_templatedMessages (s : List Char) :
    ∀ m ∈ templatedMessages s, m.IsNormal := by
  intro m hm
  obtain ⟨line, -, hline⟩ := List.mem_filterMap.1 hm
  obtain ⟨path, digits, severity, code, text, -, -, rfl⟩ := templated?_eq_some_iff.1 hline
  exact ((IsNormal.about ..).withSeverity _).withCode _

/-! ## Pairs of lines -/

theorem isNormal_ofPair (path : List Char) (line : Option Nat) (detail : List Char) :
    (ofPair path line detail).IsNormal := by
  rw [ofPair]
  split
  · exact (IsNormal.about ..).withCode _
  · exact IsNormal.about ..

theorem isNormal_ofPairs (ls : List (List Char)) : (ofPairs ls).IsNormal := by
  fun_induction ofPairs ls with
  | case1 => nofun
  | case2 first path line detail rest _ o ih =>
    exact List.forall_mem_cons.2 ⟨isNormal_ofPair path line detail, ih⟩
  | case3 => nofun
  | case4 first rest _ o ih => exact ih

/-! ## Patterns -/

theorem isNormal_of_ofMatch {found : Regex.Match} {m : Message} (h : ofMatch found = some m) :
    m.IsNormal := by
  simp only [ofMatch, Option.bind_eq_bind, Option.bind_eq_some_iff, Option.guard_eq_some',
    exists_const] at h
  obtain ⟨path, -, -, h⟩ := h
  have hm := (((IsNormal.about (.ofList (trim path)) (partNumber? found "line")
    (part found "text")).withLineEnd (partNumber? found "line_end")).withColumn
      (partNumber? found "column")).withCode (part found "code")
  split at h
  · cases h
    exact hm.withSeverity _
  · cases h
    exact hm

theorem isNormal_ofPattern (p : OutputPattern) (s : List Char) : (ofPattern p s).IsNormal := by
  refine isNormal_ofLines (fun line m hm => ?_) s
  obtain ⟨found, -, hfound⟩ := Option.bind_eq_some_iff.1 hm
  exact isNormal_of_ofMatch hfound

/-! ## Records -/

theorem PylintRecord.isNormal_message {r : PylintRecord} {m : Message} (h : r.message = .ok m) :
    m.IsNormal := by
  rw [PylintRecord.message] at h
  split at h
  · cases h
    exact ((((IsNormal.about ..).withColumn _).withLineEnd _).withSeverity _).withCode _
  · cases h

theorem allNormal_pylintMessages (output : String) : AllNormal (pylintMessages output) := by
  intro ms hms m hm
  obtain ⟨rs, -, hrs⟩ := bind_eq_ok_iff.1 hms
  obtain ⟨r, -, hr⟩ := exists_of_mem_of_mapM_eq_ok hrs m hm
  exact PylintRecord.isNormal_message hr

theorem RstRecord.isNormal_message (r : RstRecord) : r.message.IsNormal :=
  (IsNormal.about ..).withSeverity _

theorem allNormal_rstMessages (output : String) : AllNormal (rstMessages output) := by
  intro ms hms
  obtain ⟨rs, -, hrs⟩ := bind_eq_ok_iff.1 hms
  cases hrs
  exact List.forall_mem_map.2 fun r _ => r.isNormal_message

/-! ## Diffs -/

theorem allNormal_reformatsOf (tool directory : String) (f : Diff.FileChange) :
    AllNormal (reformatsOf tool directory f) := by
  intro ms hms m hm
  rw [reformatsOf] at hms
  split at hms
  · obtain ⟨span, -, hspan⟩ := exists_of_mem_of_mapM_eq_ok hms m hm
    split at hspan
    · cases hspan
      exact (IsNormal.about ..).withLineEnd _
    · cases hspan
  · cases hms
    cases hm

theorem allNormal_reformats (tool directory diff : String) :
    AllNormal (reformats tool directory diff) := by
  intro ms hms m hm
  obtain ⟨files, -, hfiles⟩ := bind_eq_ok_iff.1 hms
  obtain ⟨mss, hmss, hflatten⟩ := bind_eq_ok_iff.1 hfiles
  cases hflatten
  obtain ⟨ms, hms, hm⟩ := List.mem_flatten.1 hm
  obtain ⟨f, -, hf⟩ := exists_of_mem_of_mapM_eq_ok hmss ms hms
  exact allNormal_reformatsOf tool directory f ms hf m hm

end Lintscope.Output

import Lintscope.Proofs.Json.RoundTrip
import Lintscope.Report.Json

/-!
# What a report says as JSON

A report is told by its text (`Report.parse_print_toJson`): the text is JSON, and what is
found in it under the names of the fields is the report (`Report.ofJson?`), whatever
characters its strings have, and whichever of its fields are absent. No two fields of an
entry go by the same name, though those of its message stand among its own.

Under the name of a field that may be absent, nothing is found, or null, or a value of
the field; so it does not matter to the reading which fields are left out and which are
null.
-/

namespace Lintscope

/-! ## Reading fields -/

namespace Json

variable {α : Type}

/-- What an object says under a name. -/
def member? (name : String) : Json → Option Json
  | obj members => members.lookup name
  | _ => none

/-- The string that a value is. -/
def text? : Json → Option String
  | str s => some s
  | _ => none

/-- The number that a value is. -/
def nat? : Json → Option Nat
  | int (.ofNat n) => some n
  | _ => none

/-- The truth value that a value is. -/
def flag? : Json → Option Bool
  | bool b => some b
  | _ => none

/-- The items of a list. -/
def items? : Json → Option (List Json)
  | arr items => some items
  | _ => none

/-- What is said under a name, if anything is. -/
def absentOr (read : Json → Option α) : Option Json → Option (Option α)
  | none | some null => some none
  | some v => (read v).map some

/-- A reader undoes a writer, which never writes null. -/
def Undoes (read : Json → Option α) (write : α → Json) : Prop :=
  ∀ a, read (write a) = some a ∧ write a ≠ null

theorem undoes_text : Undoes text? .str := fun _ => ⟨rfl, nofun⟩

theorem undoes_nat : Undoes nat? .nat := fun _ => ⟨rfl, nofun⟩

variable {read : Json → Option α} {write : α → Json} (h : Undoes read write)
include h

theorem absentOr_map (a : Option α) : absentOr read (a.map write) = some a := by
  rcases a with _ | a
  · rfl
  · obtain ⟨hread, hnull⟩ := h a
    rw [Option.map_some, absentOr, hread, Option.map_some]
    exact hnull

theorem absentOr_ofOption (a : Option α) : absentOr read (some (ofOption write a)) = some a := by
  rcases a with _ | a
  · rfl
  · exact absentOr_map h (some a)

theorem mapM_map_eq_some (l : List α) : (l.map write).mapM read = some l := by
  induction l with
  | nil => rfl
  | cons a l ih => rw [List.map_cons, List.mapM_cons, (h a).1, ih]; rfl

end Json

/-! ## What is found in a report -/

/-- The mode with a name. -/
def ReportMode.ofName? : String → Option ReportMode
  | "full" => some full
  | "changed_lines" => some changedLines
  | _ => none

/-- The message that an object tells of. -/
def Message.ofJson? (v : Json) : Option Message := do
  let path ← Json.absentOr Json.text? (v.member? "path")
  let line ← Json.absentOr Json.nat? (v.member? "line")
  let lineEnd ← Json.absentOr Json.nat? (v.member? "line_end")
  let column ← Json.absentOr Json.nat? (v.member? "column")
  let severity ← (← v.member? "severity").text? >>= Severity.ofName?
  let code ← Json.absentOr Json.text? (v.member? "code")
  let text ← (← v.member? "text").text?
  return { path, line, lineEnd, column, severity, code, text }

/-- The entry that an object tells of. -/
def Entry.ofJson? (v : Json) : Option Entry := do
  let linter ← (← v.member? "linter").text?
  let inScope ← (← v.member? "in_scope").flag?
  let message ← Message.ofJson? v
  return { linter, inScope, message }

/-- The report that an object tells of. -/
def Report.ofJson? (v : Json) : Option Report := do
  let mode ← (← v.member? "mode").text? >>= ReportMode.ofName?
  let failOn ← (← v.member? "fail_on").text? >>= Severity.ofName?
  let linters ← (← (← v.member? "linters").items?).mapM Json.text?
  let warnings ← (← (← v.member? "warnings").items?).mapM Json.text?
  let dropped ← (← v.member? "dropped").nat?
  let entries ← (← (← v.member? "entries").items?).mapM Entry.ofJson?
  return { mode, failOn, linters, warnings, dropped, entries }

theorem ReportMode.ofName?_name (m : ReportMode) : ofName? m.name = some m := by
  cases m <;> rfl

theorem Severity.ofName?_name (s : Severity) : ofName? s.name = some s := by
  cases s <;> rfl

/-- A member that may be left out is found under its own name only. -/
theorem Json.lookup_optional_append {α : Type} (key name : String) (write : α → Json)
    (a : Option α) (ms : List (String × Json)) :
    (optional name write a ++ ms).lookup key =
      if key = name then (a.map write).or (ms.lookup key) else ms.lookup key := by
  rcases a with _ | a
  · simp [optional]
  · by_cases h : key = name
    · simp [optional, h]
    · simp [optional, h, List.lookup_cons, beq_false_of_ne h]

section

open Json

theorem Entry.ofJson?_toJson (e : Entry) : ofJson? e.toJson = some e := by
  simp [ofJson?, Message.ofJson?, toJson, Message.members, member?, lookup_optional_append,
    List.lookup_cons, absentOr_ofOption undoes_text, absentOr_ofOption undoes_nat,
    absentOr_map undoes_nat, absentOr_map undoes_text, text?, flag?, Severity.ofName?_name]

theorem undoes_entry : Undoes Entry.ofJson? Entry.toJson := fun e => ⟨e.ofJson?_toJson, nofun⟩

theorem Report.ofJson?_toJson (r : Report) : ofJson? r.toJson = some r := by
  simp [ofJson?, toJson, member?, List.lookup_cons, text?, nat?, Json.nat, items?,
    mapM_map_eq_some undoes_text, mapM_map_eq_some undoes_entry, ReportMode.ofName?_name,
    Severity.ofName?_name]

end

/-! ## Names -/

theorem Json.map_fst_optional_sublist {α : Type} (name : String) (write : α → Json)
    (a : Option α) : ((optional name write a).map Prod.fst).Sublist [name] := by
  rcases a with _ | a
  · exact List.nil_sublist _
  · exact List.Sublist.refl _

/-- The names of an entry's fields are those of its own and of its message, each once. -/
theorem Entry.nodup_names (e : Entry) :
    ∃ members, e.toJson = .obj members ∧ (members.map Prod.fst).Nodup := by
  have hsublist : (e.message.members.map Prod.fst).Sublist
      ["path", "line", "line_end", "column", "severity", "code", "text"] := by
    simp only [Message.members, List.map_append]
    exact (((((List.Sublist.refl ["path", "line"]).append
      (Json.map_fst_optional_sublist "line_end" _ _)).append
        (Json.map_fst_optional_sublist "column" _ _)).append (.refl ["severity"])).append
          (Json.map_fst_optional_sublist "code" _ _)).append (.refl ["text"])
  refine ⟨_, rfl, ?_⟩
  have hnodup : ["linter", "in_scope", "path", "line", "line_end", "column", "severity", "code",
      "text"].Nodup := by decide
  exact hnodup.sublist ((hsublist.cons_cons "in_scope").cons_cons "linter")

/-! ## Reading the text -/

/-- The numbers of a message fit 64 bits. -/
structure Message.Fits (m : Message) : Prop where
  line : ∀ n ∈ m.line, n < Text.limit64
  lineEnd : ∀ n ∈ m.lineEnd, n < Text.limit64
  column : ∀ n ∈ m.column, n < Text.limit64

/-- The numbers of a report fit 64 bits. -/
structure Report.Fits (r : Report) : Prop where
  dropped : r.dropped < Text.limit64
  messages : ∀ e ∈ r.entries, e.message.Fits

namespace Json

variable {α : Type} {depth : Nat} {write : α → Json} {a : Option α}

theorem readable_nat {n : Nat} (h : n < Text.limit64) : Readable (depth + 1) (.nat n) :=
  .int depth ⟨by omega, Int.ofNat_lt.2 h⟩

variable (h : ∀ b ∈ a, Readable (depth + 1) (write b))
include h

theorem readable_ofOption : Readable (depth + 1) (ofOption write a) := by
  rcases a with _ | b
  · exact .null depth
  · exact h b rfl

theorem readable_of_mem_optional (name : String) :
    ∀ m ∈ optional name write a, Readable (depth + 1) m.2 := by
  rcases a with _ | b
  · nofun
  · exact List.forall_mem_singleton.2 (h b rfl)

end Json

section

open Json

theorem Entry.readable_toJson {e : Entry} (h : e.message.Fits) (depth : Nat) :
    Readable (depth + 2) e.toJson := by
  have htext : ∀ {a : Option String}, ∀ s ∈ a, Readable (depth + 1) (.str s) :=
    fun s _ => .str depth s
  refine .obj ?_
  simp only [Message.members, List.forall_mem_append, List.forall_mem_cons, List.not_mem_nil,
    false_imp_iff, implies_true, and_true]
  refine ⟨⟨.str _ _, .bool _ _⟩, ⟨⟨⟨⟨⟨readable_ofOption htext, ?_⟩, ?_⟩, ?_⟩, .str _ _⟩, ?_⟩, .str _ _⟩
  · exact readable_ofOption fun n hn => readable_nat (h.line n hn)
  · exact readable_of_mem_optional (fun n hn => readable_nat (h.lineEnd n hn)) _
  · exact readable_of_mem_optional (fun n hn => readable_nat (h.column n hn)) _
  · exact readable_of_mem_optional htext _

theorem Report.readable_toJson {r : Report} (h : r.Fits) (depth : Nat) :
    Readable (depth + 4) r.toJson := by
  have htexts : ∀ texts : List String, Readable (depth + 3) (.arr (texts.map .str)) :=
    fun texts => .arr (List.forall_mem_map.2 fun s _ => .str _ s)
  have hentries : Readable (depth + 3) (.arr (r.entries.map Entry.toJson)) :=
    .arr (List.forall_mem_map.2 fun e he => Entry.readable_toJson (h.messages e he) depth)
  refine .obj ?_
  simp only [List.forall_mem_cons, List.not_mem_nil, false_imp_iff, implies_true, and_true]
  exact ⟨.str _ _, .str _ _, htexts _, htexts _, readable_nat h.dropped, hentries⟩

end

namespace Report

/-- The text of a report is JSON, and what is found in it under the names of the fields is
    the report: its mode and threshold, its linters and warnings, the number of messages that
    were dropped, and its entries in their order with all that their messages say, where a
    field that is left out says nothing. No other report has that text, and no two fields of
    an entry have the same name. -/
theorem parse_print_toJson {r : Report} (h : r.Fits) :
    Json.parse r.toJson.print = .ok r.toJson ∧ ofJson? r.toJson = some r ∧
      (∀ r' : Report, r'.Fits → r'.toJson.print = r.toJson.print → r' = r) ∧
      ∀ e ∈ r.entries, ∃ members, e.toJson = .obj members ∧ (members.map Prod.fst).Nodup := by
  have hreadable : ∀ {r : Report}, r.Fits → Json.Readable 128 r.toJson :=
    fun h => readable_toJson h 124
  refine ⟨Json.parse_print (hreadable h), r.ofJson?_toJson, fun r' h' hprint => ?_,
    fun e _ => e.nodup_names⟩
  have hjson := Json.eq_of_print_eq (hreadable h') (hreadable h) hprint
  exact Option.some.inj (r'.ofJson?_toJson.symm.trans (by rw [hjson, ofJson?_toJson]))

/-- A report with characters that are escaped and with others that are not, where each
    field that may be absent is so once. -/
def escapedReport : Report where
  mode := .changedLines
  failOn := .warning
  linters := ["\"quoted\"", "\x00\x08\x0c\x1f"]
  warnings := ["a\\b\n\r\t\x7f\u2028"]
  dropped := 2
  entries := [⟨"", true, ⟨some "é.py", some 3, none, some 1, .error, none, "\\u0041"⟩⟩,
    ⟨"null", false, ⟨none, none, some 4, none, .info, some "E1", "\\\""⟩⟩]

theorem parse_print_toJson_escaped :
    escapedReport.Fits ∧
      Json.parse escapedReport.toJson.print = .ok escapedReport.toJson ∧
        ofJson? escapedReport.toJson = some escapedReport := by
  have hfits : ∀ {a : Option Nat}, a.all (· < Text.limit64) → ∀ n ∈ a, n < Text.limit64 := by
    rintro _ h n rfl
    exact of_decide_eq_true h
  have h : escapedReport.Fits := by
    refine ⟨by decide, List.forall_mem_cons.2 ⟨?_, List.forall_mem_singleton.2 ?_⟩⟩
    · exact ⟨hfits rfl, hfits rfl, hfits rfl⟩
    · exact ⟨hfits rfl, hfits rfl, hfits rfl⟩
  obtain ⟨hparse, hread, -⟩ := parse_print_toJson h
  exact ⟨h, hparse, hread⟩

end Report

end Lintscope

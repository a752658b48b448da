import Lintscope.Output.Template
import Lintscope.Proofs.Output.Location
import Lintscope.Proofs.Path

/-!
# Problems after a template

`cppcheck` is given a template (`template`), and fills in its holes for each problem. What it is
given and what is read belong together: a line is read if, and only if, it has the form of the
template (`isSome_templated?_iff`), and a problem that is filled in is read as it was meant
(`Templated.templated?_chars`). A path may have any character but a colon, even a newline. Such a
problem is on two lines; what is read of the second is about another path. So problems are read as
they were meant if, and only if, no path has a newline (`Templated.templatedMessages_eq_iff`).
-/

namespace Lintscope.Output

open Text

/-! ## Lines of the form -/

/-- A word. -/
def IsWord (s : List Char) : Prop := s ≠ [] ∧ ∀ c ∈ s, Unicode.isWord c = true

theorem word?_eq_some_iff {s word rest : List Char} :
    word? s = some (word, rest) ↔ s = word ++ ':' :: rest ∧ IsWord word := by
  simp only [word?, Option.bind_eq_bind, Option.bind_eq_some_iff, Option.guard_eq_some',
    Prod.exists, cut?_singleton_eq_some_iff, List.all_eq_true, exists_const, Option.pure_def,
    Option.some.injEq, Prod.mk.injEq]
  constructor
  · rintro ⟨word, rest, ⟨rfl, -⟩, hword, rfl, rfl⟩
    exact ⟨rfl, hword⟩
  · rintro ⟨rfl, hword⟩
    have hcolon : ':' ∉ word := fun hmem => absurd (hword.2 ':' hmem) (by decide)
    exact ⟨word, rest, ⟨rfl, hcolon⟩, hword, rfl, rfl⟩

/-- A line put together from its parts. -/
def joined (path digits severity code text : List Char) : List Char :=
  path ++ ':' :: (digits ++ ':' :: (severity ++ ':' :: (code ++ ':' :: text)))

/-- What the parts before the text are like in a line of the form. -/
structure AreParts (path digits severity code : List Char) : Prop where
  path_ne_nil : path ≠ []
  colon_not_mem_path : ':' ∉ path
  digits_ne_nil : digits ≠ []
  isDigit_of_mem_digits : ∀ c ∈ digits, Unicode.isDigit c = true
  severity : IsWord severity
  code : IsWord code

/-- A line of the form `path:line:severity:code:text`. -/
def IsTemplated (line : List Char) : Prop :=
  ∃ path digits severity code text, line = joined path digits severity code text ∧
    AreParts path digits severity code

theorem templated?_eq_some_iff {line : List Char} {m : Message} :
    templated? line = some m ↔ ∃ path digits severity code text,
      line = joined path digits severity code text ∧ AreParts path digits severity code ∧
        ((Message.about (.ofList path) (natOfNumeral? limit32 digits)
          (.ofList (trim text))).withSeverity
            (Severity.ofLabel (.ofList severity))).withCode (.ofList code) = m := by
  simp only [templated?, Option.bind_eq_bind, Option.bind_eq_some_iff, Option.guard_eq_some',
    Prod.exists, cut?_singleton_eq_some_iff, number?_eq_some_iff, word?_eq_some_iff, exists_const,
    Option.pure_def, Option.some.injEq]
  constructor
  · rintro ⟨path, _, ⟨rfl, hcolon⟩, hpath, _, _, ⟨digits, rfl, hne, hdigits, rfl⟩, severity, _,
      ⟨rfl, hseverity⟩, code, text, ⟨rfl, hcode⟩, hm⟩
    exact ⟨path, digits, severity, code, text, rfl,
      ⟨hpath, hcolon, hne, hdigits, hseverity, hcode⟩, hm⟩
  · rintro ⟨path, digits, severity, code, text, rfl, h, hm⟩
    exact ⟨path, _, ⟨rfl, h.colon_not_mem_path⟩, h.path_ne_nil, _, _,
      ⟨digits, rfl, h.digits_ne_nil, h.isDigit_of_mem_digits, rfl⟩, severity, _,
      ⟨rfl, h.severity⟩, code, text, ⟨rfl, h.code⟩, hm⟩

theorem isSome_templated?_iff {line : List Char} :
    (templated? line).isSome = true ↔ IsTemplated line := by
  rw [Option.isSome_iff_exists]
  simp only [templated?_eq_some_iff]
  constructor
  · rintro ⟨_, path, digits, severity, code, text, hline, h, -⟩
    exact ⟨path, digits, severity, code, text, hline, h⟩
  · rintro ⟨path, digits, severity, code, text, hline, h⟩
    exact ⟨_, path, digits, severity, code, text, hline, h, rfl⟩

instance : DecidablePred IsTemplated := fun _ => decidable_of_iff _ isSome_templated?_iff

/-- Whatever text there is, more of it is of no matter to the form. -/
theorem IsTemplated.append {line : List Char} (h : IsTemplated line) (s : List Char) :
    IsTemplated (line ++ s) := by
  obtain ⟨path, digits, severity, code, text, rfl, h⟩ := h
  exact ⟨path, digits, severity, code, text ++ s, by simp [joined], h⟩

/-- The carriage return at the end of a line is of no matter to its form. -/
theorem templated?_dropReturn {line : List Char} (h : ¬IsTemplated line) :
    templated? (dropReturn line) = none := by
  refine Option.not_isSome_iff_eq_none.1 fun hsome => h ?_
  obtain ⟨s, hs⟩ := isPrefix_dropReturn line
  exact hs ▸ (isSome_templated?_iff.1 hsome).append s

theorem templated?_of_colon_not_mem {line : List Char} (h : ':' ∉ line) :
    templated? line = none := by
  refine Option.eq_none_iff_forall_ne_some.2 fun m hm => ?_
  obtain ⟨path, digits, severity, code, text, rfl, -⟩ := templated?_eq_some_iff.1 hm
  exact h (by simp [joined])

/-- The path of a message that is read has no newline, since a line has none. -/
theorem newline_not_mem_path_of_templated? {line : List Char} (hline : '\n' ∉ line) {m : Message}
    (hm : templated? line = some m) : ∀ path ∈ m.path, '\n' ∉ path.toList := by
  obtain ⟨path, digits, severity, code, text, rfl, -, rfl⟩ := templated?_eq_some_iff.1 hm
  rintro _ ⟨⟩ hmem
  rw [Path.canonical, String.toList_ofList, String.toList_ofList] at hmem
  exact hline (List.mem_append_left _ (Path.mem_of_mem_canonicalChars (by decide) hmem))

/-! ## Templates -/

/-- A template with its holes filled in, when a hole may be open and a part of its name read. -/
def fill (value : String → List Char) : Option (List Char) → List Char → List Char
  | none, [] => []
  | none, '{' :: s => fill value (some []) s
  | none, c :: s => c :: fill value none s
  | some name, [] => '{' :: name
  | some name, '}' :: s => value (.ofList name) ++ fill value none s
  | some name, c :: s => fill value (some (name ++ [c])) s

/-- A problem that is filled in. -/
structure Templated where
  /-- The path. -/
  path : List Char
  /-- The line; zero for the whole file. -/
  line : Nat
  /-- How grave it is. -/
  severity : List Char
  /-- The rule that is broken. -/
  code : List Char
  /-- What it says. -/
  text : List Char
  path_ne_nil : path ≠ [] := by decide
  colon_not_mem_path : ':' ∉ path := by decide
  line_lt : line < limit32 := by decide
  severity_ne_nil : severity ≠ [] := by decide
  all_isWord_severity : severity.all Unicode.isWord = true := by decide
  code_ne_nil : code ≠ [] := by decide
  all_isWord_code : code.all Unicode.isWord = true := by decide
  newline_not_mem_text : '\n' ∉ text := by decide
  trim_text : trim text = text := by decide

namespace Templated

variable (p : Templated)

/-- What stands in the hole of a name. -/
def value : String → List Char
  | "file" => p.path
  | "line" => numeral p.line
  | "severity" => p.severity
  | "id" => p.code
  | "message" => p.text
  | name => '{' :: (name.toList ++ ['}'])

/-- The template, filled in. -/
def chars : List Char := fill p.value none template.toList

/-- The message that is meant. -/
def message : Message where
  path := some (Path.canonical (.ofList p.path))
  line := if p.line = 0 then none else some p.line
  severity := Severity.ofLabel (.ofList p.severity)
  code := some (.ofList p.code)
  text := .ofList p.text

variable {p}

theorem chars_eq : p.chars = joined p.path (numeral p.line) p.severity p.code p.text := by
  simp [chars, template, fill, value, joined]

theorem areParts : AreParts p.path (numeral p.line) p.severity p.code where
  path_ne_nil := p.path_ne_nil
  colon_not_mem_path := p.colon_not_mem_path
  digits_ne_nil := numeral_ne_nil p.line
  isDigit_of_mem_digits := fun _ hc => isDigit_of_isDigit (isDigit_of_mem_numeral hc)
  severity := ⟨p.severity_ne_nil, List.all_eq_true.1 p.all_isWord_severity⟩
  code := ⟨p.code_ne_nil, List.all_eq_true.1 p.all_isWord_code⟩

/-- A problem is read as it was meant. -/
theorem templated?_chars : templated? p.chars = some p.message := by
  have hcode : String.ofList p.code ≠ "" := by simp [p.code_ne_nil]
  refine templated?_eq_some_iff.2 ⟨_, _, _, _, _, chars_eq, areParts, ?_⟩
  rw [natOfNumeral?_numeral, if_pos p.line_lt, p.trim_text]
  simp only [Message.withCode, Message.withSeverity, Message.about, positive?_some, message, hcode,
    if_false]

/-- Only in a path can there be a newline. -/
theorem exists_chars_eq_path_append (p : Templated) :
    ∃ rest, p.chars = p.path ++ rest ∧ '\n' ∉ rest := by
  have hword {w : List Char} (hw : w.all Unicode.isWord = true) : '\n' ∉ w := fun hmem =>
    absurd (List.all_eq_true.1 hw '\n' hmem) (by decide)
  refine ⟨_, chars_eq, ?_⟩
  simp [not_mem_numeral, hword p.all_isWord_severity, hword p.all_isWord_code,
    p.newline_not_mem_text]

theorem dropReturn_chars : dropReturn p.chars = p.chars := by
  have hchars : p.chars = (p.path ++ ':' :: (numeral p.line ++ ':' :: (p.severity ++ ':' ::
      p.code))) ++ ':' :: p.text := by
    simp [chars_eq, joined]
  rw [hchars]
  exact dropReturn_of_getLast? (getLast?_append_cons_ne p.trim_text rfl (by decide) _)

/-- Only the last line of a problem has a colon, so nothing is read of the lines before it. -/
theorem length_templatedMessages_le : (templatedMessages (p.chars ++ ['\n'])).length ≤ 1 := by
  obtain ⟨rest, hchars, hrest⟩ := p.exists_chars_eq_path_append
  have hone {last : List Char} (h : '\n' ∉ last) :
      (templatedMessages (last ++ rest ++ ['\n'])).length ≤ 1 := by
    have hnewline : '\n' ∉ last ++ rest := List.not_mem_append h hrest
    rw [templatedMessages, lines_concat_newline hnewline]
    exact List.length_filterMap_le templated? _
  rw [hchars]
  by_cases h : '\n' ∈ p.path
  · obtain ⟨before, last, hpath, hlast⟩ := exists_last_newline h
    have hbefore : templatedMessages (before ++ ['\n']) = [] := by
      refine List.filterMap_eq_nil_iff.2 fun line hline =>
        templated?_of_colon_not_mem fun hcolon => p.colon_not_mem_path ?_
      have hmem : ':' ∈ before := by simpa using mem_of_mem_lines hline hcolon
      exact hpath ▸ List.mem_append_left _ hmem
    have hlines : p.path ++ rest ++ ['\n'] = before ++ ['\n'] ++ (last ++ rest ++ ['\n']) := by
      simp [hpath]
    rw [hlines, templatedMessages, lines_append_newline, List.filterMap_append, ← templatedMessages,
      hbefore]
    exact hone hlast
  · exact hone h

theorem templatedMessages_chars_iff :
    templatedMessages (p.chars ++ ['\n']) = [p.message] ↔ '\n' ∉ p.path := by
  constructor
  · intro h hmem
    have hmessage : p.message ∈ templatedMessages (p.chars ++ ['\n']) :=
      h ▸ List.mem_singleton_self p.message
    obtain ⟨line, hline, hread⟩ := List.mem_filterMap.1 hmessage
    refine newline_not_mem_path_of_templated? (newline_not_mem_lines line hline) hread _ rfl ?_
    rw [Path.canonical, String.toList_ofList, String.toList_ofList]
    exact (Path.mem_canonicalChars_iff (by decide) (by decide) (by decide)).2 hmem
  · intro h
    obtain ⟨rest, hchars, hrest⟩ := p.exists_chars_eq_path_append
    have hnewline : '\n' ∉ p.chars := hchars ▸ List.not_mem_append h hrest
    rw [templatedMessages, lines_concat_newline hnewline, dropReturn_chars,
      List.filterMap_cons_some templated?_chars, List.filterMap_nil]

/-- Whatever lines of another form stand among them, problems are read as they were meant, each as
    one message and in their order, if and only if no path has a newline. -/
theorem templatedMessages_eq_iff {es : List (Entry Templated)}
    (hother : ∀ line, .other line ∈ es → '\n' ∉ line ∧ ¬IsTemplated line) :
    templatedMessages (Entry.text chars es) = (Entry.problems es).map message ↔
      ∀ p ∈ Entry.problems es, '\n' ∉ p.path := by
  have hread : templatedMessages (Entry.text chars es) =
      (Entry.problems es).flatMap fun p => templatedMessages (p.chars ++ ['\n']) := by
    rw [templatedMessages, Entry.text, lines_written_eq_flatMap, List.flatMap_map,
      List.filterMap_flatMap]
    refine Entry.flatMap_problems fun line hline => ?_
    obtain ⟨hnewline, hform⟩ := hother line hline
    rw [Entry.line, lines_concat_newline hnewline,
      List.filterMap_cons_none (templated?_dropReturn hform), List.filterMap_nil]
  rw [hread, List.map_eq_flatMap, Filtered.flatMap_eq_flatMap_iff
    fun p _ => length_templatedMessages_le]
  exact forall₂_congr fun _ _ => templatedMessages_chars_iff

/-- A problem whose text looks like another one. -/
def nested : Templated where
  path := ".\\src\\a b.cpp".toList
  line := 30
  severity := "style".toList
  code := "variableScope".toList
  text := "b.cpp:3:error:x: The scope of 'i' :: \x7bfile\x7d".toList

/-- A problem of a whole file, without a text. -/
def bare : Templated where
  path := "src/b.h".toList
  line := 0
  severity := "INFORMATION".toList
  code := "missing_1".toList
  text := "".toList
  line_lt := limit32_pos

/-- They are read among lines that say something else. -/
theorem templatedMessages_nested :
    templatedMessages (Entry.text chars
        [.other "Checking a.cpp ...".toList, .problem nested, .other "a.cpp:3: error:x:y".toList,
          .problem bare, .other ":3:error:x:y\r".toList, .other []]) =
      [nested.message, bare.message] ∧
    [nested.message, bare.message] =
      [{ path := some "src/a b.cpp", line := some 30, severity := .info
         code := some "variableScope"
         text := "b.cpp:3:error:x: The scope of 'i' :: \x7bfile\x7d" },
        { path := some "src/b.h", line := none, severity := .info, code := some "missing_1"
          text := "" }] := by
  refine ⟨(templatedMessages_eq_iff ?_).2 ?_, by decide⟩
  · intro line hline
    simp only [List.mem_cons, Entry.other.injEq, List.not_mem_nil, or_false, reduceCtorEq,
      false_or] at hline
    rcases hline with rfl | rfl | rfl | rfl <;> exact ⟨by decide, by decide⟩
  · decide

/-- A problem whose path has a newline. -/
def twoLinePath : Templated where
  path := "a\nb.cpp".toList
  line := 5
  severity := "style".toList
  code := "x".toList
  text := "msg".toList

/-- What is read of a problem whose path has a newline is about another path. -/
theorem templatedMessages_twoLinePath :
    templatedMessages (Entry.text chars [.problem twoLinePath]) =
        [{ twoLinePath.message with path := some "b.cpp" }] ∧
      twoLinePath.message.path ≠ some "b.cpp" := by
  decide +kernel

end Templated

end Lintscope.Output

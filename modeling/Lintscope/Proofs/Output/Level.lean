import Lintscope.Output.Coded
import Lintscope.Proofs.Output.Location
import Lintscope.Proofs.Text.Slice
import Mathlib.Data.List.Infix
import Mathlib.Data.Nat.PSub

/-!
# Levels before texts, rules behind them

`yamllint` writes `path:line:column: [level] text (rule)`. The level ends with the first bracket
that closes, and the rule begins with the last one that opens behind a blank, so that any text can
stand between them. Problems are read as they were written, as long as each is a line and has a
path (`Leveled.messages_iff_and_slices`).

The rule may also be found by octets, and then the text and the rule are slices between octets
that are computed. Whatever the text, there are such slices, and they are what is read
(`withLevelByOctets?_eq`).
-/

namespace Lintscope.Output

open Text

/-! ## Levels -/

theorem level_bracketed {name : List Char} (h : ']' ∉ name) (rest : List Char) :
    level ('[' :: (name ++ ']' :: rest)) = (Severity.ofLabel (.ofList name), trim rest) := by
  rw [level, dropLead?_singleton, Option.bind_some, cut?_singleton h]

/-! ## Rules -/

theorem rule_concat (s : List Char) :
    rule (s ++ [')']) =
      ((cutLast? [' ', '('] s).map fun (text, rule) => (trimEnd text, rule)).getD
        (s ++ [')'], []) := by
  rw [rule, dropTail?_eq_some_iff.2 rfl, Option.bind_some]
  cases cutLast? [' ', '('] s <;> rfl

theorem rule_of_not_endsWith {s : List Char} (h : endsWith [')'] s = false) : rule s = (s, []) := by
  rw [endsWith, Option.isSome_eq_false_iff, Option.isNone_iff_eq_none] at h
  rw [rule, h]
  rfl

/-- A rule is read as it was written, whatever text stands before it. -/
theorem rule_bracketed {name : List Char} (h : ¬[' ', '('] <:+: name) (text : List Char) :
    rule (text ++ ' ' :: '(' :: (name ++ [')'])) = (trimEnd text, name) := by
  have hlast : ¬[' ', '('] <:+: ['('] ++ name := by
    simpa [List.infix_cons_iff, List.cons_prefix_cons] using h
  have hcut := cutLast?_append hlast text
  rw [List.append_assoc, List.cons_append, List.singleton_append] at hcut
  rw [← List.cons_append, ← List.cons_append, ← List.append_assoc, rule_concat, hcut]
  rfl

/-! ## Rules cut out by octets -/

/-- The octet at which the last `sep` of a text starts. -/
def lastOctet? (sep s : List Char) : Option Nat :=
  (cutLast? sep s).map fun (before, _) => Utf8.size before

/-- The text before a rule, and the rule, as slices. The rule goes from behind the two octets that
    it is opened with up to the last octet, which closes it. Nothing is read if one of these octets
    is not the start of a character, or lies behind the end, or if the slice would end before it
    starts. -/
def ruleByOctets? (s : List Char) : Option (List Char × List Char) :=
  if endsWith [')'] s then
    match lastOctet? [' ', '('] s with
    | some first => do
      let last ← (Utf8.size s).ppred
      let rule ← Utf8.slice? (first + 2) last s
      let text ← Utf8.slice? 0 first s
      return (trimEnd text, rule)
    | none => some (s, [])
  else some (s, [])

/-- A message that is written `[level] text (rule)`, with the rule cut out by octets. -/
def withLevelByOctets? (m : Message) (s : List Char) : Option Message :=
  let (severity, s) := level s
  (ruleByOctets? s).map fun (text, rule) =>
    ((m.withText (.ofList text)).withSeverity severity).withCode (.ofList rule)

/-- The slices are always there, and they are the text and the rule. -/
theorem ruleByOctets?_eq (s : List Char) : ruleByOctets? s = some (rule s) := by
  rw [ruleByOctets?]
  split
  · next hend =>
    obtain ⟨body, rfl⟩ := List.getLast?_eq_some_iff.1 (endsWith_singleton.1 hend)
    have hlast := @cutLast?_concat [' ', '('] ')' (by decide) (by decide) body
    rw [rule_concat, lastOctet?, hlast]
    cases hcut : cutLast? [' ', '('] body with
    | none => rfl
    | some cut =>
      obtain ⟨text, name⟩ := cut
      obtain rfl := append_of_cutLast? hcut
      -- A blank and each of the brackets is one octet.
      have hopen : Utf8.size [' ', '('] = 2 := rfl
      have hclose : Utf8.size [')'] = 1 := rfl
      have hsize : (Utf8.size (text ++ [' ', '('] ++ name ++ [')'])).ppred =
          some (Utf8.size (text ++ [' ', '('] ++ name)) := by
        rw [Utf8.size_append _ [')'], hclose]
        rfl
      have hrule : Utf8.slice? (Utf8.size text + 2) (Utf8.size (text ++ [' ', '('] ++ name))
          (text ++ [' ', '('] ++ name ++ [')']) = some name :=
        Utf8.slice?_eq_some_iff.2 ⟨text ++ [' ', '('], [')'], rfl, by
          rw [Utf8.size_append, hopen], rfl⟩
      have htext : Utf8.slice? 0 (Utf8.size text) (text ++ [' ', '('] ++ name ++ [')']) =
          some text :=
        Utf8.slice?_eq_some_iff.2 ⟨[], [' ', '('] ++ name ++ [')'], by simp, rfl, rfl⟩
      simp only [Option.map_some, hsize, hrule, htext, Option.bind_eq_bind, Option.bind_some,
        Option.pure_def, Option.getD_some]
  · next hend =>
    rw [rule_of_not_endsWith (Bool.eq_false_iff.2 hend)]

theorem withLevelByOctets?_eq (m : Message) (s : List Char) :
    withLevelByOctets? m s = some (withLevel m s) := by
  rw [withLevelByOctets?, withLevel]
  simp only [ruleByOctets?_eq, Option.map_some]

/-! ## Problems -/

/-- A problem as `yamllint` writes it. -/
structure Leveled where
  /-- The path. -/
  path : List Char
  /-- The line; zero for the whole file. -/
  line : Nat
  /-- The column; zero for the whole line. -/
  column : Nat
  /-- The level. -/
  level : List Char
  /-- What it says. -/
  text : List Char
  /-- The rule that is broken. -/
  rule : List Char
  colon_not_mem_path : ':' ∉ path := by decide
  line_lt : line < limit32 := by decide
  column_lt : column < limit32 := by decide
  bracket_not_mem_level : ']' ∉ level := by decide
  text_ne_nil : text ≠ [] := by decide
  trim_text : trim text = text := by decide
  rule_ne_nil : rule ≠ [] := by decide
  not_infix_rule : ¬[' ', '('] <:+: rule := by decide

namespace Leveled

variable (p : Leveled)

/-- What is said behind the location. -/
def said : List Char :=
  '[' :: (p.level ++ ']' :: ' ' :: (p.text ++ ' ' :: '(' :: (p.rule ++ [')'])))

/-- The line that is written. -/
def chars : List Char :=
  p.path ++ ':' :: (numeral p.line ++ ':' :: (numeral p.column ++ ':' :: ' ' :: p.said))

/-- The message that is meant. -/
def message : Message where
  path := some (Path.canonical (.ofList p.path))
  line := if p.line = 0 then none else some p.line
  column := if p.column = 0 then none else some p.column
  severity := Severity.ofLabel (.ofList p.level)
  code := some (.ofList p.rule)
  text := .ofList p.text

variable {p}

theorem getLast?_append_rule (s : List Char) :
    (s ++ ' ' :: '(' :: (p.rule ++ [')'])).getLast? = some ')' :=
  List.getLast?_eq_some_iff.2 ⟨s ++ ' ' :: '(' :: p.rule, by simp⟩

theorem getLast?_chars : p.chars.getLast? = some ')' := by
  have hchars : p.chars = (p.path ++ ':' :: (numeral p.line ++ ':' :: (numeral p.column ++ ':' ::
      ' ' :: '[' :: (p.level ++ ']' :: ' ' :: p.text)))) ++ ' ' :: '(' :: (p.rule ++ [')']) := by
    simp [chars, said]
  rw [hchars, getLast?_append_rule]

theorem trim_said : trim (' ' :: p.said) = p.said := by
  refine (trim_cons_of_isBlank rfl _).trans
    (trim_eq_self_iff.2 ⟨fun c hc => ?_, fun c hc => ?_⟩)
  · cases hc
    decide
  · have hsaid : p.said = ('[' :: (p.level ++ ']' :: ' ' :: p.text)) ++
        ' ' :: '(' :: (p.rule ++ [')']) := by
      simp [said]
    rw [hsaid, getLast?_append_rule] at hc
    cases hc
    decide

theorem trim_text_append_rule :
    trim (' ' :: (p.text ++ ' ' :: '(' :: (p.rule ++ [')']))) =
      p.text ++ ' ' :: '(' :: (p.rule ++ [')']) := by
  refine (trim_cons_of_isBlank rfl _).trans
    (trim_eq_self_iff.2 ⟨fun c hc => ?_, fun c hc => ?_⟩)
  · rw [List.head?_append_of_ne_nil _ p.text_ne_nil] at hc
    exact (trim_eq_self_iff.1 p.trim_text).1 c hc
  · rw [getLast?_append_rule] at hc
    cases hc
    decide

theorem withLevel_said (m : Message) :
    withLevel m p.said = ((m.withText (.ofList p.text)).withSeverity
      (Severity.ofLabel (.ofList p.level))).withCode (.ofList p.rule) := by
  have hend := trimEnd_of_getLast? (trim_eq_self_iff.1 p.trim_text).2
  rw [withLevel, said, level_bracketed p.bracket_not_mem_level, trim_text_append_rule]
  simp only [rule_bracketed p.not_infix_rule, hend]

/-- A problem is read as it was written if, and only if, it has a path. -/
theorem read?_chars_iff :
    ((Location.read? p.chars).map fun l => withLevel l.message l.rest) = some p.message ↔
      p.path ≠ [] := by
  by_cases hpath : p.path = []
  · -- A line that starts with a colon has no location.
    have hnone : Location.read? p.chars = none := by
      rw [chars, hpath]
      rfl
    rw [hnone]
    exact iff_of_false nofun fun h => h hpath
  · have hcode : String.ofList p.rule ≠ "" := by simp [p.rule_ne_nil]
    refine iff_of_true ?_ hpath
    rw [chars, Location.read?_place hpath p.colon_not_mem_path p.line_lt p.column_lt, trim_said,
      Option.map_some, withLevel_said]
    simp only [Message.withCode, Message.withText, Message.withSeverity, Location.message,
      Message.withColumn, Message.about, positive?_some, message, hcode, if_false]

/-- Whatever lines without a location stand among them, problems that are a line each are read as
    they were written, each as one message and in their order, if and only if each of them has a
    path. Any text at all can be taken for a level, a text and a rule by slices between octets: none
    of these is out of bounds or cuts a character. -/
theorem messages_iff_and_slices :
    (∀ es : List (Entry Leveled), (∀ p ∈ Entry.problems es, '\n' ∉ p.chars) →
      (∀ line, .other line ∈ es → '\n' ∉ line ∧ ¬Location.Located line) →
      ((ofLocations withLevel (Entry.text chars es)).messages = (Entry.problems es).map message ↔
        ∀ p ∈ Entry.problems es, p.path ≠ [])) ∧
    ∀ m s, withLevelByOctets? m s = some (withLevel m s) := by
  refine ⟨fun es hline hother => ?_, withLevelByOctets?_eq⟩
  have hproblem (p : Leveled) (hp : .problem p ∈ es) :
      '\n' ∉ p.chars ∧ p.chars.getLast? ≠ some '\r' :=
    ⟨hline p (List.mem_filterMap.2 ⟨_, hp, rfl⟩), by rw [getLast?_chars]; decide⟩
  rw [messages_ofLocations_eq_iff hproblem hother]
  exact forall₂_congr fun _ _ => read?_chars_iff

/-- A problem whose text looks like a level and a rule. -/
def tangled : Leveled where
  path := "./a b.yml".toList
  line := 14
  column := 0
  level := " FATAL ".toList
  text := "[error] zu viele „Sätze“ (3 > 0) [x] (y)".toList
  rule := "(empty)-lines)".toList
  column_lt := limit32_pos

/-- It is read as it was written. -/
theorem messages_tangled :
    (ofLocations withLevel (Entry.text chars [.problem tangled, .problem tangled])).messages =
      [tangled.message, tangled.message] ∧
    tangled.message =
      { path := some "a b.yml", line := some 14, severity := .error, code := some "(empty)-lines)"
        text := "[error] zu viele „Sätze“ (3 > 0) [x] (y)" } ∧
    withLevelByOctets? (.about "a" none "") "é) ü (".toList =
      some (withLevel (.about "a" none "") "é) ü (".toList) := by
  refine ⟨(messages_iff_and_slices.1 _ ?_ ?_).2 ?_, by decide, messages_iff_and_slices.2 _ _⟩
  · intro p hp
    obtain rfl : p = tangled := by simpa [Entry.problems, Entry.problem?] using hp
    decide
  · intro line hline
    simp at hline
  · intro p hp
    obtain rfl : p = tangled := by simpa [Entry.problems, Entry.problem?] using hp
    decide

/-- A problem without a path. -/
def pathless : Leveled where
  path := []
  line := 8
  column := 1
  level := "error".toList
  text := "too many blank lines".toList
  rule := "empty-lines".toList

/-- A problem whose level is on two lines. -/
def twoLineLevel : Leveled where
  path := "a.yml".toList
  line := 8
  column := 1
  level := "err\nor".toList
  text := "too many blank lines".toList
  rule := "empty-lines".toList

/-- A problem whose rule is on two lines. -/
def twoLineRule : Leveled where
  path := "a.yml".toList
  line := 8
  column := 1
  level := "error".toList
  text := "too many blank lines".toList
  rule := "empty\nlines".toList

/-- Without a path, nothing is read of a problem; and what ends within a level or a rule is not
    read as it was meant. -/
theorem messages_broken :
    (ofLocations withLevel (Entry.text chars [.problem pathless])).messages = [] ∧
    (ofLocations withLevel (Entry.text chars [.problem twoLineLevel])).messages ≠
      [twoLineLevel.message] ∧
    (ofLocations withLevel (Entry.text chars [.problem twoLineRule])).messages ≠
      [twoLineRule.message] := by
  decide +kernel

end Leveled

end Lintscope.Output

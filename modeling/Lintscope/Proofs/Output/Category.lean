import Lintscope.Output.Coded
import Lintscope.Proofs.Output.Location
import Mathlib.Data.List.Infix

/-!
# Categories behind texts

`cpplint` writes a category and a confidence behind each text, both in brackets. The
category is read from the first place where a bracket opens behind a blank and the rest of
the line looks like both (`category?_append`). That is the place where the category was
put, unless the text itself has a bracket that opens behind a blank and is not closed
(`category?_text`). So problems are read as they were written if and only if there is no
such bracket in any of their texts (`Categorized.messages_eq_iff`). Texts that the tool has
about brackets are among these (`Categorized.messages_openProblem`).
-/

namespace Lintscope.Output

open Text

/-! ## Readers -/

/-- Blanks, at least one. -/
def IsGap (s : List Char) : Prop := s ≠ [] ∧ ∀ c ∈ s, isBlank c = true

theorem isGap_cons {c : Char} {s : List Char} (hc : isBlank c = true)
    (hs : ∀ d ∈ s, isBlank d = true) : IsGap (c :: s) :=
  ⟨List.cons_ne_nil c s, List.forall_mem_cons.2 ⟨hc, hs⟩⟩

theorem afterBlanks?_eq_some_iff {s t : List Char} :
    afterBlanks? s = some t ↔
      ∃ gap, IsGap gap ∧ s = gap ++ t ∧ ∀ c ∈ t.head?, isBlank c = false := by
  rw [afterBlanks?]
  constructor
  · intro h
    split at h
    · next hblank =>
      obtain rfl := Option.some.inj h
      have hstop := List.head?_dropWhile_not isBlank s
      refine ⟨s.takeWhile isBlank, ⟨?_, List.all_eq_true.1 List.all_takeWhile⟩,
        List.takeWhile_append_dropWhile.symm, fun c hc => ?_⟩
      · cases s with
        | nil => cases hblank
        | cons c s => simp [List.takeWhile_cons_of_pos (p := isBlank) (by simpa using hblank)]
      · rwa [← trimStart, hc] at hstop
    · cases h
  · rintro ⟨gap, ⟨hne, hgap⟩, rfl, ht⟩
    have hhead : (gap ++ t).head?.any isBlank = true := by
      obtain ⟨c, gap, rfl⟩ := List.exists_cons_of_ne_nil hne
      exact hgap c List.mem_cons_self
    rw [if_pos hhead, trimStart, List.dropWhile_append_of_pos hgap]
    cases t with
    | nil => rfl
    | cons c t => rw [List.dropWhile_cons_of_neg (by simp [ht c rfl])]

theorem bracketed?_eq_some_iff {s word rest : List Char} :
    bracketed? s = some (word, rest) ↔
      s = '[' :: (word ++ ']' :: rest) ∧ word ≠ [] ∧ ']' ∉ word := by
  simp only [bracketed?, Option.bind_eq_bind, Option.bind_eq_some_iff, Option.guard_eq_some',
    Prod.exists, cut?_singleton_eq_some_iff, dropLead?_eq_some_iff, exists_const, Option.pure_def,
    Option.some.injEq, Prod.mk.injEq]
  constructor
  · rintro ⟨_, rfl, word, rest, ⟨rfl, hclose⟩, hne, rfl, rfl⟩
    exact ⟨rfl, hne, hclose⟩
  · rintro ⟨rfl, hne, hclose⟩
    exact ⟨_, rfl, word, rest, ⟨rfl, hclose⟩, hne, rfl, rfl⟩

/-- A category and a confidence. -/
theorem categoryAlone?_eq_some_iff {s category : List Char} :
    categoryAlone? s = some category ↔ ∃ gap gap' digit, IsGap gap ∧ IsGap gap' ∧
      category ≠ [] ∧ ']' ∉ category ∧ Unicode.isDigit digit = true ∧
        s = gap ++ '[' :: (category ++ ']' :: (gap' ++ ['[', digit, ']'])) := by
  simp only [categoryAlone?, Option.bind_eq_bind, Option.bind_eq_some_iff, Prod.exists,
    bracketed?_eq_some_iff, afterBlanks?_eq_some_iff]
  constructor
  · rintro ⟨_, ⟨gap, hgap, rfl, -⟩, found, _, ⟨rfl, hne, hclose⟩, _, ⟨gap', hgap', rfl, -⟩,
      word, rest, ⟨rfl, -, -⟩, h⟩
    split at h
    · next digit heq =>
      obtain ⟨rfl, rfl⟩ := Prod.mk.inj heq
      split at h
      · next hdigit =>
        obtain rfl := Option.some.inj h
        exact ⟨gap, gap', digit, hgap, hgap', hne, hclose, hdigit, rfl⟩
      · cases h
    · cases h
  · rintro ⟨gap, gap', digit, hgap, hgap', hne, hclose, hdigit, rfl⟩
    have hopen (s : List Char) : ∀ c ∈ ('[' :: s).head?, isBlank c = false := by
      rintro _ ⟨⟩
      decide
    have hdigit' : ']' ≠ digit := ne_of_isDigit (by decide) hdigit
    refine ⟨_, ⟨gap, hgap, rfl, hopen _⟩, _, _, ⟨rfl, hne, hclose⟩, _, ⟨gap', hgap', rfl, hopen _⟩,
      [digit], [], ⟨rfl, by simp, by simpa using hdigit'⟩, ?_⟩
    simp [hdigit]

theorem category?_of_alone {s category : List Char} (h : categoryAlone? s = some category) :
    category? s = some ([], category) := by
  cases s <;> rw [category?.eq_def, h]

theorem category?_cons {c : Char} {s : List Char} (h : categoryAlone? (c :: s) = none) :
    category? (c :: s) = (category? s).map fun (text, category) => (c :: text, category) := by
  rw [category?.eq_def, h]

/-- Behind some text the category is read where it can be read alone, unless there is such
    a place in the text; then it is read at the first of these. -/
theorem category?_append (text rest : List Char) :
    (∃ before after category, text = before ++ after ∧ after ≠ [] ∧
      categoryAlone? (after ++ rest) = some category ∧
        category? (text ++ rest) = some (before, category)) ∨
    ((∀ after, after <:+ text → after ≠ [] → categoryAlone? (after ++ rest) = none) ∧
      category? (text ++ rest) =
        (category? rest).map fun (before, category) => (text ++ before, category)) := by
  induction text with
  | nil =>
    exact .inr ⟨fun after hafter hne => absurd (List.suffix_nil.1 hafter) hne, by simp⟩
  | cons c text ih =>
    rcases Option.eq_none_or_eq_some (categoryAlone? (c :: (text ++ rest))) with
      halone | ⟨category, halone⟩
    · rw [List.cons_append, category?_cons halone]
      rcases ih with ⟨before, after, category, rfl, hne, hafter, hread⟩ | ⟨hnone, hread⟩
      · exact .inl ⟨c :: before, after, category, rfl, hne, hafter, by rw [hread]; rfl⟩
      · refine .inr ⟨fun after hafter hne => ?_, ?_⟩
        · rcases List.suffix_cons_iff.1 hafter with rfl | hafter
          · exact halone
          · exact hnone after hafter hne
        · rw [hread, Option.map_map]
          rfl
    · exact .inl ⟨[], c :: text, category, rfl, List.cons_ne_nil c text, halone,
        category?_of_alone halone⟩

/-! ## Texts with brackets -/

/-- What is written behind a text. -/
def categoryTail (category : List Char) (digit : Char) : List Char :=
  ' ' :: ' ' :: '[' :: (category ++ [']', ' ', '[', digit, ']'])

theorem getLast?_append_categoryTail (s category : List Char) (digit : Char) :
    (s ++ categoryTail category digit).getLast? = some ']' :=
  List.getLast?_eq_some_iff.2
    ⟨s ++ ' ' :: ' ' :: '[' :: (category ++ [']', ' ', '[', digit]), by simp [categoryTail]⟩

/-- A text has a bracket that opens behind a blank and is not closed. -/
def LeavesOpen (text : List Char) : Prop :=
  ∃ blank after, blank :: '[' :: after <:+ text ∧ isBlank blank = true ∧ ']' ∉ after

instance : DecidablePred LeavesOpen := fun text =>
  decidable_of_iff (∃ t ∈ text.tails, t.head?.any isBlank = true ∧ t.tail.head? = some '[' ∧
      ']' ∉ t.tail.tail) <| by
    constructor
    · rintro ⟨t, ht, hblank, hopen, hclose⟩
      match t with
      | [] => cases hblank
      | [_] => cases hopen
      | blank :: c :: after =>
        cases hopen
        exact ⟨blank, after, (List.mem_tails _ _).1 ht, hblank, hclose⟩
    · rintro ⟨blank, after, hsuffix, hblank, hclose⟩
      exact ⟨_, (List.mem_tails _ _).2 hsuffix, hblank, rfl, hclose⟩

section

variable {category : List Char} {digit : Char} (hclose : ']' ∉ category)
  (hdigit : Unicode.isDigit digit = true)
include hclose hdigit

/-- What closes twice at the end of a line closes where the category was written. -/
theorem eq_append_of_append_categoryTail {found gap after : List Char} {digit' : Char}
    (hfound : ']' ∉ found) (hgap : IsGap gap) (hdigit' : Unicode.isDigit digit' = true)
    (h : found ++ ']' :: (gap ++ ['[', digit', ']']) = after ++ categoryTail category digit) :
    ']' ∉ after ∧ found = after ++ ' ' :: ' ' :: '[' :: category := by
  have hafter : ']' ∉ after := by
    -- Two brackets close on the left, and behind `after` there are two on the right.
    have hgap' : ']' ∉ gap := fun hmem => absurd (hgap.2 ']' hmem) (by decide)
    have hne : digit ≠ ']' := (ne_of_isDigit (by decide) hdigit).symm
    have hne' : digit' ≠ ']' := (ne_of_isDigit (by decide) hdigit').symm
    have hcount := congrArg (List.count ']') h
    simp only [categoryTail, List.count_append, List.count_cons, List.count_nil,
      List.count_eq_zero_of_not_mem hfound, List.count_eq_zero_of_not_mem hgap',
      List.count_eq_zero_of_not_mem hclose, beq_iff_eq, hne, hne'] at hcount
    exact List.count_eq_zero.1 (by simpa using hcount)
  -- Both sides are cut at the first bracket that closes.
  have hsame : found ++ ']' :: (gap ++ ['[', digit', ']']) =
      (after ++ ' ' :: ' ' :: '[' :: category) ++ ']' :: [' ', '[', digit, ']'] := by
    simpa [categoryTail] using h
  have hbody : ']' ∉ after ++ ' ' :: ' ' :: '[' :: category := by simp [hafter, hclose]
  have hcut := cut?_singleton hfound (gap ++ ['[', digit', ']'])
  rw [hsame, cut?_singleton hbody] at hcut
  exact ⟨hafter, (Prod.mk.inj (Option.some.inj hcut)).1.symm⟩

/-- At the end of a text, another category can be read only from a bracket that the text
    leaves open; it is longer than the one that is written. -/
theorem categoryAlone?_append_iff {s found : List Char} (hne : s ≠ [])
    (hlast : ∀ c ∈ s.getLast?, isBlank c = false) :
    categoryAlone? (s ++ categoryTail category digit) = some found ↔
      ∃ gap after, IsGap gap ∧ s = gap ++ '[' :: after ∧ ']' ∉ after ∧
        found = after ++ ' ' :: ' ' :: '[' :: category := by
  rw [categoryAlone?_eq_some_iff]
  constructor
  · rintro ⟨gap, gap', digit', hgap, hgap', -, hfound, hdigit', heq⟩
    -- The text does not end within the first gap, since it does not end with a blank.
    have hend : ∀ t, gap ≠ s ++ t := by
      rintro t rfl
      obtain ⟨c, hc⟩ := Option.ne_none_iff_exists'.1 (mt List.getLast?_eq_none_iff.1 hne)
      have hblank := hgap.2 c (List.mem_append_left t (List.mem_of_getLast? hc))
      rw [hlast c hc] at hblank
      cases hblank
    rcases List.append_eq_append_iff.1 heq with ⟨t, hgap', -⟩ | ⟨t, rfl, ht⟩
    · exact absurd hgap' (hend t)
    cases t with
    | nil => exact absurd (by simp) (hend [])
    | cons c after =>
      obtain ⟨rfl, hrest⟩ := List.cons.inj ht
      exact ⟨gap, after, hgap, rfl,
        eq_append_of_append_categoryTail hclose hdigit hfound hgap' hdigit' hrest⟩
  · rintro ⟨gap, after, hgap, rfl, hafter, rfl⟩
    refine ⟨gap, [' '], digit, hgap, isGap_cons rfl nofun, by simp, by simp [hafter, hclose],
      hdigit, ?_⟩
    simp [categoryTail]

/-- Behind a text the category is read as it is written, unless the text leaves a bracket
    open; then it is another one. -/
theorem category?_text (hne : category ≠ []) {text : List Char}
    (hlast : ∀ c ∈ text.getLast?, isBlank c = false) :
    (¬LeavesOpen text ∧
      category? (text ++ categoryTail category digit) = some (text, category)) ∨
    (LeavesOpen text ∧ ∃ before found, found ≠ category ∧
      category? (text ++ categoryTail category digit) = some (before, found)) := by
  have hsuffix {before after : List Char} (hafter : after ≠ []) (htext : text = before ++ after) :
      ∀ c ∈ after.getLast?, isBlank c = false := fun c hc =>
    hlast c (by rw [htext, List.getLast?_append_of_ne_nil before hafter]; exact hc)
  rcases category?_append text (categoryTail category digit) with
    ⟨before, after, found, htext, hafter, halone, hread⟩ | ⟨hnone, hread⟩
  · obtain ⟨gap, rest, hgap, rfl, hrest, rfl⟩ :=
      (categoryAlone?_append_iff hclose hdigit hafter (hsuffix hafter htext)).1 halone
    refine .inr ⟨?_, before, _, fun heq => ?_, hread⟩
    · obtain ⟨gap, blank, rfl⟩ := (List.eq_nil_or_concat gap).resolve_left hgap.1
      exact ⟨blank, rest, ⟨before ++ gap, by simp [htext]⟩, hgap.2 blank (by simp), hrest⟩
    · have hlength := congrArg List.length heq
      simp only [List.length_append, List.length_cons] at hlength
      omega
  · have halone : categoryAlone? (categoryTail category digit) = some category :=
      categoryAlone?_eq_some_iff.2 ⟨[' ', ' '], [' '], digit,
        isGap_cons rfl (List.forall_mem_singleton.2 rfl), isGap_cons rfl nofun, hne, hclose, hdigit,
        by simp [categoryTail]⟩
    refine .inl ⟨?_, by rw [hread, category?_of_alone halone]; simp⟩
    rintro ⟨blank, rest, ⟨before, htext⟩, hblank, hrest⟩
    have hafter : blank :: '[' :: rest ≠ [] := List.cons_ne_nil _ _
    have hread := (categoryAlone?_append_iff hclose hdigit hafter (hsuffix hafter htext.symm)).2
      ⟨[blank], rest, isGap_cons hblank nofun, rfl, hrest, rfl⟩
    rw [hnone _ ⟨before, htext⟩ hafter] at hread
    cases hread

end

/-! ## Problems -/

/-- A problem as `cpplint` writes it. -/
structure Categorized where
  /-- The path. -/
  path : List Char
  /-- The line; zero for the whole file. -/
  line : Nat
  /-- What it says. -/
  text : List Char
  /-- The category. -/
  category : List Char
  /-- The confidence. -/
  confidence : Char
  colon_not_mem_path : ':' ∉ path := by decide
  newline_not_mem_path : '\n' ∉ path := by decide
  line_lt : line < limit32 := by decide
  text_ne_nil : text ≠ [] := by decide
  newline_not_mem_text : '\n' ∉ text := by decide
  trim_text : trim text = text := by decide
  bracket_not_mem_category : ']' ∉ category := by decide
  newline_not_mem_category : '\n' ∉ category := by decide
  isDigit_confidence : Unicode.isDigit confidence = true := by decide

namespace Categorized

variable (p : Categorized)

/-- The line that is written. -/
def chars : List Char :=
  p.path ++ ':' :: (numeral p.line ++ ':' :: ' ' :: ' ' ::
    (p.text ++ categoryTail p.category p.confidence))

/-- The message that is meant. -/
def message : Message where
  path := some (Path.canonical (.ofList p.path))
  line := if p.line = 0 then none else some p.line
  code := some (.ofList p.category)
  text := .ofList p.text

variable {p}

theorem newline_not_mem_chars : '\n' ∉ p.chars := by
  have hdigit : '\n' ≠ p.confidence := ne_of_isDigit (by decide) p.isDigit_confidence
  simp [chars, categoryTail, p.newline_not_mem_path, p.newline_not_mem_text,
    p.newline_not_mem_category, not_mem_numeral, hdigit]

theorem getLast?_chars : p.chars.getLast? = some ']' := by
  have hchars : p.chars = p.path ++ ':' :: (numeral p.line ++ ':' :: ' ' :: ' ' :: p.text) ++
      categoryTail p.category p.confidence := by
    simp [chars]
  rw [hchars, getLast?_append_categoryTail]

theorem trim_append_categoryTail :
    trim (' ' :: ' ' :: (p.text ++ categoryTail p.category p.confidence)) =
      p.text ++ categoryTail p.category p.confidence := by
  rw [trim_cons_of_isBlank rfl, trim_cons_of_isBlank rfl]
  refine trim_eq_self_iff.2 ⟨fun c hc => ?_, fun c hc => ?_⟩
  · rw [List.head?_append_of_ne_nil p.text p.text_ne_nil] at hc
    exact (trim_eq_self_iff.1 p.trim_text).1 c hc
  · rw [getLast?_append_categoryTail] at hc
    cases hc
    decide

/-- A message that has a code has one that is not empty. -/
theorem code_withCategory_ne {m : Message} (h : m.code ≠ some "") (s : List Char) :
    (withCategory m s).code ≠ some "" := by
  rw [withCategory]
  split
  · next text category _ =>
    rw [Message.withCode]
    split
    · nofun
    · next hne => simpa using hne
  · exact h

/-- A problem is read as it is written if it has a path and a category, and if its text
    leaves no bracket open. -/
theorem read?_chars_iff :
    ((Location.read? p.chars).map fun l => withCategory l.message l.rest) = some p.message ↔
      p.path ≠ [] ∧ p.category ≠ [] ∧ ¬LeavesOpen p.text := by
  by_cases hpath : p.path = []
  · -- A line that starts with a colon has no location.
    have hnone : Location.read? p.chars = none := by
      rw [chars, hpath]
      rfl
    rw [hnone]
    exact iff_of_false nofun fun h => h.1 hpath
  rw [chars, Location.read?_line hpath p.colon_not_mem_path p.line_lt
    (number?_cons_eq_none (by decide) _), trim_append_categoryTail, Option.map_some,
    Option.some.injEq]
  have hcode (l : Location) : l.message.code = none := rfl
  by_cases hcategory : p.category = []
  · refine iff_of_false (fun h => ?_) fun h => h.2.1 hcategory
    have hempty : p.message.code = some "" := by simp [message, hcategory]
    exact code_withCategory_ne (by simp [hcode]) _ ((congrArg Message.code h).trans hempty)
  rcases category?_text p.bracket_not_mem_category p.isDigit_confidence hcategory
      (trim_eq_self_iff.1 p.trim_text).2 with
    ⟨hopen, hread⟩ | ⟨hopen, before, found, hne, hread⟩
  · refine iff_of_true ?_ ⟨hpath, hcategory, hopen⟩
    simp only [withCategory, hread, p.trim_text, Location.message, Message.about,
      Message.withColumn, Message.withText, Message.withCode, message, positive?_some,
      String.ofList_eq_empty_iff, hcategory, if_false]
    rfl
  · refine iff_of_false (fun h => hne ?_) fun h => h.2.2 hopen
    simp only [withCategory, hread, message] at h
    have hcode := congrArg Message.code h
    rw [Message.withCode] at hcode
    split at hcode
    · cases hcode
    · exact String.ofList_injective (Option.some.inj hcode)

/-- Problems are read as they were written, each as one message and in their order, if and
    only if each of them has a path and a category and leaves no bracket open in its text;
    whatever lines without a location stand among them. -/
theorem messages_eq_iff {es : List (Entry Categorized)}
    (hother : ∀ line, .other line ∈ es → '\n' ∉ line ∧ ¬Location.Located line) :
    (ofLocations withCategory (Entry.text chars es)).messages = (Entry.problems es).map message ↔
      ∀ p ∈ Entry.problems es, p.path ≠ [] ∧ p.category ≠ [] ∧ ¬LeavesOpen p.text := by
  have hproblem (p : Categorized) (_ : .problem p ∈ es) :
      '\n' ∉ p.chars ∧ p.chars.getLast? ≠ some '\r' :=
    ⟨newline_not_mem_chars, by rw [getLast?_chars]; decide⟩
  rw [messages_ofLocations_eq_iff hproblem hother]
  exact forall₂_congr fun _ _ => read?_chars_iff

/-- A problem with brackets in its text, all of which are closed. -/
def closedProblem : Categorized where
  path := "./src/a.cpp".toList
  line := 0
  text := "Use [a] [ i ], not a[i".toList
  category := "build/[x".toList
  confidence := '5'

/-- It is read among lines that say something else. -/
theorem messages_closedProblem :
    (ofLocations withCategory (Entry.text chars
        [.other "Done processing a:b.cpp".toList, .problem closedProblem, .other []])).messages =
      [closedProblem.message] ∧
    closedProblem.message =
      { path := some "src/a.cpp", line := none, code := some "build/[x"
        text := "Use [a] [ i ], not a[i" } := by
  have hother : ∀ line, .other line ∈
      [.other "Done processing a:b.cpp".toList, .problem closedProblem, Entry.other []] →
        '\n' ∉ line ∧ ¬Location.Located line := by
    intro line hline
    simp only [List.mem_cons, Entry.other.injEq, List.not_mem_nil, or_false, reduceCtorEq,
      false_or] at hline
    rcases hline with rfl | rfl <;> exact ⟨by decide, by decide⟩
  refine ⟨(messages_eq_iff hother).2 (List.forall_mem_singleton.2 ?_), by decide⟩
  exact ⟨by decide, by decide, by decide⟩

/-- One of the texts that `cpplint` has about brackets. -/
def openProblem : Categorized where
  path := "src/a.cpp".toList
  line := 3
  text := "Extra space before [".toList
  category := "whitespace/braces".toList
  confidence := '5'

/-- Its bracket is taken for that of the category. -/
theorem messages_openProblem :
    (ofLocations withCategory (Entry.text chars [.problem openProblem])).messages =
      [{ openProblem.message with
          code := some "  [whitespace/braces", text := "Extra space before" }] := by
  decide +kernel

end Categorized

end Lintscope.Output

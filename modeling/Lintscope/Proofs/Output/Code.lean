import Lintscope.Output.Coded
import Lintscope.Proofs.Output.Location

/-!
# Codes before texts

Tools such as `flake8` write `path:line:column: CODE text`. Whatever the text is, a line of this
form is read as it was written (`Coded.read?_chars`): the path has no colon, so the numbers are
those behind the first colons, and the code has no blank, so the text is all that stands behind
the first blank. So an output gives back all its problems as messages, and all its other lines,
blank ones aside, as those that are left over (`Coded.ofLocations_eq`).
-/

namespace Lintscope.Output

open Text

/-! ## Capitals -/

theorem bounds_of_isUpper {c : Char} (h : c.isUpper = true) : 65 ≤ c.toNat ∧ c.toNat ≤ 90 := by
  have hval : c.val ≥ 65 ∧ c.val ≤ 90 := of_decide_eq_true h
  exact ⟨UInt32.le_iff_toNat_le.1 hval.1, UInt32.le_iff_toNat_le.1 hval.2⟩

theorem isBlank_of_isUpper {c : Char} (h : c.isUpper = true) : isBlank c = false := by
  obtain ⟨hlo, hhi⟩ := bounds_of_isUpper h
  simp only [isBlank]
  grind

theorem isUpper_of_isDigit {c : Char} (h : c.isDigit = true) : c.isUpper = false := by
  rw [Bool.eq_false_iff]
  intro hupper
  have hlo := (bounds_of_isUpper hupper).1
  have hhi := (Char.isDigit_iff_toNat.1 h).2
  have hnine : '9'.toNat = 57 := rfl
  omega

/-! ## Problems -/

/-- A problem as `flake8` writes it. -/
structure Coded where
  /-- The path. -/
  path : List Char
  /-- The line; zero for the whole file. -/
  line : Nat
  /-- The column; zero for the whole line. -/
  column : Nat
  /-- The letters of the code. -/
  letters : List Char
  /-- The number of the code. -/
  digits : List Char
  /-- What it says. -/
  text : List Char
  path_ne_nil : path ≠ [] := by decide
  colon_not_mem_path : ':' ∉ path := by decide
  newline_not_mem_path : '\n' ∉ path := by decide
  line_lt : line < limit32 := by decide
  column_lt : column < limit32 := by decide
  letters_ne_nil : letters ≠ [] := by decide
  all_isUpper_letters : letters.all Char.isUpper = true := by decide
  digits_ne_nil : digits ≠ [] := by decide
  all_isDigit_digits : digits.all Char.isDigit = true := by decide
  text_ne_nil : text ≠ [] := by decide
  newline_not_mem_text : '\n' ∉ text := by decide
  trim_text : trim text = text := by decide

namespace Coded

variable (p : Coded)

/-- The code. -/
def code : List Char := p.letters ++ p.digits

/-- The line that is written. -/
def chars : List Char :=
  p.path ++ ':' :: (numeral p.line ++ ':' :: (numeral p.column ++ ':' :: ' ' ::
    (p.code ++ ' ' :: p.text)))

/-- The message that is meant. -/
def message : Message where
  path := some (Path.canonical (.ofList p.path))
  line := if p.line = 0 then none else some p.line
  column := if p.column = 0 then none else some p.column
  code := some (.ofList p.code)
  text := .ofList p.text

variable {p}

theorem isUpper_of_mem_letters {c : Char} (h : c ∈ p.letters) : c.isUpper = true :=
  List.all_eq_true.1 p.all_isUpper_letters c h

theorem isDigit_of_mem_digits {c : Char} (h : c ∈ p.digits) : c.isDigit = true :=
  List.all_eq_true.1 p.all_isDigit_digits c h

theorem not_mem_code {c : Char} (hupper : c.isUpper = false) (hdigit : c.isDigit = false) :
    c ∉ p.code := by
  rw [code, List.mem_append, not_or]
  exact ⟨fun h => Bool.eq_false_iff.1 hupper (isUpper_of_mem_letters h),
    fun h => Bool.eq_false_iff.1 hdigit (isDigit_of_mem_digits h)⟩

theorem newline_not_mem_chars : '\n' ∉ p.chars := by
  have hcode : '\n' ∉ p.code := not_mem_code (by decide) (by decide)
  simp [chars, p.newline_not_mem_path, p.newline_not_mem_text, not_mem_numeral, hcode]

theorem getLast?_append_text (s : List Char) : (s ++ ' ' :: p.text).getLast? = p.text.getLast? := by
  rw [← List.singleton_append, ← List.append_assoc,
    List.getLast?_append_of_ne_nil _ p.text_ne_nil]

theorem getLast?_chars_ne : p.chars.getLast? ≠ some '\r' := by
  have hchars : p.chars = (p.path ++ ':' :: (numeral p.line ++ ':' :: (numeral p.column ++ ':' ::
      ' ' :: p.code))) ++ ' ' :: p.text := by
    simp [chars]
  rw [hchars]
  exact getLast?_append_cons_ne p.trim_text rfl (by decide) _

theorem isCode_code : isCode p.code = true := by
  obtain ⟨c, cs, hletters⟩ := List.exists_cons_of_ne_nil p.letters_ne_nil
  obtain ⟨d, ds, hdigits⟩ := List.exists_cons_of_ne_nil p.digits_ne_nil
  have hc : c ∈ p.letters := hletters ▸ List.mem_cons_self
  have hd : d ∈ p.digits := hdigits ▸ List.mem_cons_self
  have hdrop : p.code.dropWhile Char.isUpper = p.digits := by
    have hupper : d.isUpper = false := isUpper_of_isDigit (isDigit_of_mem_digits hd)
    rw [code, List.dropWhile_append_of_pos fun _ => isUpper_of_mem_letters, hdigits,
      List.dropWhile_cons_of_neg (by simp [hupper])]
  have hhead : p.code.head?.any Char.isUpper = true := by
    rw [code, hletters]
    exact isUpper_of_mem_letters hc
  have hall : p.digits.all Unicode.isDigit = true :=
    List.all_eq_true.2 fun c hc => isDigit_of_isDigit (isDigit_of_mem_digits hc)
  simp [isCode, hdrop, hhead, hall, p.digits_ne_nil]

theorem trim_append_text : trim (' ' :: (p.code ++ ' ' :: p.text)) = p.code ++ ' ' :: p.text := by
  refine (trim_cons_of_isBlank rfl _).trans
    (trim_eq_self_iff.2 ⟨fun c hc => ?_, fun c hc => ?_⟩)
  · have hmem : c ∈ p.letters.head? := by
      rwa [code, List.append_assoc, List.head?_append_of_ne_nil _ p.letters_ne_nil] at hc
    exact isBlank_of_isUpper (isUpper_of_mem_letters (List.mem_of_mem_head? hmem))
  · rw [getLast?_append_text] at hc
    exact (trim_eq_self_iff.1 p.trim_text).2 c hc

theorem withLeadingCode_append (m : Message) :
    withLeadingCode m (p.code ++ ' ' :: p.text) =
      (m.withText (.ofList p.text)).withCode (.ofList p.code) := by
  have hne : String.ofList p.text ≠ "" := by simp [p.text_ne_nil]
  have hblank : ' ' ∉ p.code := not_mem_code (by decide) (by decide)
  rw [withLeadingCode, cut?_singleton hblank]
  simp [isCode_code, p.trim_text, hne]

/-- The line of a problem is read as it was written. -/
theorem read?_chars :
    ((Location.read? p.chars).map fun l => withLeadingCode l.message l.rest) = some p.message := by
  have hcode : String.ofList p.code ≠ "" := by simp [code, p.letters_ne_nil]
  rw [chars, Location.read?_place p.path_ne_nil p.colon_not_mem_path p.line_lt p.column_lt,
    trim_append_text, Option.map_some, withLeadingCode_append]
  simp only [Message.withCode, Message.withText, Location.message, Message.withColumn,
    Message.about, positive?_some, message, hcode, if_false]

/-- Whatever lines without a location stand among them, problems are read as they were written,
    each as one message and in their order. Those lines that are not blank are left over, in their
    order; a carriage return in front of the newline belongs to the end of a line. -/
theorem ofLocations_eq {es : List (Entry Coded)}
    (hother : ∀ line, .other line ∈ es → '\n' ∉ line ∧ ¬Location.Located line) :
    ofLocations withLeadingCode (Entry.text chars es) =
      { messages := (Entry.problems es).map message
        others := ((Entry.others es).filter (!allBlank ·)).map (String.ofList ∘ dropReturn) } :=
  ofLocations_text (fun _ _ => ⟨newline_not_mem_chars, getLast?_chars_ne⟩) hother
    fun _ _ => read?_chars

/-- A problem without a place in its file, whose text looks like other ones. -/
def tangled : Coded where
  path := "./src/b c.py".toList
  line := 0
  column := 4294967295
  letters := "WPS".toList
  digits := "0432".toList
  text := "a:1:2: E1  x: 3  (E501)".toList
  line_lt := limit32_pos

/-- It is read among lines that say something else. -/
theorem ofLocations_tangled :
    ofLocations withLeadingCode (Entry.text chars
        [.other "Traceback (most recent call last):\r".toList, .problem tangled,
          .other " \t".toList, .problem tangled, .other "  File a.py: 3".toList]) =
      { messages := [tangled.message, tangled.message]
        others := ["Traceback (most recent call last):", "  File a.py: 3"] } ∧
    tangled.message =
      { path := some "src/b c.py", line := none, column := some 4294967295, code := some "WPS0432"
        text := "a:1:2: E1  x: 3  (E501)" } := by
  refine ⟨?_, by decide⟩
  refine (ofLocations_eq ?_).trans (by decide)
  intro line hline
  simp only [List.mem_cons, Entry.other.injEq, List.not_mem_nil, or_false, reduceCtorEq,
    false_or] at hline
  rcases hline with rfl | rfl | rfl <;> exact ⟨by decide, by decide⟩

end Coded

end Lintscope.Output

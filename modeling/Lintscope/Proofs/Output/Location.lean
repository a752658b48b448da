import Lintscope.Output.Location
import Lintscope.Proofs.Output.Entry
import Lintscope.Proofs.Text.Cut
import Lintscope.Proofs.Text.Numeral
import Mathlib.Data.Option.Basic

/-!
# Reading lines with a location

A line has a location if it has the form `path:line:...`, with a number for the line and
no colon in the path; exactly such lines are read (`Location.isSome_read?_iff`). What
stands behind the number is all that is said (`Location.read?_line`), unless it starts with
another number, which is the column (`Location.read?_place`).
-/

namespace Lintscope.Output

open Text

/-! ## Numbers -/

theorem ne_of_isDigit {c d : Char} (hc : Unicode.isDigit c = false)
    (hd : Unicode.isDigit d = true) : c ≠ d := by
  rintro rfl
  rw [hc] at hd
  cases hd

theorem number?_eq_some_iff {s rest : List Char} {n : Option Nat} :
    number? s = some (n, rest) ↔ ∃ digits, s = digits ++ ':' :: rest ∧ digits ≠ [] ∧
      (∀ c ∈ digits, Unicode.isDigit c = true) ∧ n = natOfNumeral? limit32 digits := by
  have hcolon {digits : List Char} (h : ∀ c ∈ digits, Unicode.isDigit c = true) : ':' ∉ digits :=
    fun hmem => ne_of_isDigit (by decide) (h ':' hmem) rfl
  simp only [number?, Option.bind_eq_bind, Option.bind_eq_some_iff, Option.guard_eq_some',
    Prod.exists, cut?_singleton_eq_some_iff, List.all_eq_true, exists_const, Option.pure_def,
    Option.some.injEq, Prod.mk.injEq]
  constructor
  · rintro ⟨digits, rest, ⟨rfl, -⟩, ⟨hne, hdigits⟩, rfl, rfl⟩
    exact ⟨digits, rfl, hne, hdigits, rfl⟩
  · rintro ⟨digits, rfl, hne, hdigits, rfl⟩
    exact ⟨digits, rest, ⟨rfl, hcolon hdigits⟩, ⟨hne, hdigits⟩, rfl, rfl⟩

/-- The ASCII digits are digits of a script. -/
theorem isDigit_of_isDigit {c : Char} (h : c.isDigit = true) : Unicode.isDigit c = true := by
  have hascii : c.toNat < 128 := Nat.lt_of_le_of_lt (Char.isDigit_iff_toNat.1 h).2 (by decide)
  rw [Unicode.isDigit, if_pos hascii, h]

theorem number?_numeral {n : Nat} (h : n < limit32) (rest : List Char) :
    number? (numeral n ++ ':' :: rest) = some (some n, rest) := by
  refine number?_eq_some_iff.2 ⟨numeral n, rfl, numeral_ne_nil n, fun c hc => ?_, ?_⟩
  · exact isDigit_of_isDigit (isDigit_of_mem_numeral hc)
  · rw [natOfNumeral?_numeral, if_pos h]

/-- A number starts with a digit. -/
theorem number?_cons_eq_none {c : Char} (h : Unicode.isDigit c = false) (s : List Char) :
    number? (c :: s) = none := by
  refine Option.eq_none_iff_forall_ne_some.2 fun ⟨n, rest⟩ hsome => ?_
  obtain ⟨digits, hs, hne, hdigits, -⟩ := number?_eq_some_iff.1 hsome
  obtain ⟨d, digits, rfl⟩ := List.exists_cons_of_ne_nil hne
  exact ne_of_isDigit h (hdigits d List.mem_cons_self) (List.cons.inj hs).1

/-- A tool that counts from one writes zero for no place. -/
theorem positive?_some (n : Nat) : Message.positive? (some n) = if n = 0 then none else some n := by
  by_cases h : n = 0 <;> simp [Message.positive?, Nat.pos_iff_ne_zero, h]

/-! ## Lines -/

namespace Location

/-- A line of the form `path:line:...`. -/
def Located (line : List Char) : Prop :=
  ∃ path digits rest, line = path ++ ':' :: (digits ++ ':' :: rest) ∧ path ≠ [] ∧ ':' ∉ path ∧
    digits ≠ [] ∧ ∀ c ∈ digits, Unicode.isDigit c = true

/-- Whatever is said behind a location, the line has it. -/
theorem Located.append {line : List Char} (h : Located line) (s : List Char) :
    Located (line ++ s) := by
  obtain ⟨path, digits, rest, rfl, h⟩ := h
  exact ⟨path, digits, rest ++ s, by simp, h⟩

theorem isSome_read?_iff {line : List Char} : (read? line).isSome = true ↔ Located line := by
  constructor
  · intro h
    obtain ⟨l, hl⟩ := Option.isSome_iff_exists.1 h
    simp only [read?, Option.bind_eq_bind, Option.bind_eq_some_iff, Option.guard_eq_some',
      Prod.exists, cut?_singleton_eq_some_iff, number?_eq_some_iff, exists_const] at hl
    obtain ⟨path, s, ⟨rfl, hcolon⟩, hpath, n, rest, ⟨digits, rfl, hne, hdigits, -⟩, -⟩ := hl
    exact ⟨path, digits, rest, rfl, hpath, hcolon, hne, hdigits⟩
  · rintro ⟨path, digits, rest, rfl, hpath, hcolon, hne, hdigits⟩
    have hnumber : number? (digits ++ ':' :: rest) = some (natOfNumeral? limit32 digits, rest) :=
      number?_eq_some_iff.2 ⟨digits, rfl, hne, hdigits, rfl⟩
    rw [read?, cut?_singleton hcolon]
    cases hrest : number? rest <;> simp [hpath, hnumber, hrest]

instance : DecidablePred Located := fun _ => decidable_of_iff _ isSome_read?_iff

theorem read?_line {path rest : List Char} {n : Nat} (hpath : path ≠ []) (hcolon : ':' ∉ path)
    (hn : n < limit32) (hrest : number? rest = none) :
    read? (path ++ ':' :: (numeral n ++ ':' :: rest)) =
      some { path, line := some n, rest := trim rest } := by
  rw [read?, cut?_singleton hcolon]
  simp [hpath, number?_numeral hn, hrest]

theorem read?_place {path rest : List Char} {n m : Nat} (hpath : path ≠ []) (hcolon : ':' ∉ path)
    (hn : n < limit32) (hm : m < limit32) :
    read? (path ++ ':' :: (numeral n ++ ':' :: (numeral m ++ ':' :: rest))) =
      some { path, line := some n, column := some m, rest := trim rest } := by
  rw [read?, cut?_singleton hcolon]
  simp [hpath, number?_numeral hn, number?_numeral hm]

/-- A blank line has no location. -/
theorem read?_of_allBlank {line : List Char} (h : allBlank line = true) : read? line = none := by
  refine Option.not_isSome_iff_eq_none.1 fun hsome => ?_
  obtain ⟨path, digits, rest, rfl, -⟩ := isSome_read?_iff.1 hsome
  exact absurd (List.all_eq_true.1 h ':' (by simp)) (by decide)

/-- The carriage return at the end of a line is of no matter to its form. -/
theorem read?_dropReturn_of_not_located {line : List Char} (h : ¬Located line) :
    read? (dropReturn line) = none := by
  refine Option.not_isSome_iff_eq_none.1 fun hsome => h ?_
  obtain ⟨s, hs⟩ := isPrefix_dropReturn line
  exact hs ▸ (isSome_read?_iff.1 hsome).append s

end Location

section

variable {α : Type} {finish : Message → List Char → Message} {write : α → List Char}
  {message : α → Message} {es : List (Entry α)}
  (hproblem : ∀ a, .problem a ∈ es → '\n' ∉ write a ∧ (write a).getLast? ≠ some '\r')
  (hother : ∀ line, .other line ∈ es → '\n' ∉ line ∧ ¬Location.Located line)
include hproblem hother

/-- Nothing is read of lines without a location. -/
theorem apart_of_not_located :
    ∀ e ∈ es, e.Apart write fun line =>
      (Location.read? line).map fun l => finish l.message l.rest := by
  intro e he
  cases e with
  | problem a => exact hproblem a he
  | other line =>
    obtain ⟨hnewline, hline⟩ := hother line he
    exact ⟨hnewline, congrArg _ (Location.read?_dropReturn_of_not_located hline)⟩

/-- Among lines without a location, each problem has its message, and there is no other
    message, if and only if the line of each problem is read as its message. -/
theorem messages_ofLocations_eq_iff :
    (ofLocations finish (Entry.text write es)).messages = (Entry.problems es).map message ↔
      ∀ a ∈ Entry.problems es,
        ((Location.read? (write a)).map fun l => finish l.message l.rest) = some (message a) :=
  Entry.messages_ofLines_eq_iff (apart_of_not_located hproblem hother) fun _ hline =>
    congrArg _ (Location.read?_of_allBlank hline)

/-- If the line of each problem is read as its message, the messages are those of the problems, and
    what is left over are the lines without a location that are not blank. -/
theorem ofLocations_text
    (hread : ∀ a ∈ Entry.problems es,
      ((Location.read? (write a)).map fun l => finish l.message l.rest) = some (message a)) :
    ofLocations finish (Entry.text write es) =
      { messages := (Entry.problems es).map message
        others := ((Entry.others es).filter (!allBlank ·)).map (String.ofList ∘ dropReturn) } := by
  have hmessages := (messages_ofLocations_eq_iff hproblem hother).2 hread
  have hothers := Entry.others_ofLines (apart_of_not_located hproblem hother) fun a ha =>
    Option.isSome_iff_exists.2 ⟨_, hread a ha⟩
  rw [ofLocations] at hmessages ⊢
  rw [← hmessages, ← hothers]

end

end Lintscope.Output

import Lintscope.Json.Printer
import Lintscope.Proofs.Json.EmptyList
import Lintscope.Proofs.Text.Numeral

/-!
# Reading strings and numbers that were printed

A reader takes a value off a text if it gives the value and leaves the rest of the text,
whatever the place of the text (`Takes`). A printed string is taken off whatever stands
behind it (`takes_string`), and a printed number that fits 64 bits off what can stand
behind a value in a printed text (`takes_number`).
-/

namespace Lintscope.Json.Reader

variable {α β : Type} {s t u : List Char} {a : α} {b : β}

/-! ## Taking a value off a text -/

/-- A reader gives `a` on the text `s` and leaves `t`, wherever the text starts. -/
def Takes (x : Reader α) (s : List Char) (a : α) (t : List Char) : Prop :=
  ∀ p, ∃ q, StateT.run x ⟨s, p⟩ = .ok (a, ⟨t, q⟩)

namespace Takes

theorem bind {x : Reader α} {f : α → Reader β} (hx : Takes x s a t) (hf : Takes (f a) t b u) :
    Takes (x >>= f) s b u := by
  intro p
  obtain ⟨q, hq⟩ := hx p
  obtain ⟨o, ho⟩ := hf q
  exact ⟨o, run_bind_eq_ok_iff.2 ⟨_, _, hq, ho⟩⟩

theorem pure (a : α) : Takes (Pure.pure a) s a s := fun p => ⟨p, rfl⟩

/-- What a reader does may depend on the cursor. -/
theorem get_bind {f : Cursor → Reader α} (h : ∀ p, Takes (f ⟨s, p⟩) s a t) :
    Takes (get >>= f) s a t := by
  intro p
  obtain ⟨q, hq⟩ := h p p
  exact ⟨q, run_bind_eq_ok_iff.2 ⟨_, _, rfl, hq⟩⟩

theorem lift {x : Except Error α} (h : x = .ok a) : Takes (liftM x) s a s := by
  subst h
  exact fun p => ⟨p, rfl⟩

end Takes

theorem takes_peek (s : List Char) : Takes peek s s.head? s := fun p => ⟨p, rfl⟩

theorem takes_skip (c : Char) (s : List Char) : Takes skip (c :: s) () s := fun _ => run_skip rfl

theorem takes_skipAll (n : Nat) (s : List Char) : Takes (skipAll n) s () (s.drop n) :=
  fun _ => ⟨_, rfl⟩

theorem takes_takeWhile (p : Char → Bool) (s : List Char) :
    Takes (takeWhile p) s (s.takeWhile p) (s.dropWhile p) := by
  refine .get_bind fun _ => ?_
  rw [← drop_length_takeWhile]
  exact (takes_skipAll _ s).bind (.pure _)

/-- Spaces before the next character do not matter. -/
theorem takes_next {c : Char} (h : s.dropWhile isSpace = c :: t) :
    Takes next s (some c) (c :: t) := by
  intro p
  obtain ⟨q, hq⟩ := run_next ⟨s, p⟩
  rw [h] at hq
  exact ⟨q, hq⟩

/-! ## Strings -/

theorem hexValue?_hexDigit : ∀ n < 16, hexValue? (hexDigit n) = some n := by decide

theorem takes_hex4 {n : Nat} (hn : n < 256) (t : List Char) :
    Takes hex4 (['0', '0', hexDigit (n / 16), hexDigit (n % 16)] ++ t) n t := by
  have hdigits : ['0', '0', hexDigit (n / 16), hexDigit (n % 16)].mapM hexValue? =
      some [0, 0, n / 16, n % 16] := by
    have hhigh := hexValue?_hexDigit (n / 16) (by omega)
    have hlow := hexValue?_hexDigit (n % 16) (by omega)
    have hzero : hexValue? '0' = some 0 := by decide
    simp [hzero, hhigh, hlow]
  refine .get_bind fun p => ?_
  simp only [List.cons_append, List.nil_append, List.take_succ_cons, List.take_zero, hdigits]
  have hvalue : ((0 * 16 + 0) * 16 + n / 16) * 16 + n % 16 = n := by omega
  rw [hvalue]
  exact (takes_skipAll 4 _).bind (.pure n)

/-- The characters with an escape of their own. -/
def special : List Char := ['"', '\\', '\n', '\r', '\t', '\x08', '\x0c']

theorem exists_escape_of_mem_special {c : Char} (h : c ∈ special) :
    ∃ x, Json.escape c = ['\\', x] ∧ ∀ t, Takes (escape true) (x :: t) c t := by
  simp only [special, List.mem_cons, List.not_mem_nil, or_false] at h
  rcases h with rfl | rfl | rfl | rfl | rfl | rfl | rfl
  all_goals exact ⟨_, rfl, fun t p => ⟨_, rfl⟩⟩

theorem escape_of_not_mem_special {c : Char} (h : c ∉ special) : Json.escape c =
    if c.toNat < 32 then
      ['\\', 'u', '0', '0', hexDigit (c.toNat / 16), hexDigit (c.toNat % 16)]
    else [c] := by
  have hne : ∀ d ∈ special, c.toNat ≠ d.toNat := fun d hd heq => h (Char.toNat_inj.1 heq ▸ hd)
  have hback : c.toNat ≠ 8 := hne '\x08' (by decide)
  have hfeed : c.toNat ≠ 12 := hne '\x0c' (by decide)
  simp only [special, List.mem_cons, List.not_mem_nil, or_false, not_or] at h
  simp [Json.escape, h, hback, hfeed]

theorem takes_escape_number {c : Char} (hc : c.toNat < 32) (t : List Char) :
    Takes (escape true)
      (['u', '0', '0', hexDigit (c.toNat / 16), hexDigit (c.toNat % 16)] ++ t) c t := by
  refine (takes_peek _).bind ((takes_skip _ _).bind ((takes_hex4 (by omega) t).bind ?_))
  have hlow : ¬(0xDC00 ≤ c.toNat ∧ c.toNat ≤ 0xDFFF) := by omega
  have hhigh : c.toNat < 0xD800 ∨ 0xDBFF < c.toNat := by omega
  simp only [hlow, hhigh, Char.ofNat_toNat]
  exact .pure c

/-- A character is printed as a backslash with what is read as the character, or as itself,
    if it is not special. -/
theorem escape_cases (c : Char) :
    (∃ e, Json.escape c = '\\' :: e ∧ ∀ t, Takes (escape true) (e ++ t) c t) ∨
      Json.escape c = [c] ∧ c ≠ '"' ∧ c ≠ '\\' ∧ ¬c.toNat < 0x20 := by
  by_cases hspecial : c ∈ special
  · obtain ⟨x, hx, htakes⟩ := exists_escape_of_mem_special hspecial
    exact .inl ⟨[x], hx, htakes⟩
  rw [escape_of_not_mem_special hspecial]
  split
  · next hc => exact .inl ⟨_, rfl, takes_escape_number hc⟩
  · next hc =>
    simp only [special, List.mem_cons, not_or] at hspecial
    exact .inr ⟨rfl, hspecial.1, hspecial.2.1, hc⟩

theorem takes_stringTail_cons {c : Char} {fuel : Nat} {known : List Char} {v : String}
    (h : Takes (stringTail true fuel (c :: known)) s v t) :
    Takes (stringTail true (fuel + 1) known) (Json.escape c ++ s) v t := by
  rw [stringTail]
  refine (takes_peek _).bind ?_
  rcases escape_cases c with ⟨e, he, htakes⟩ | ⟨he, hquote, hbackslash, hc⟩
  · rw [he]
    exact (takes_skip _ _).bind ((htakes s).bind h)
  · rw [he, List.cons_append, List.head?_cons]
    split
    · next heq => cases heq
    · next heq => exact absurd (Option.some.inj heq) hquote
    · next heq => exact absurd (Option.some.inj heq) hbackslash
    · next heq =>
      cases heq
      rw [if_neg hc]
      exact (takes_skip _ _).bind h

theorem takes_stringTail {cs : List Char} {fuel : Nat} (hfuel : cs.length < fuel)
    (known t : List Char) :
    Takes (stringTail true fuel known) (cs.flatMap Json.escape ++ '"' :: t)
      (String.ofList (known.reverse ++ cs)) t := by
  induction cs generalizing fuel known with
  | nil =>
    obtain ⟨fuel, rfl⟩ := Nat.exists_eq_succ_of_ne_zero (Nat.ne_of_gt hfuel)
    rw [List.append_nil]
    exact (takes_peek _).bind ((takes_skip _ _).bind (.pure _))
  | cons c cs ih =>
    obtain ⟨fuel, rfl⟩ := Nat.exists_eq_succ_of_ne_zero (Nat.ne_of_gt (Nat.zero_lt_of_lt hfuel))
    have hrest := ih (Nat.lt_of_succ_lt_succ hfuel) (c :: known)
    rw [List.reverse_cons, List.append_assoc] at hrest
    rw [List.flatMap_cons, List.append_assoc]
    exact takes_stringTail_cons hrest

theorem length_le_length_flatMap_escape (cs : List Char) :
    cs.length ≤ (cs.flatMap Json.escape).length := by
  induction cs with
  | nil => exact Nat.le_refl 0
  | cons c cs ih =>
    have hc : 0 < (Json.escape c).length := by
      rcases escape_cases c with ⟨e, he, -⟩ | ⟨he, -⟩ <;> simp [he]
    rw [List.flatMap_cons, List.length_append, List.length_cons]
    omega

/-- A printed string is read as it was, from behind its first quote on. -/
theorem takes_string (v : String) (t : List Char) :
    Takes (string true) (v.toList.flatMap Json.escape ++ '"' :: t) v t := by
  refine .get_bind fun p => ?_
  have hlength := length_le_length_flatMap_escape v.toList
  have hfuel : v.toList.length < (v.toList.flatMap Json.escape ++ '"' :: t).length + 1 := by
    rw [List.length_append]
    omega
  have htakes := takes_stringTail hfuel [] t
  rwa [List.reverse_nil, List.nil_append, String.ofList_toList] at htakes

/-! ## Numbers -/

/-- What can stand behind a value that is printed: nothing, a comma or a new line. -/
inductive Follows : List Char → Prop where
  | nil : Follows []
  | comma (s : List Char) : Follows (',' :: s)
  | newline (s : List Char) : Follows ('\n' :: s)

section

variable (ht : Follows t)
include ht

theorem takes_digits (n : Nat) (f : Flaw) :
    Takes (digits f) (Text.numeral n ++ t) (Text.numeral n) t := by
  have hdigits : ∀ c ∈ Text.numeral n, c.isDigit = true := fun _ => Text.isDigit_of_mem_numeral
  have htake : t.takeWhile Char.isDigit = [] := by cases ht <;> rfl
  have hdrop : t.dropWhile Char.isDigit = t := by cases ht <;> rfl
  have htaken := takes_takeWhile Char.isDigit (Text.numeral n ++ t)
  rw [List.takeWhile_append_of_pos hdigits, List.dropWhile_append_of_pos hdigits, htake, hdrop,
    List.append_nil] at htaken
  refine htaken.bind ?_
  split
  · next hnil => exact absurd hnil (Text.numeral_ne_nil n)
  · exact .pure _

theorem takes_numeral (n : Nat) (f : Flaw) :
    Takes (numeral f) (Text.numeral n ++ t) { whole := Text.numeral n } t := by
  rcases Nat.eq_zero_or_pos n with rfl | hn
  · have hzero : Text.numeral 0 = ['0'] := by decide
    rw [hzero]
    cases ht <;> exact fun p => ⟨_, rfl⟩
  · obtain ⟨c, ds, hcons⟩ := List.exists_cons_of_ne_nil (Text.numeral_ne_nil n)
    rw [numeral]
    refine (takes_peek _).bind ?_
    rw [hcons, List.cons_append, List.head?_cons]
    split
    · next heq =>
      refine absurd ?_ (Text.head?_numeral_ne_zero hn)
      rw [hcons, List.head?_cons, heq]
    · rw [← List.cons_append, ← hcons]
      refine (takes_digits ht n f).bind ?_
      cases ht <;> exact fun p => ⟨_, rfl⟩

end

theorem le_foldl_digitValue (n : Nat) (ds : List Char) :
    n ≤ ds.foldl (fun n d => 10 * n + Text.digitValue d) n := by
  induction ds generalizing n with
  | nil => exact Nat.le_refl n
  | cons d ds ih =>
    rw [List.foldl_cons]
    exact Nat.le_trans (by omega) (ih _)

/-- No digit is left out of a number that fits 64 bits. -/
theorem extend_eq_of_lt {n : Nat} {ds : List Char}
    (h : ds.foldl (fun n d => 10 * n + Text.digitValue d) n < Text.limit64) :
    extend n ds = (ds.foldl (fun n d => 10 * n + Text.digitValue d) n, 0) := by
  induction ds generalizing n with
  | nil => rfl
  | cons d ds ih =>
    rw [List.foldl_cons] at h ⊢
    have hlt := Nat.lt_of_le_of_lt (le_foldl_digitValue _ ds) h
    rw [extend]
    exact (if_pos hlt).trans (ih h)

/-- The numbers that are kept as whole ones. -/
def Fits (n : Int) : Prop := -9223372036854775808 ≤ n ∧ n < Text.limit64

theorem value_numeral {n : Nat} {negative : Bool} (hn : n < Text.limit64)
    (h : negative = true → 0 < n ∧ n ≤ 9223372036854775808) :
    ({ whole := Text.numeral n } : Numeral).value negative =
      .ok (.int (if negative then -n else n)) := by
  have hdigits : (Text.numeral n).foldl (fun n d => 10 * n + Text.digitValue d) 0 = n :=
    Text.digitsValue_numeral n
  have hextend : extend 0 (Text.numeral n) = (n, 0) := by
    rw [extend_eq_of_lt (by rwa [hdigits]), hdigits]
  have hsign : !negative ∨ 0 < n ∧ n ≤ 9223372036854775808 := by
    cases negative with
    | false => exact .inl rfl
    | true => exact .inr (h rfl)
  rw [Numeral.value, hextend]
  exact if_pos ⟨rfl, rfl, rfl, hsign⟩

/-- A printed number is read as it was, if it is kept as a whole one. -/
theorem takes_number {n : Int} (hn : Fits n) (ht : Follows t) :
    Takes number (integer n ++ t) (.int n) t := by
  obtain ⟨hlow, hhigh⟩ := hn
  rw [number]
  refine (takes_peek _).bind ?_
  extract_lets negative unsigned
  -- Behind the sign there are only the digits.
  have hunsigned : ∀ k : Nat, k < Text.limit64 → (negative → 0 < k ∧ k ≤ 9223372036854775808) →
      Takes (unsigned ()) (Text.numeral k ++ t) (.int (if negative then -k else k)) t := by
    intro k hk hsign
    refine (takes_numeral ht k _).bind ?_
    refine (Takes.lift (value_numeral hk (by simpa using hsign))).bind ?_
    simp only [decide_eq_true_eq]
    exact .pure _
  cases n with
  | ofNat n =>
    have hsign : ¬negative := by
      intro h
      change (Text.numeral n ++ t).head? = some '-' at h
      rw [List.head?_append_of_ne_nil _ (Text.numeral_ne_nil n)] at h
      exact Text.not_mem_numeral (by decide) n (List.mem_of_mem_head? h)
    have h := hunsigned n (Int.ofNat_lt.1 hhigh) (absurd · hsign)
    rw [if_neg hsign] at h ⊢
    exact h
  | negSucc n =>
    have hsign : negative := rfl
    have hle : n + 1 ≤ 9223372036854775808 := by omega
    have h := hunsigned (n + 1) (Nat.lt_of_le_of_lt hle (by decide)) fun _ => ⟨n.succ_pos, hle⟩
    rw [if_pos hsign] at h ⊢
    exact (takes_skip _ _).bind h

end Lintscope.Json.Reader

import Lintscope.Text.Numeral

/-!
# Reading numerals

The numeral of a number is a text of ASCII digits, at least one, and it reads
as that number wherever the number is below the limit.
-/

namespace Lintscope.Text

theorem digitsValue_eq_ofDigitChars (ds : List Char) :
    digitsValue ds = Nat.ofDigitChars 10 ds 0 := rfl

theorem limit32_pos : 0 < limit32 := Nat.two_pow_pos 32

theorem numeral_ne_nil (n : Nat) : numeral n ≠ [] := Nat.toDigits_ne_nil

theorem isDigit_of_mem_numeral {n : Nat} {c : Char} (h : c ∈ numeral n) : c.isDigit = true :=
  Nat.isDigit_of_mem_toDigits (by decide) (by decide) h

theorem digitsValue_numeral (n : Nat) : digitsValue (numeral n) = n := by
  rw [digitsValue_eq_ofDigitChars]
  exact Nat.ofDigitChars_ten_toDigits

theorem not_mem_numeral {c : Char} (h : c.isDigit = false) (n : Nat) : c ∉ numeral n :=
  fun hc => by simp [isDigit_of_mem_numeral hc] at h

theorem head?_numeral_ne_zero {n : Nat} (hn : 0 < n) : (numeral n).head? ≠ some '0' := by
  induction n using Nat.strongRecOn with
  | ind n ih =>
    rw [numeral, Nat.toDigits_eq_if (by decide)]
    split
    · next hlt =>
      have hdigit : ∀ m < 10, 0 < m → Nat.digitChar m ≠ '0' := by decide
      exact fun heq => hdigit n hlt hn (Option.some.inj heq)
    · -- The number without its last digit begins as it does.
      have hhead := ih (n / 10) (by omega) (by omega)
      rw [numeral, List.head?_eq_some_head Nat.toDigits_ne_nil] at hhead
      rwa [List.head?_append, List.head?_eq_some_head Nat.toDigits_ne_nil, Option.some_or]

/-- Without a sign, all characters of a numeral are its digits. -/
theorem natOfNumeral?_of_isDigit (limit : Nat) {ds : List Char} (hne : ds ≠ [])
    (hd : ∀ c ∈ ds, c.isDigit = true) :
    natOfNumeral? limit ds = if digitsValue ds < limit then some (digitsValue ds) else none := by
  unfold natOfNumeral?
  extract_lets digits
  have hdigits : digits = ds := by
    cases ds with
    | nil => rfl
    | cons c ds =>
      have hc : c ≠ '+' := fun hc => absurd (hd c List.mem_cons_self) (by rw [hc]; decide)
      simp [digits, hc]
  simp only [hdigits]
  simp only [ne_eq, hne, not_false_eq_true, List.all_eq_true.2 hd, true_and]

theorem natOfNumeral?_numeral (limit n : Nat) :
    natOfNumeral? limit (numeral n) = if n < limit then some n else none := by
  rw [natOfNumeral?_of_isDigit limit (numeral_ne_nil n) (fun _ => isDigit_of_mem_numeral),
    digitsValue_numeral]

end Lintscope.Text

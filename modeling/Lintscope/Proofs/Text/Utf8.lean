import Lintscope.Text.Utf8

/-!
# The octets of texts

UTF-8 keeps the order of texts: one text is before another one exactly where its
octets are before those of the other (`encode_lt_encode`). The first octet of a
character grows with the number of its octets, and among characters with as many
octets the bits go from the most significant ones in the first octet to the least
significant ones in the last (`Ordered.tail`).

A character of ASCII is an octet, and so a text of ASCII has as many octets as
characters (`encode_ascii`).
-/

namespace Lintscope.Utf8

/-- The octets for numbers below a limit are in the order of the numbers, whatever
    follows them. -/
def Ordered (f : Nat → List UInt8) (limit : Nat) : Prop :=
  ∀ m n, m < n → n < limit → ∀ s t, f m ++ s < f n ++ t

theorem cons_lt_cons_of_toNat_lt {a b : UInt8} (h : a.toNat < b.toNat) (s t : List UInt8) :
    a :: s < b :: t :=
  List.cons_lt_cons_iff.2 (.inl (UInt8.lt_iff_toNat_lt.2 h))

theorem ordered_lead {limit base : Nat} (h : limit + base ≤ 256) :
    Ordered (fun n => [UInt8.ofNat (n % limit + base)]) limit := by
  intro m n hmn hn s t
  refine cons_lt_cons_of_toNat_lt ?_ s t
  rw [UInt8.toNat_ofNat', UInt8.toNat_ofNat', Nat.mod_eq_of_lt hn,
    Nat.mod_eq_of_lt (Nat.lt_trans hmn hn)]
  omega

/-- A further octet holds six more bits. -/
theorem Ordered.tail {f : Nat → List UInt8} {limit : Nat} (h : Ordered f limit) :
    Ordered (fun n => f (n / 64) ++ [UInt8.ofNat (n % 64 + 128)]) (64 * limit) := by
  intro m n hmn hn s t
  rw [List.append_assoc, List.append_assoc]
  rcases Nat.lt_or_ge (m / 64) (n / 64) with hlt | hge
  · exact h _ _ hlt (by omega) _ _
  · -- What comes before the last octet is the same.
    have heq : m / 64 = n / 64 := by omega
    rw [heq]
    refine List.append_left_lt (cons_lt_cons_of_toNat_lt ?_ s t)
    rw [UInt8.toNat_ofNat', UInt8.toNat_ofNat']
    omega

theorem ordered_two : Ordered
    (fun n => [UInt8.ofNat (n / 64 % 32 + 192), UInt8.ofNat (n % 64 + 128)]) (64 * 32) :=
  (ordered_lead (by decide)).tail

theorem ordered_three : Ordered
    (fun n => [UInt8.ofNat (n / 4096 % 16 + 224), UInt8.ofNat (n / 64 % 64 + 128),
      UInt8.ofNat (n % 64 + 128)]) (64 * (64 * 16)) := by
  have hlead : Ordered (fun n => [UInt8.ofNat (n % 16 + 224)]) 16 := ordered_lead (by decide)
  have h := hlead.tail.tail
  simp only [Nat.div_div_eq_div_mul] at h
  exact h

theorem ordered_four : Ordered
    (fun n => [UInt8.ofNat (n / 262144 % 8 + 240), UInt8.ofNat (n / 4096 % 64 + 128),
      UInt8.ofNat (n / 64 % 64 + 128), UInt8.ofNat (n % 64 + 128)]) (64 * (64 * (64 * 8))) := by
  have hlead : Ordered (fun n => [UInt8.ofNat (n % 8 + 240)]) 8 := ordered_lead (by decide)
  have h := hlead.tail.tail.tail
  simp only [Nat.div_div_eq_div_mul] at h
  exact h

theorem toNat_val_lt (c : Char) : c.val.toNat < 0x110000 := by
  rcases c.valid with h | ⟨-, h⟩
  · exact Nat.lt_trans h (by decide)
  · exact h

/-- The octets of characters are in the order of the characters, whatever follows them. -/
theorem utf8EncodeChar_append_lt {c d : Char} (h : c < d) (s t : List UInt8) :
    String.utf8EncodeChar c ++ s < String.utf8EncodeChar d ++ t := by
  have hcd : c.val.toNat < d.val.toNat := h
  have hd := toNat_val_lt d
  unfold String.utf8EncodeChar
  generalize c.val.toNat = v at hcd
  generalize d.val.toNat = w at hcd hd
  dsimp only
  -- The greater character has no fewer octets; if it has more, the first one tells.
  by_cases h1 : v ≤ 127
  · rw [if_pos h1]
    repeat' split
    all_goals exact cons_lt_cons_of_toNat_lt (by simp only [UInt8.toNat_ofNat']; omega) _ _
  have h1' : ¬w ≤ 127 := by omega
  rw [if_neg h1, if_neg h1']
  by_cases h2 : v ≤ 2047
  · rw [if_pos h2]
    split
    · exact ordered_two v w hcd (by omega) s t
    split
    all_goals exact cons_lt_cons_of_toNat_lt (by simp only [UInt8.toNat_ofNat']; omega) _ _
  have h2' : ¬w ≤ 2047 := by omega
  rw [if_neg h2, if_neg h2']
  by_cases h3 : v ≤ 65535
  · rw [if_pos h3]
    split
    · exact ordered_three v w hcd (by omega) s t
    · exact cons_lt_cons_of_toNat_lt (by simp only [UInt8.toNat_ofNat']; omega) _ _
  have h3' : ¬w ≤ 65535 := by omega
  rw [if_neg h3, if_neg h3']
  exact ordered_four v w hcd (by omega) s t

theorem utf8EncodeChar_ne_nil (c : Char) : String.utf8EncodeChar c ≠ [] :=
  List.ne_nil_of_length_pos (String.length_utf8EncodeChar c ▸ c.utf8Size_pos)

/-- The octets of texts are in the order of the texts. -/
theorem encode_lt_encode {s t : List Char} (h : s < t) : encode s < encode t := by
  induction (h : List.Lex (· < ·) s t) with
  | @nil c t =>
    obtain ⟨b, bs, hb⟩ := List.exists_cons_of_ne_nil (utf8EncodeChar_ne_nil c)
    rw [encode, encode, List.flatMap_cons, hb]
    exact List.nil_lt_cons b _
  | cons h ih => exact List.append_left_lt ih
  | rel h => exact utf8EncodeChar_append_lt h _ _

/-! ## ASCII -/

/-- All characters are of ASCII. -/
def IsAscii (s : List Char) : Prop := ∀ c ∈ s, c.toNat < 128

instance (s : List Char) : Decidable (IsAscii s) :=
  List.decidableBAll (fun c : Char => c.toNat < 128) s

theorem IsAscii.mono {s t : List Char} (h : IsAscii t) (hs : s ⊆ t) : IsAscii s :=
  fun c hc => h c (hs hc)

/-- The octet of a character of ASCII. -/
def octet (c : Char) : UInt8 := UInt8.ofNat c.toNat

theorem utf8EncodeChar_ascii {c : Char} (h : c.toNat < 128) :
    String.utf8EncodeChar c = [octet c] := by
  have hle : c.val.toNat ≤ 127 := Nat.le_of_lt_succ h
  unfold String.utf8EncodeChar
  dsimp only
  rw [if_pos hle]
  rfl

theorem encode_ascii {s : List Char} (h : IsAscii s) : encode s = s.map octet := by
  induction s with
  | nil => rfl
  | cons c s ih =>
    obtain ⟨hc, hs⟩ := List.forall_mem_cons.1 h
    rw [encode, List.flatMap_cons, utf8EncodeChar_ascii hc, ← encode, ih hs]
    rfl

theorem toNat_octet {c : Char} (h : c.toNat < 128) : (octet c).toNat = c.toNat := by
  rw [octet, UInt8.toNat_ofNat']
  omega

theorem octet_le_octet_iff {c d : Char} (hc : c.toNat < 128) (hd : d.toNat < 128) :
    octet c ≤ octet d ↔ c ≤ d := by
  rw [UInt8.le_iff_toNat_le, toNat_octet hc, toNat_octet hd]
  rfl

theorem octet_inj {c d : Char} (hc : c.toNat < 128) (hd : d.toNat < 128) :
    octet c = octet d ↔ c = d := by
  refine ⟨fun h => ?_, congrArg octet⟩
  have hn := congrArg UInt8.toNat h
  rw [toNat_octet hc, toNat_octet hd] at hn
  exact Char.toNat_inj.1 hn

end Lintscope.Utf8

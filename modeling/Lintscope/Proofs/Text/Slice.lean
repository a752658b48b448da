import Lintscope.Proofs.Text.Utf8

/-!
# Slices of texts

A text can be cut at an octet only if a character starts there, or at its end
(`Utf8.cutAt?_eq_some_iff`). So a slice from one octet up to another one is a
part of the text, or it is none (`Utf8.slice?_eq_some_iff`).

The octets tell where that is (`Utf8.isSome_cutAt?`): those that go on with a
character are none that one can start with. A search from an octet on goes to the
first such place (`Utf8.nextStart?_eq_some_iff`).
-/

namespace Lintscope.Utf8

theorem size_append (s t : List Char) : size (s ++ t) = size s + size t := by
  induction s with
  | nil => simp [size]
  | cons c s ih => rw [List.cons_append, size, size, ih, Nat.add_assoc]

theorem size_le_of_isSuffix {s t : List Char} (h : t <:+ s) : size t ≤ size s := by
  obtain ⟨before, rfl⟩ := h
  rw [size_append]
  exact Nat.le_add_left _ _

/-- The characters before an octet of a text, and those from it on. There is no such cut
    inside a character, nor behind the end. -/
def cutAt? : Nat → List Char → Option (List Char × List Char)
  | 0, s => some ([], s)
  | _ + 1, [] => none
  | n + 1, c :: s =>
    if n + 1 < c.utf8Size then none
    else (cutAt? (n + 1 - c.utf8Size) s).map fun (before, after) => (c :: before, after)

/-- The characters of a text from an octet up to another one. -/
def slice? (first last : Nat) (s : List Char) : Option (List Char) := do
  let (before, _) ← cutAt? last s
  let (_, part) ← cutAt? first before
  return part

theorem cutAt?_size (before after : List Char) :
    cutAt? (size before) (before ++ after) = some (before, after) := by
  induction before with
  | nil => rw [size, cutAt?, List.nil_append]
  | cons c before ih =>
    have hpos := c.utf8Size_pos
    obtain ⟨n, hn⟩ := Nat.exists_eq_add_one_of_ne_zero (n := c.utf8Size + size before) (by omega)
    have hrest : n + 1 - c.utf8Size = size before := by omega
    rw [size, hn, List.cons_append, cutAt?, if_neg (by omega), hrest, ih]
    rfl

theorem cutAt?_eq_some_iff {n : Nat} {s before after : List Char} :
    cutAt? n s = some (before, after) ↔ s = before ++ after ∧ n = size before := by
  refine ⟨fun h => ?_, fun ⟨hs, hn⟩ => hs ▸ hn ▸ cutAt?_size before after⟩
  fun_induction cutAt? n s generalizing before with
  | case1 s =>
    cases h
    exact ⟨rfl, rfl⟩
  | case2 => cases h
  | case3 => cases h
  | case4 n c s hsize ih =>
    obtain ⟨⟨rest, _⟩, hrest, heq⟩ := Option.map_eq_some_iff.1 h
    cases heq
    obtain ⟨rfl, hn⟩ := ih hrest
    exact ⟨rfl, by rw [size]; omega⟩

theorem slice?_eq_some_iff {first last : Nat} {s part : List Char} :
    slice? first last s = some part ↔ ∃ before after, s = before ++ part ++ after ∧
      first = size before ∧ last = size (before ++ part) := by
  simp only [slice?, Option.bind_eq_bind, Option.bind_eq_some_iff, Prod.exists, Option.pure_def,
    Option.some.injEq, cutAt?_eq_some_iff]
  constructor
  · rintro ⟨_, after, ⟨rfl, rfl⟩, before, _, ⟨rfl, rfl⟩, rfl⟩
    exact ⟨before, after, rfl, rfl, rfl⟩
  · rintro ⟨before, after, rfl, rfl, rfl⟩
    exact ⟨before ++ part, after, ⟨rfl, rfl⟩, before, part, ⟨rfl, rfl⟩, rfl⟩

/-! ## Where characters start -/

/-- Whether an octet goes on with a character that started before it. -/
def isTail (o : UInt8) : Bool := 0x80 ≤ o.toNat && o.toNat < 0xC0

/-- Whether a character starts at an octet of a text, or the text ends there. -/
def startsAt (octets : List UInt8) (n : Nat) : Bool :=
  match octets[n]? with
  | some o => !isTail o
  | none => n == octets.length

/-- The first octet from `n` on where a character starts, or the text ends. There is none if the
    search passes the end. -/
def nextStart? (octets : List UInt8) (n : Nat) : Option Nat :=
  if startsAt octets n then some n
  else if n < octets.length then nextStart? octets (n + 1)
  else none
termination_by octets.length - n

theorem encode_cons (c : Char) (s : List Char) :
    encode (c :: s) = String.utf8EncodeChar c ++ encode s :=
  List.flatMap_cons

theorem length_encode (s : List Char) : (encode s).length = size s := by
  induction s with
  | nil => rfl
  | cons c s ih =>
    rw [encode_cons, List.length_append, String.length_utf8EncodeChar, ih, size]

theorem isTail_sixBits (n : Nat) : isTail (UInt8.ofNat (n % 64 + 128)) = true := by
  rw [isTail, UInt8.toNat_ofNat', Bool.and_eq_true, decide_eq_true_eq, decide_eq_true_eq]
  omega

theorem isTail_ofNat_of_lt {n : Nat} (h : n < 256) (hlead : n < 128 ∨ 192 ≤ n) :
    isTail (UInt8.ofNat n) = false := by
  rw [isTail, UInt8.toNat_ofNat', Bool.and_eq_false_iff, decide_eq_false_iff_not,
    decide_eq_false_iff_not]
  omega

/-- The first octet of a character is the only one that does not go on with it. -/
theorem exists_utf8EncodeChar_eq (c : Char) : ∃ lead tails,
    String.utf8EncodeChar c = lead :: tails ∧ isTail lead = false ∧
      ∀ o ∈ tails, isTail o = true := by
  unfold String.utf8EncodeChar
  dsimp only
  repeat' split
  all_goals exact ⟨_, _, rfl, isTail_ofNat_of_lt (by omega) (by omega), by
    simp only [List.forall_mem_cons, isTail_sixBits, List.not_mem_nil, false_imp_iff,
      implies_true, and_self]⟩

theorem startsAt_append (before after : List UInt8) (n : Nat) :
    startsAt (before ++ after) (before.length + n) = startsAt after n := by
  rw [startsAt, startsAt, List.getElem?_append_right (Nat.le_add_right _ _),
    Nat.add_sub_cancel_left]
  cases after[n]? with
  | some o => rfl
  | none =>
    rw [Bool.eq_iff_iff, beq_iff_eq, beq_iff_eq, List.length_append]
    exact Nat.add_left_cancel_iff

theorem le_length_of_startsAt {octets : List UInt8} {n : Nat} (h : startsAt octets n = true) :
    n ≤ octets.length := by
  rw [startsAt] at h
  split at h
  · next o ho => exact Nat.le_of_lt (List.getElem?_eq_some_iff.1 ho).1
  · exact Nat.le_of_eq (beq_iff_eq.1 h)

/-- A text can be cut where its octets say that a character starts, or at its end. -/
theorem isSome_cutAt? (n : Nat) (s : List Char) :
    (cutAt? n s).isSome = startsAt (encode s) n := by
  fun_induction cutAt? n s with
  | case1 s =>
    cases s with
    | nil => rfl
    | cons c s =>
      obtain ⟨lead, tails, hc, hlead, -⟩ := exists_utf8EncodeChar_eq c
      rw [encode_cons, hc, startsAt, List.cons_append, List.getElem?_cons_zero]
      exact (congrArg (!·) hlead).symm
  | case2 n => rfl
  | case3 n c s hsize =>
    obtain ⟨lead, tails, hc, -, htails⟩ := exists_utf8EncodeChar_eq c
    have hlength : n < tails.length := by
      rw [← String.length_utf8EncodeChar, hc] at hsize
      exact Nat.lt_of_succ_lt_succ hsize
    have hoctet : (encode (c :: s))[n + 1]? = some tails[n] := by
      rw [encode_cons, hc, List.cons_append, List.getElem?_cons_succ,
        List.getElem?_append_left hlength, List.getElem?_eq_getElem hlength]
    rw [startsAt, hoctet]
    exact (congrArg (!·) (htails _ (List.getElem_mem hlength))).symm
  | case4 n c s hsize ih =>
    obtain ⟨k, hk⟩ := Nat.exists_eq_add_of_le (Nat.le_of_not_lt hsize)
    rw [hk, Nat.add_sub_cancel_left] at ih
    rw [Option.isSome_map, Nat.succ_eq_add_one, hk, Nat.add_sub_cancel_left, ih, encode_cons,
      ← String.length_utf8EncodeChar, startsAt_append]

theorem nextStart?_eq_some_iff {octets : List UInt8} {n m : Nat} :
    nextStart? octets n = some m ↔
      n ≤ m ∧ startsAt octets m = true ∧ ∀ k, n ≤ k → k < m → startsAt octets k = false := by
  fun_induction nextStart? octets n with
  | case1 n hstart =>
    rw [Option.some.injEq]
    constructor
    · rintro rfl
      exact ⟨Nat.le_refl n, hstart, fun k hk hlt => absurd hlt (Nat.not_lt.2 hk)⟩
    · rintro ⟨hle, -, hbefore⟩
      refine Nat.le_antisymm hle (Nat.not_lt.1 fun hlt => ?_)
      exact absurd hstart (Bool.eq_false_iff.1 (hbefore n (Nat.le_refl n) hlt))
  | case2 n hstart hlt ih =>
    rw [ih]
    constructor
    · rintro ⟨hle, hm, hbefore⟩
      refine ⟨Nat.le_of_succ_le hle, hm, fun k hk hkm => ?_⟩
      rcases Nat.eq_or_lt_of_le hk with rfl | hk
      · exact Bool.eq_false_iff.2 hstart
      · exact hbefore k hk hkm
    · rintro ⟨hle, hm, hbefore⟩
      have hne : n ≠ m := fun h => hstart (h ▸ hm)
      exact ⟨Nat.lt_of_le_of_ne hle hne, hm, fun k hk => hbefore k (Nat.le_of_succ_le hk)⟩
  | case3 n hstart hend =>
    refine iff_of_false nofun fun ⟨hle, hm, _⟩ => ?_
    -- No character starts at `n`, and the text ends before what comes after it.
    have hlength := le_length_of_startsAt hm
    have hne : n ≠ m := fun h => hstart (h ▸ hm)
    omega

end Lintscope.Utf8

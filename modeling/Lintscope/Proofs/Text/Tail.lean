import Lintscope.Proofs.Text.Slice
import Lintscope.Text.Tail
import Mathlib.Data.List.Infix
import Mathlib.Data.Nat.PSub

/-!
# What is kept of a long text

Of a text that is too long its end is kept: its last lines, and of these the longest end that does
not have too many octets (`IsLongestEnd`), with a mark before it (`tail_isLongestEnd_and_slices`).

The end may also be found by octets. Then the limits are subtracted from what there is, the lines
are a slice, and the octet to cut at is searched from the first one that is not too far from the
end. Whatever the text and the limits, nothing of this fails, and what comes of it is what is kept
(`tailByOctets?_eq`).
-/

namespace Lintscope.Text

/-! ## The last lines -/

theorem exists_lastLines_eq (count : Nat) (s : List Char) :
    ∃ kept, kept <:+ lines (trimEnd s) ∧ kept.length = min count (lines (trimEnd s)).length ∧
      lastLines count s = join ['\n'] kept := by
  refine ⟨_, List.drop_suffix _ _, ?_, rfl⟩
  rw [List.length_drop]
  omega

/-- The last lines of a text, as a slice of its lines. There are none if the slice would start
    before the first line or behind the last one. -/
def lastLinesBySlice? (count : Nat) (s : List Char) : Option (List Char) :=
  let all := lines (trimEnd s)
  if count < all.length then do
    let first ← all.length.psub count
    if first ≤ all.length then some (join ['\n'] (all.drop first)) else none
  else some (join ['\n'] all)

theorem lastLinesBySlice?_eq (count : Nat) (s : List Char) :
    lastLinesBySlice? count s = some (lastLines count s) := by
  rw [lastLinesBySlice?, lastLines]
  generalize lines (trimEnd s) = all
  split
  · next hlt =>
    rw [Nat.psub_eq_sub (Nat.le_of_lt hlt), Option.bind_eq_bind, Option.bind_some,
      if_pos (Nat.sub_le _ _)]
  · next hge =>
    have hall : all.length - count = 0 := by omega
    rw [hall, List.drop_zero]

/-! ## The longest end -/

/-- The longest end of a text with at most as many octets as a limit says. -/
structure IsLongestEnd (limit : Nat) (s rest : List Char) : Prop where
  isSuffix : rest <:+ s
  size_le : Utf8.size rest ≤ limit
  longest : ∀ t, t <:+ s → Utf8.size t ≤ limit → t <:+ rest

theorem dropOctets_isSuffix (n : Nat) (s : List Char) : dropOctets n s <:+ s := by
  fun_induction dropOctets n s with
  | case1 s => exact List.suffix_refl s
  | case2 n hn => exact List.suffix_refl []
  | case3 n c s hn ih => exact ih.trans (List.suffix_cons c s)

/-- An end of a text is left if, and only if, so many octets stand before it. -/
theorem isSuffix_dropOctets_iff {n : Nat} {s t : List Char} (hn : n ≤ Utf8.size s) (ht : t <:+ s) :
    t <:+ dropOctets n s ↔ n + Utf8.size t ≤ Utf8.size s := by
  fun_induction dropOctets n s with
  | case1 s =>
    rw [Nat.zero_add]
    exact iff_of_true ht (Utf8.size_le_of_isSuffix ht)
  | case2 n hn0 => exact absurd (Nat.le_zero.1 hn) hn0
  | case3 n c s hn0 ih =>
    rw [Utf8.size] at hn ⊢
    rcases List.suffix_cons_iff.1 ht with rfl | ht
    · -- Some octets are left out, and so the first character is.
      have hpos : 0 < n := Nat.pos_of_ne_zero hn0
      refine iff_of_false (fun h => ?_) (by rw [Utf8.size]; omega)
      exact absurd (h.trans (dropOctets_isSuffix _ s)).length_le (Nat.not_succ_le_self _)
    · have hsize := Utf8.size_le_of_isSuffix ht
      rw [ih (by omega) ht]
      omega

theorem isLongestEnd_dropOctets (limit : Nat) (s : List Char) :
    IsLongestEnd limit s (dropOctets (Utf8.size s - limit) s) := by
  have hn : Utf8.size s - limit ≤ Utf8.size s := Nat.sub_le _ _
  have hsuffix := dropOctets_isSuffix (Utf8.size s - limit) s
  refine ⟨hsuffix, ?_, fun t ht hlimit => ?_⟩
  · have hsize := (isSuffix_dropOctets_iff hn hsuffix).1 (List.suffix_refl _)
    omega
  · have hsize := Utf8.size_le_of_isSuffix ht
    exact (isSuffix_dropOctets_iff hn ht).2 (by omega)

/-! ## Ends cut off by octets -/

/-- The search from an octet on ends within the text, where what is left starts. -/
theorem exists_nextStart?_eq {n : Nat} {s : List Char} (hn : n ≤ Utf8.size s) :
    ∃ before, s = before ++ dropOctets n s ∧
      Utf8.nextStart? (Utf8.encode s) n = some (Utf8.size before) := by
  obtain ⟨before, hs⟩ := dropOctets_isSuffix n s
  have hsize : Utf8.size s = Utf8.size before + Utf8.size (dropOctets n s) := by
    rw [← Utf8.size_append, hs]
  refine ⟨before, hs.symm, Utf8.nextStart?_eq_some_iff.2 ⟨?_, ?_, fun k hk hlt => ?_⟩⟩
  · have hle := (isSuffix_dropOctets_iff hn (dropOctets_isSuffix n s)).1 (List.suffix_refl _)
    omega
  · rw [← Utf8.isSome_cutAt?, ← hs, Utf8.cutAt?_size]
    rfl
  · -- A cut before that one would leave more, and leave out enough.
    rw [← Utf8.isSome_cutAt?, Option.isSome_eq_false_iff, Option.isNone_iff_eq_none,
      Option.eq_none_iff_forall_ne_some]
    rintro ⟨b, a⟩ hcut
    obtain ⟨rfl, rfl⟩ := Utf8.cutAt?_eq_some_iff.1 hcut
    have hleft : a <:+ dropOctets n (b ++ a) := by
      refine (isSuffix_dropOctets_iff hn (List.suffix_append b a)).2 ?_
      rw [Utf8.size_append]
      exact Nat.add_le_add_right hk _
    have hle := Utf8.size_le_of_isSuffix hleft
    rw [Utf8.size_append] at hsize
    omega

/-- The end of a text, found by octets. Nothing is found if the limit cannot be subtracted, if the
    search for the octet to cut at passes the end, or if the slice is none. -/
def tailByOctets? (lineCount octets : Nat) (s : List Char) : Option (List Char) := do
  let whole ← lastLinesBySlice? lineCount s
  let all := Utf8.encode whole
  if octets < all.length then
    let first ← all.length.psub octets
    let start ← Utf8.nextStart? all first
    let rest ← Utf8.slice? start all.length whole
    return ellipsis ++ rest
  else return whole

theorem tailByOctets?_eq (lineCount octets : Nat) (s : List Char) :
    tailByOctets? lineCount octets s = some (tail lineCount octets s) := by
  rw [tailByOctets?, lastLinesBySlice?_eq, tail]
  generalize lastLines lineCount s = whole
  simp only [Option.bind_eq_bind, Option.bind_some, Utf8.length_encode]
  by_cases hle : Utf8.size whole ≤ octets
  · rw [if_neg (Nat.not_lt.2 hle), if_pos hle]
    rfl
  · have hfirst := Nat.psub_eq_sub (Nat.le_of_not_le hle)
    obtain ⟨before, hwhole, hstart⟩ := exists_nextStart?_eq (Nat.sub_le (Utf8.size whole) octets)
    generalize dropOctets (Utf8.size whole - octets) whole = rest at hwhole ⊢
    have hrest : Utf8.slice? (Utf8.size before) (Utf8.size whole) whole = some rest :=
      Utf8.slice?_eq_some_iff.2 ⟨before, [], by rw [List.append_nil, hwhole], rfl, by rw [hwhole]⟩
    rw [if_pos (Nat.lt_of_not_le hle), if_neg hle]
    simp only [hfirst, hstart, hrest, Option.bind_some, Option.pure_def]

/-- The last lines of a text are kept as they are if they have no more octets than the limit says.
    Otherwise their longest end within the limit is kept, behind a mark: the search for the octet
    to cut at ends within the lines, where that end starts. Found by octets, it is the same: no
    subtraction goes below zero, no search passes the end, and no slice is out of bounds or cuts a
    character. -/
theorem tail_isLongestEnd_and_slices (lineCount octets : Nat) (s : List Char) :
    (∃ kept whole, kept <:+ lines (trimEnd s) ∧
      kept.length = min lineCount (lines (trimEnd s)).length ∧ whole = join ['\n'] kept ∧
      (Utf8.size whole ≤ octets ∧ tail lineCount octets s = whole ∨
        octets < Utf8.size whole ∧ ∃ before rest, whole = before ++ rest ∧
          Utf8.nextStart? (Utf8.encode whole) (Utf8.size whole - octets) =
            some (Utf8.size before) ∧
          IsLongestEnd octets whole rest ∧
          tail lineCount octets s = "...(truncated)...\n".toList ++ rest)) ∧
    tailByOctets? lineCount octets s = some (tail lineCount octets s) := by
  obtain ⟨kept, hkept, hlength, hlast⟩ := exists_lastLines_eq lineCount s
  refine ⟨⟨kept, _, hkept, hlength, hlast, ?_⟩, tailByOctets?_eq lineCount octets s⟩
  rw [tail]
  generalize lastLines lineCount s = whole
  by_cases hle : Utf8.size whole ≤ octets
  · exact .inl ⟨hle, if_pos hle⟩
  · obtain ⟨before, hwhole, hstart⟩ := exists_nextStart?_eq (Nat.sub_le (Utf8.size whole) octets)
    exact .inr ⟨Nat.lt_of_not_le hle, before, _, hwhole, hstart,
      isLongestEnd_dropOctets octets whole, if_neg hle⟩

example : tail 2 6 "a\nb€c\r\nüd \n".toList = "...(truncated)...\nc\nüd".toList := by decide

end Lintscope.Text

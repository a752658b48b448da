import Lintscope.Text.Blank
import Lintscope.Text.Cut
import Mathlib.Data.List.Induction

/-!
# Cutting and trimming

Where a text put together from parts is cut: at the separator that was put
there, if no part has one of its own.
-/

namespace Lintscope.Text

/-! ## Leads and tails -/

@[simp]
theorem dropLead?_append (lead s : List Char) : dropLead? lead (lead ++ s) = some s :=
  dropLead?_eq_some_iff.2 rfl

@[simp]
theorem dropLead?_singleton (c : Char) (s : List Char) : dropLead? [c] (c :: s) = some s :=
  dropLead?_append [c] s

@[simp]
theorem dropLead_append (lead s : List Char) : dropLead lead (lead ++ s) = s := by
  simp [dropLead]

theorem dropLead?_eq_none_iff {lead s : List Char} : dropLead? lead s = none ↔ ¬lead <+: s := by
  rw [← not_iff_not, not_not, ← ne_eq, Option.ne_none_iff_exists']
  exact exists_congr fun rest => dropLead?_eq_some_iff.trans eq_comm

theorem dropLead_of_not_isPrefix {lead s : List Char} (h : ¬lead <+: s) : dropLead lead s = s := by
  rw [dropLead]
  cases hs : dropLead? lead s with
  | none => rfl
  | some rest => exact absurd ⟨rest, (dropLead?_eq_some_iff.1 hs).symm⟩ h

theorem dropLead_eq_nil_iff {lead s : List Char} : dropLead lead s = [] ↔ s = lead ∨ s = [] := by
  by_cases h : lead <+: s
  · obtain ⟨rest, rfl⟩ := h
    rw [dropLead_append, List.append_eq_nil_iff, List.append_right_eq_self]
    exact ⟨.inl, fun h => h.elim id And.right⟩
  · have hne : s ≠ lead := fun heq => h (heq ▸ List.prefix_refl s)
    rw [dropLead_of_not_isPrefix h]
    exact ⟨.inr, fun h => h.resolve_left hne⟩

theorem startsWith_iff {lead s : List Char} : startsWith lead s = true ↔ lead <+: s := by
  rw [startsWith, Option.isSome_iff_exists]
  exact exists_congr fun rest => dropLead?_eq_some_iff.trans eq_comm

theorem dropTail?_eq_some_iff {tail s rest : List Char} :
    dropTail? tail s = some rest ↔ s = rest ++ tail := by
  rw [dropTail?, Option.map_eq_some_iff]
  constructor
  · rintro ⟨t, ht, rfl⟩
    rw [dropLead?_eq_some_iff] at ht
    simpa using congrArg List.reverse ht
  · rintro rfl
    exact ⟨rest.reverse, by simp, by simp⟩

theorem endsWith_singleton {c : Char} {s : List Char} :
    endsWith [c] s = true ↔ s.getLast? = some c := by
  rw [endsWith, Option.isSome_iff_exists, List.getLast?_eq_some_iff]
  exact exists_congr fun rest => dropTail?_eq_some_iff

/-! ## Blanks at the end -/

theorem dropEndWhile_concat (p : Char → Bool) (s : List Char) (c : Char) :
    dropEndWhile p (s ++ [c]) = if p c then dropEndWhile p s else s ++ [c] := by
  induction s with
  | nil => simp [dropEndWhile]
  | cons d s ih =>
    rw [List.cons_append, dropEndWhile, ih]
    by_cases hc : p c = true
    · rw [if_pos hc, if_pos hc, dropEndWhile]
    · rw [if_neg hc, if_neg hc]
      cases s <;> rfl

theorem trimEnd_concat {c : Char} (h : isBlank c = false) (s : List Char) :
    trimEnd (s ++ [c]) = s ++ [c] := by
  rw [trimEnd, dropEndWhile_concat, h]
  rfl

theorem trimEnd_concat_of_isBlank {c : Char} (h : isBlank c = true) (s : List Char) :
    trimEnd (s ++ [c]) = trimEnd s := by
  rw [trimEnd, dropEndWhile_concat, if_pos h, trimEnd]

theorem trimEnd_of_getLast? {s : List Char} (h : ∀ c ∈ s.getLast?, isBlank c = false) :
    trimEnd s = s := by
  rcases List.eq_nil_or_concat s with rfl | ⟨s, c, rfl⟩
  · rfl
  · rw [List.concat_eq_append] at h ⊢
    exact trimEnd_concat (h c (by simp)) s

theorem isPrefix_trimEnd (s : List Char) : trimEnd s <+: s := by
  induction s using List.reverseRecOn with
  | nil => exact List.prefix_refl []
  | append_singleton s c ih =>
    rw [trimEnd, dropEndWhile_concat]
    split
    · exact ih.trans (List.prefix_append s [c])
    · exact List.prefix_refl _

theorem length_trimEnd_lt {s : List Char} (h : s.getLast?.any isBlank = true) :
    (trimEnd s).length < s.length := by
  rcases List.eq_nil_or_concat s with rfl | ⟨s, c, rfl⟩
  · cases h
  · have hc : isBlank c = true := by simpa using h
    rw [List.concat_eq_append, trimEnd, dropEndWhile_concat, if_pos hc, List.length_append]
    exact Nat.lt_succ_of_le (isPrefix_trimEnd s).length_le

/-- What does not end with a blank stays, whatever follows it. -/
theorem trimEnd_append {s : List Char} (h : ∀ c ∈ s.getLast?, isBlank c = false) (t : List Char) :
    trimEnd (s ++ t) = s ++ trimEnd t := by
  induction t using List.reverseRecOn with
  | nil => simpa [trimEnd, dropEndWhile] using trimEnd_of_getLast? h
  | append_singleton t c ih =>
    rw [← List.append_assoc, trimEnd, dropEndWhile_concat, trimEnd, dropEndWhile_concat]
    split
    · exact ih
    · rw [List.append_assoc]

/-- What starts with no blank stays, whatever comes before it. -/
theorem trimStart_append_cons {c : Char} (h : isBlank c = false) (s t : List Char) :
    trimStart (s ++ c :: t) = trimStart s ++ c :: t := by
  rw [trimStart, trimStart, List.dropWhile_append]
  split
  · next hs =>
    rw [List.isEmpty_iff.1 hs, List.dropWhile_cons_of_neg (by simp [h])]
    rfl
  · rfl

theorem isBlank_of_mem_getLast?_trimEnd (s : List Char) :
    ∀ c ∈ (trimEnd s).getLast?, isBlank c = false := by
  induction s using List.reverseRecOn with
  | nil => nofun
  | append_singleton s c ih =>
    rw [trimEnd, dropEndWhile_concat]
    split
    · exact ih
    · next hc =>
      intro d hd
      rw [List.getLast?_append, List.getLast?_singleton, Option.some_or] at hd
      cases hd
      exact Bool.eq_false_iff.2 hc

theorem trim_cons_of_isBlank {c : Char} (h : isBlank c = true) (s : List Char) :
    trim (c :: s) = trim s := by
  rw [trim, trim, trimStart, List.dropWhile_cons_of_pos h, trimStart]

/-- Trimmed is what has no blank at either end. -/
theorem trim_eq_self_iff {s : List Char} :
    trim s = s ↔ (∀ c ∈ s.head?, isBlank c = false) ∧ ∀ c ∈ s.getLast?, isBlank c = false := by
  constructor
  · intro h
    constructor
    · intro c hc
      have hlength := (isPrefix_trimEnd (trimStart s)).length_le
      rw [← trim, h] at hlength
      have hstart : trimStart s = s := (List.dropWhile_suffix isBlank).eq_of_length_le hlength
      have hstop := List.head?_dropWhile_not isBlank s
      rwa [← trimStart, hstart, hc] at hstop
    · intro c hc
      rw [← h] at hc
      exact isBlank_of_mem_getLast?_trimEnd (trimStart s) c hc
  · rintro ⟨hhead, hlast⟩
    have hstart : trimStart s = s := by
      cases s with
      | nil => rfl
      | cons c s => exact List.dropWhile_cons_of_neg (by simp [hhead c rfl])
    rw [trim, hstart, trimEnd_of_getLast? hlast]

/-- What ends with a trimmed text does not end with a blank, unless that stands before the text. -/
theorem getLast?_append_cons_ne {text : List Char} (htext : trim text = text) {c d : Char}
    (hd : isBlank d = true) (hc : c ≠ d) (lead : List Char) :
    (lead ++ c :: text).getLast? ≠ some d := by
  rw [List.getLast?_append, List.getLast?_cons, Option.some_or]
  cases hlast : text.getLast? with
  | none => exact fun h => hc (Option.some.inj h)
  | some e =>
    rintro ⟨⟩
    exact Bool.false_ne_true (((trim_eq_self_iff.1 htext).2 _ hlast).symm.trans hd)

theorem trimEnd_trimEnd (s : List Char) : trimEnd (trimEnd s) = trimEnd s :=
  trimEnd_of_getLast? (isBlank_of_mem_getLast?_trimEnd s)

/-- What is trimmed is blank. -/
theorem exists_trimEnd_append (s : List Char) :
    ∃ t, s = trimEnd s ++ t ∧ ∀ c ∈ t, isBlank c = true := by
  induction s using List.reverseRecOn with
  | nil => exact ⟨[], rfl, nofun⟩
  | append_singleton s c ih =>
    by_cases hc : isBlank c = true
    · obtain ⟨t, ht, hblank⟩ := ih
      refine ⟨t ++ [c], ?_, List.forall_mem_append.2 ⟨hblank, List.forall_mem_singleton.2 hc⟩⟩
      rw [trimEnd_concat_of_isBlank hc, ← List.append_assoc, ← ht]
    · refine ⟨[], ?_, nofun⟩
      rw [trimEnd_concat (Bool.eq_false_iff.2 hc), List.append_nil]

/-- Dropping nothing but blanks may be done before or after trimming. -/
theorem trimEnd_filter {p : Char → Bool} (hp : ∀ c, isBlank c = false → p c = true)
    (s : List Char) : trimEnd (s.filter p) = (trimEnd s).filter p := by
  induction s using List.reverseRecOn with
  | nil => rfl
  | append_singleton s c ih =>
    by_cases hc : isBlank c = true
    · rw [trimEnd_concat_of_isBlank hc, ← ih, List.filter_append]
      by_cases hpc : p c = true
      · rw [List.filter_cons_of_pos hpc, List.filter_nil, trimEnd_concat_of_isBlank hc]
      · rw [List.filter_cons_of_neg hpc, List.filter_nil, List.append_nil]
    · rw [Bool.not_eq_true] at hc
      rw [trimEnd_concat hc, List.filter_append, List.filter_cons_of_pos (hp c hc), List.filter_nil,
        trimEnd_concat hc]

/-! ## Cuts -/

theorem cut?_of_dropLead? {sep s rest : List Char} (h : dropLead? sep s = some rest) :
    cut? sep s = some ([], rest) := by
  cases s <;> rw [cut?, h]

theorem cut?_cons {sep : List Char} {c : Char} {s : List Char}
    (h : dropLead? sep (c :: s) = none) :
    cut? sep (c :: s) = (cut? sep s).map fun (before, after) => (c :: before, after) := by
  rw [cut?, h]

theorem cut?_singleton {c : Char} {before : List Char} (h : c ∉ before) (after : List Char) :
    cut? [c] (before ++ c :: after) = some (before, after) := by
  induction before with
  | nil => exact cut?_of_dropLead? (dropLead?_append [c] after)
  | cons d before ih =>
    rw [List.mem_cons, not_or] at h
    rw [List.cons_append, cut?_cons (by simp [dropLead?, h.1]), ih h.2]
    rfl

theorem cut?_singleton_eq_none {c : Char} {s : List Char} (h : c ∉ s) : cut? [c] s = none := by
  induction s with
  | nil => rfl
  | cons d s ih =>
    rw [List.mem_cons, not_or] at h
    rw [cut?_cons (by simp [dropLead?, h.1]), ih h.2]
    rfl

/-- A text is cut at the first place where a character stands. -/
theorem cut?_singleton_eq_some_iff {c : Char} {s before after : List Char} :
    cut? [c] s = some (before, after) ↔ s = before ++ c :: after ∧ c ∉ before := by
  refine ⟨fun h => ?_, fun ⟨hs, hc⟩ => hs ▸ cut?_singleton hc after⟩
  have hs : s = before ++ c :: after := by simpa using append_of_cut? h
  have hmem : c ∈ s := by simp [hs]
  obtain ⟨first, rest, hfirst, hc⟩ := List.eq_append_cons_of_mem hmem
  rw [hfirst, cut?_singleton hc, Option.some.injEq, Prod.mk.injEq] at h
  exact ⟨hs, h.1 ▸ hc⟩

theorem cut?_eq_none_iff {sep s : List Char} : cut? sep s = none ↔ ¬sep <:+: s := by
  induction s with
  | nil =>
    rw [List.infix_nil, ← List.prefix_nil, ← dropLead?_eq_none_iff, cut?]
    cases dropLead? sep [] with
    | none => simp
    | some rest => simp
  | cons c s ih =>
    rw [List.infix_cons_iff, not_or, ← ih, ← dropLead?_eq_none_iff, cut?]
    cases dropLead? sep (c :: s) with
    | none => simp
    | some rest => simp

theorem contains_iff {part s : List Char} : contains part s = true ↔ part <:+: s := by
  rw [contains, Option.isSome_iff_ne_none, ne_eq, cut?_eq_none_iff, not_not]

/-- A separator whose second character is nowhere before it, and is not its
    first one, is found where it was put. -/
theorem cut?_pair {a b : Char} {s before : List Char} (hb : b ∉ before) (hab : a ≠ b)
    (after : List Char) :
    cut? (a :: b :: s) (before ++ (a :: b :: s) ++ after) = some (before, after) := by
  induction before with
  | nil => exact cut?_of_dropLead? (dropLead?_append _ after)
  | cons d before ih =>
    rw [List.mem_cons, not_or] at hb
    rw [List.append_assoc, List.cons_append, cut?_cons, ← List.append_assoc, ih hb.2]
    · rfl
    · -- What follows `d` starts with `a`, or with a character that is not `b`.
      cases before with
      | nil => simp [dropLead?, hab.symm]
      | cons e before =>
        have he : b ≠ e := fun h => hb.2 (h ▸ List.mem_cons_self)
        simp [dropLead?, he]

/-- A separator that stands somewhere is found last, though perhaps elsewhere. -/
theorem exists_cutLast? (sep before after : List Char) :
    ∃ b a, cutLast? sep (before ++ sep ++ after) = some (b, a) := by
  induction before with
  | nil =>
    rw [List.nil_append]
    cases hs : sep ++ after with
    | nil =>
      rw [List.append_eq_nil_iff] at hs
      exact ⟨[], [], by simp [cutLast?, hs.1, dropLead?]⟩
    | cons c s =>
      rw [cutLast?]
      split
      · exact ⟨_, _, rfl⟩
      · exact ⟨[], after, by simp [← hs]⟩
  | cons c before ih =>
    obtain ⟨b, a, h⟩ := ih
    rw [List.append_assoc] at h
    exact ⟨c :: b, a, by simp [cutLast?, h]⟩

theorem cutLast?_eq_none_iff {sep s : List Char} : cutLast? sep s = none ↔ ¬sep <:+: s := by
  induction s with
  | nil =>
    rw [cutLast?, Option.map_eq_none_iff, dropLead?_eq_none_iff, List.prefix_nil, List.infix_nil]
  | cons c s ih =>
    rw [List.infix_cons_iff, not_or, ← ih, ← dropLead?_eq_none_iff, cutLast?]
    cases cutLast? sep s with
    | none => simp
    | some cut => simp

/-- A separator that stands nowhere later is found where it was put. -/
theorem cutLast?_append {c : Char} {sep after : List Char} (h : ¬(c :: sep) <:+: sep ++ after)
    (before : List Char) :
    cutLast? (c :: sep) (before ++ c :: sep ++ after) = some (before, after) := by
  induction before with
  | nil =>
    rw [List.nil_append, List.cons_append, cutLast?, cutLast?_eq_none_iff.2 h, ← List.cons_append,
      dropLead?_append]
    rfl
  | cons d before ih => rw [List.cons_append, List.cons_append, cutLast?, ih]

theorem append_of_cutLast? {sep s before after : List Char}
    (h : cutLast? sep s = some (before, after)) : s = before ++ sep ++ after := by
  induction s generalizing before with
  | nil =>
    obtain ⟨rest, hrest, heq⟩ := Option.map_eq_some_iff.1 h
    cases heq
    exact dropLead?_eq_some_iff.1 hrest
  | cons c s ih =>
    rw [cutLast?] at h
    split at h
    · next b a hb =>
      cases h
      rw [ih hb]
      rfl
    · obtain ⟨rest, hrest, heq⟩ := Option.map_eq_some_iff.1 h
      cases heq
      exact dropLead?_eq_some_iff.1 hrest

/-- Nothing longer than what stands behind a separator stands behind the last one. -/
theorem length_le_of_cutLast? {sep before after b a : List Char}
    (h : cutLast? sep (before ++ sep ++ after) = some (b, a)) : a.length ≤ after.length := by
  induction before generalizing b with
  | nil =>
    have heq := congrArg List.length (append_of_cutLast? h)
    simp only [List.nil_append, List.length_append] at heq
    omega
  | cons c before ih =>
    obtain ⟨b', a', h'⟩ := exists_cutLast? sep before after
    rw [List.append_assoc, List.cons_append, cutLast?, ← List.append_assoc, h'] at h
    cases h
    exact ih h'

theorem dropLead?_concat {lead : List Char} {c : Char} (h : c ∉ lead) (s : List Char) :
    dropLead? lead (s ++ [c]) = (dropLead? lead s).map (· ++ [c]) := by
  induction lead generalizing s with
  | nil => rfl
  | cons a lead ih =>
    rw [List.mem_cons, not_or] at h
    cases s with
    | nil => simp [dropLead?, Ne.symm h.1]
    | cons d s =>
      rw [List.cons_append, dropLead?, dropLead?]
      split
      · exact ih h.2 s
      · rfl

/-- A last character that is none of a separator does not move the place where the last one
    stands. -/
theorem cutLast?_concat {sep : List Char} {c : Char} (hne : sep ≠ []) (h : c ∉ sep)
    (s : List Char) :
    cutLast? sep (s ++ [c]) =
      (cutLast? sep s).map fun (before, after) => (before, after ++ [c]) := by
  induction s with
  | nil =>
    obtain ⟨a, sep, rfl⟩ := List.exists_cons_of_ne_nil hne
    rw [List.mem_cons, not_or] at h
    simp [cutLast?, dropLead?, Ne.symm h.1]
  | cons d s ih =>
    have hlead := dropLead?_concat h (d :: s)
    rw [List.cons_append] at hlead
    rw [List.cons_append, cutLast?, cutLast?, ih, hlead]
    cases cutLast? sep s with
    | some cut => rfl
    | none => cases dropLead? sep (d :: s) <;> rfl

/-! ## Words -/

theorem wordsBy_of_forall {sep : Char → Bool} {w : List Char} (hw : w ≠ [])
    (h : ∀ c ∈ w, sep c = false) : wordsBy sep w = [w] := by
  induction w with
  | nil => exact absurd rfl hw
  | cons c w ih =>
    rw [List.forall_mem_cons] at h
    cases w with
    | nil => simp [wordsBy, h.1]
    | cons d w =>
      have hd := (List.forall_mem_cons.1 h.2).1
      rw [wordsBy]
      simp only [h.1, hd, Bool.false_eq_true, ↓reduceIte, ih (List.cons_ne_nil d w) h.2]

theorem wordsBy_append {sep : Char → Bool} {w : List Char} {d : Char} (hw : w ≠ [])
    (h : ∀ c ∈ w, sep c = false) (hd : sep d = true) (s : List Char) :
    wordsBy sep (w ++ d :: s) = w :: wordsBy sep s := by
  induction w with
  | nil => exact absurd rfl hw
  | cons c w ih =>
    rw [List.forall_mem_cons] at h
    cases w with
    | nil => simp [wordsBy, h.1, hd]
    | cons e w =>
      have he := (List.forall_mem_cons.1 h.2).1
      rw [List.cons_append, List.cons_append, wordsBy]
      simp only [h.1, he, Bool.false_eq_true, ↓reduceIte, ← List.cons_append,
        ih (List.cons_ne_nil e w) h.2]

end Lintscope.Text

import Lintscope.Glob.Match
import Mathlib.Logic.Basic

/-!
# What tokens describe one behind the other

A token takes a share of a path and leaves the rest to the tokens behind it
(`describes_cons`), so tokens that describe the same may stand in each other's place
behind others (`describes_append_congr`). Of the tokens for steps of a path this gives
the laws: each is written with a slash and the steps at the start (`describes_between`,
`describes_trailing`), and these steps are either none, or any octets and a slash
(`describes_leading_iff`).
-/

namespace Lintscope.Glob

/-! ## Any octets -/

theorem mem_suffixes_iff {α : Type} {s t : List α} : s ∈ suffixes t ↔ s <:+ t := by
  induction t with
  | nil => simp [suffixes]
  | cons a t ih => rw [suffixes, List.mem_cons, ih, List.suffix_cons_iff]

/-- Any octets may come before those that the further tokens describe. -/
theorem describes_many_iff {ts : List Token} {s : List UInt8} :
    describes (.many :: ts) s = true ↔ ∃ t rest, s = t ++ rest ∧ describes ts rest = true := by
  rw [describes, List.any_eq_true]
  constructor
  · rintro ⟨rest, hrest, h⟩
    obtain ⟨t, rfl⟩ := mem_suffixes_iff.1 hrest
    exact ⟨t, rest, rfl, h⟩
  · rintro ⟨t, rest, rfl, h⟩
    exact ⟨rest, mem_suffixes_iff.2 (List.suffix_append t rest), h⟩

/-! ## Tokens one behind the other -/

/-- What is left of a path once a token has taken its share, which it may do in several
    ways. -/
def Token.rests (t : Token) (s : List UInt8) : List (List UInt8) :=
  match t with
  | .char c => (Text.dropLead? (String.utf8EncodeChar c) s).toList
  | .many => suffixes s
  | .leading => s :: afterSlashes s
  | .one =>
    match s with
    | [] => []
    | _ :: s => [s]
  | .trailing =>
    match s with
    | [] => []
    | b :: s => if b == slashOctet then suffixes s else []
  | .between =>
    match s with
    | [] => []
    | b :: s => if b == slashOctet then s :: afterSlashes s else []
  | .oneOf negated ranges =>
    match s with
    | [] => []
    | b :: s => if inRanges ranges b != negated then [s] else []

theorem describes_cons (t : Token) (ts : List Token) (s : List UInt8) :
    describes (t :: ts) s = (t.rests s).any (describes ts) := by
  cases t with
  | char c =>
    rw [describes, Token.rests]
    cases Text.dropLead? (String.utf8EncodeChar c) s <;> simp
  | many => rw [describes, Token.rests]
  | leading => rw [describes, Token.rests, List.any_cons]
  | one => cases s <;> simp [describes, Token.rests]
  | trailing | between | oneOf negated ranges =>
    cases s with
    | nil => simp [describes, Token.rests]
    | cons b s =>
      rw [describes, Token.rests]
      split <;> simp_all

/-- What two lists of tokens describe together, they describe together behind others. -/
theorem describes_append_or {ts us vs : List Token}
    (h : ∀ s, describes ts s = true ↔ describes us s = true ∨ describes vs s = true)
    (before : List Token) (s : List UInt8) :
    describes (before ++ ts) s = true ↔
      describes (before ++ us) s = true ∨ describes (before ++ vs) s = true := by
  induction before generalizing s with
  | nil => exact h s
  | cons t before ih =>
    simp only [List.cons_append, describes_cons, List.any_eq_true, ih]
    simp only [and_or_left, exists_or]

/-- Tokens that describe the same do so behind others. -/
theorem describes_append_congr {ts us : List Token} (h : ∀ s, describes ts s = describes us s)
    (before : List Token) (s : List UInt8) :
    describes (before ++ ts) s = describes (before ++ us) s := by
  have hor (s : List UInt8) :
      describes ts s = true ↔ describes us s = true ∨ describes us s = true := by
    rw [h, or_self]
  rw [Bool.eq_iff_iff, describes_append_or hor, or_self]

/-! ## Slashes and steps -/

section

variable (ts : List Token) (s : List UInt8)

theorem describes_slash_cons (b : UInt8) :
    describes (.char '/' :: ts) (b :: s) = (b == slashOctet && describes ts s) := by
  have hslash : String.utf8EncodeChar '/' = [slashOctet] := by decide
  rw [describes, hslash]
  by_cases hb : b = slashOctet
  · subst hb
    rfl
  · simp [Text.dropLead?, hb, Ne.symm hb]

theorem mem_afterSlashes_iff {rest : List UInt8} :
    rest ∈ afterSlashes s ↔ ∃ t, s = t ++ slashOctet :: rest := by
  induction s with
  | nil => simp [afterSlashes]
  | cons b s ih =>
    rw [afterSlashes]
    constructor
    · intro h
      split at h
      · next hb =>
        rcases List.mem_cons.1 h with rfl | h
        · exact ⟨[], by rw [hb, List.nil_append]⟩
        · obtain ⟨t, rfl⟩ := ih.1 h
          exact ⟨b :: t, rfl⟩
      · obtain ⟨t, rfl⟩ := ih.1 h
        exact ⟨b :: t, rfl⟩
    · rintro ⟨t, h⟩
      cases t with
      | nil =>
        obtain ⟨rfl, rfl⟩ := List.cons.inj h
        rw [if_pos rfl]
        exact List.mem_cons_self
      | cons d t =>
        obtain ⟨rfl, hs⟩ := List.cons.inj h
        have hrest := ih.2 ⟨t, hs⟩
        split
        · exact List.mem_cons_of_mem _ hrest
        · exact hrest

theorem describes_many_slash_iff : describes (.many :: .char '/' :: ts) s = true ↔
    ∃ t rest, s = t ++ slashOctet :: rest ∧ describes ts rest = true := by
  rw [describes_many_iff]
  constructor
  · rintro ⟨t, _ | ⟨b, rest⟩, rfl, h⟩
    · cases h
    · rw [describes_slash_cons, Bool.and_eq_true, beq_iff_eq] at h
      exact ⟨t, rest, by rw [h.1], h.2⟩
  · rintro ⟨t, rest, rfl, h⟩
    exact ⟨t, slashOctet :: rest, rfl, by rw [describes_slash_cons, h]; rfl⟩

/-- Any number of steps are none, or some octets that end with a slash. -/
theorem describes_leading_iff : describes (.leading :: ts) s = true ↔
    describes (.many :: .char '/' :: ts) s = true ∨ describes ts s = true := by
  rw [describes_many_slash_iff, describes, Bool.or_eq_true, or_comm, List.any_eq_true]
  simp only [mem_afterSlashes_iff, exists_and_right, exists_comm]

theorem describes_between :
    describes (.between :: ts) s = describes (.char '/' :: .leading :: ts) s := by
  cases s with
  | nil => rfl
  | cons b s => rw [describes_slash_cons, describes, describes]

theorem describes_trailing :
    describes (.trailing :: ts) s = describes (.char '/' :: .many :: ts) s := by
  cases s with
  | nil => rfl
  | cons b s => rw [describes_slash_cons, describes, describes]

/-- Any octets take in what comes before them. -/
theorem describes_many_append {t : List UInt8} (h : describes (.many :: ts) s = true) :
    describes (.many :: ts) (t ++ s) = true := by
  obtain ⟨t', rest, rfl, hrest⟩ := describes_many_iff.1 h
  exact describes_many_iff.2 ⟨t ++ t', rest, (List.append_assoc ..).symm, hrest⟩

theorem describes_many_many : describes (.many :: .many :: ts) s = describes (.many :: ts) s := by
  rw [Bool.eq_iff_iff]
  constructor
  · intro h
    obtain ⟨t, rest, rfl, hrest⟩ := describes_many_iff.1 h
    exact describes_many_append ts rest hrest
  · exact fun h => describes_many_iff.2 ⟨[], s, rfl, h⟩

theorem describes_leading_many :
    describes (.leading :: .many :: ts) s = describes (.many :: ts) s := by
  rw [Bool.eq_iff_iff, describes_leading_iff]
  refine or_iff_right_of_imp fun h => ?_
  obtain ⟨t, rest, rfl, hrest⟩ := (describes_many_slash_iff ..).1 h
  rw [List.append_cons]
  exact describes_many_append ts rest hrest

theorem describes_leading_leading :
    describes (.leading :: .leading :: ts) s = describes (.leading :: ts) s := by
  rw [Bool.eq_iff_iff, describes_leading_iff (.leading :: ts)]
  refine or_iff_right_of_imp fun h => ?_
  -- The steps behind the first ones are among any octets before the last slash.
  obtain ⟨t, rest, rfl, hrest⟩ := (describes_many_slash_iff ..).1 h
  rw [describes_leading_iff, describes_many_slash_iff] at hrest ⊢
  rcases hrest with ⟨t', rest', rfl, hrest⟩ | hrest
  · exact .inl ⟨t ++ slashOctet :: t', rest', by simp, hrest⟩
  · exact .inl ⟨t, rest, rfl, hrest⟩

theorem describes_between_leading :
    describes (.between :: .leading :: ts) s = describes (.between :: ts) s := by
  rw [describes_between, describes_between]
  exact describes_append_congr (describes_leading_leading ts) [.char '/'] s

theorem describes_between_many :
    describes (.between :: .many :: ts) s = describes (.trailing :: ts) s := by
  rw [describes_between, describes_trailing]
  exact describes_append_congr (describes_leading_many ts) [.char '/'] s

end

end Lintscope.Glob

import Lintscope.Filter
import Lintscope.Proofs.Glob.Reading
import Lintscope.Proofs.Glob.Tokens
import Lintscope.Proofs.Path
import Lintscope.Proofs.Text.Cut
import Lintscope.Proofs.Text.Utf8

/-!
# What rules describe

A rule describes a path exactly if its shell pattern, read as it is documented, does
(`describes_iff_matches`). On the way from the one to the other the pattern is
rewritten to a glob, the glob is read to tokens, and the tokens are compared with the
octets of the path. The first two steps keep the parts of the pattern apart
(`eq_of_parse_glob`), so what is left is to compare one part with its token
(`describes_token_cons_iff`). In ASCII, where a character is an octet, a question mark
and a set take one of either.
-/

namespace Lintscope

open Glob Shell Utf8

/-! ## Tokens and octets -/

namespace Glob

/-- Characters of ASCII are in ranges of such characters as their octets are in the
    ranges of octets. -/
theorem inRanges_octet_iff {rs : List (Char × Char)}
    (hrs : ∀ r ∈ rs, r.1.toNat < 128 ∧ r.2.toNat < 128) {c : Char} (hc : c.toNat < 128) :
    inRanges rs (octet c) = true ↔ ∃ r ∈ rs, r.1 ≤ c ∧ c ≤ r.2 := by
  have hrange : ∀ r ∈ rs, octetRanges r = [(octet r.1, octet r.2)] := by
    rintro ⟨x, y⟩ hr
    obtain ⟨hx, hy⟩ := hrs _ hr
    rw [octetRanges]
    simp only [utf8EncodeChar_ascii hx, utf8EncodeChar_ascii hy]
    by_cases h : x = y <;> simp [h]
  rw [inRanges, List.any_eq_true]
  constructor
  · rintro ⟨b, hb, hc'⟩
    obtain ⟨r, hr, hb⟩ := List.mem_flatMap.1 hb
    rw [hrange r hr, List.mem_singleton] at hb
    subst hb
    simp only [Bool.and_eq_true, decide_eq_true_eq, octet_le_octet_iff (hrs r hr).1 hc,
      octet_le_octet_iff hc (hrs r hr).2] at hc'
    exact ⟨r, hr, hc'⟩
  · rintro ⟨r, hr, hc'⟩
    refine ⟨(octet r.1, octet r.2), List.mem_flatMap.2 ⟨r, hr, by simp [hrange r hr]⟩, ?_⟩
    simpa only [Bool.and_eq_true, decide_eq_true_eq, octet_le_octet_iff (hrs r hr).1 hc,
      octet_le_octet_iff hc (hrs r hr).2] using hc'

end Glob

namespace Glob.Shell

/-! ## Characters of parts -/

/-- The characters of a part, apart from those that are special. -/
def Part.chars : Part → List Char
  | star | any => []
  | set _ members => members
  | char c => [c]

theorem chars_subset_of_mem_parts {s : List Char} : ∀ p ∈ parts s, p.chars ⊆ s := by
  have hother {c : Char} {s : List Char} {ps : List Part} (ih : ∀ p ∈ ps, p.chars ⊆ s) :
      ∀ p ∈ ps, p.chars ⊆ c :: s := fun p hp => List.subset_cons_of_subset c (ih p hp)
  fun_induction parts s with
  | case1 => exact List.forall_mem_nil _
  | case2 s ih => exact List.forall_mem_cons.2 ⟨List.nil_subset _, hother ih⟩
  | case3 s _ ih => exact List.forall_mem_cons.2 ⟨List.nil_subset _, hother ih⟩
  | case4 s negated members rest h _ _ ih =>
    have hs := (append_of_cutSet? h).1
    refine List.forall_mem_cons.2 ⟨fun c hc => ?_, hother fun p hp c hc => ?_⟩
    · rw [hs]
      exact List.mem_cons_of_mem _ (List.mem_append_left _ (List.mem_append_right _ hc))
    · rw [hs]
      exact List.mem_append_right _ (List.mem_cons_of_mem _ (ih p hp hc))
  | case5 s _ _ _ ih =>
    exact List.forall_mem_cons.2 ⟨List.cons_subset_cons _ (List.nil_subset s), hother ih⟩
  | case6 c s _ _ _ ih =>
    exact List.forall_mem_cons.2 ⟨List.cons_subset_cons _ (List.nil_subset s), hother ih⟩

theorem mem_of_mem_memberRanges {members : List Char} :
    ∀ r ∈ memberRanges members, r.1 ∈ members ∧ r.2 ∈ members := by
  fun_induction memberRanges members with
  | case1 x y s ih =>
    refine List.forall_mem_cons.2 ⟨by simp, fun r hr => ?_⟩
    exact ⟨List.mem_append_right [x, '-', y] (ih r hr).1,
      List.mem_append_right [x, '-', y] (ih r hr).2⟩
  | case2 x s _ ih =>
    refine List.forall_mem_cons.2 ⟨by simp, fun r hr => ?_⟩
    exact ⟨List.mem_cons_of_mem x (ih r hr).1, List.mem_cons_of_mem x (ih r hr).2⟩
  | case3 => exact List.forall_mem_nil _

/-! ## Texts -/

theorem describes_token_nil {p : Part} (hp : p ≠ .star) (ts : List Token) :
    describes (p.token :: ts) [] = false := by
  cases p with
  | star => exact absurd rfl hp
  | any => rfl
  | set negated members => rfl
  | char c =>
    rw [Part.token]
    split
    · rfl
    · obtain ⟨b, bs, hb⟩ := List.exists_cons_of_ne_nil (utf8EncodeChar_ne_nil c)
      rw [describes, hb]
      rfl

/-- The token of a set takes an octet as the set takes its character. -/
theorem describes_oneOf_iff {negated : Bool} {rs : List (Char × Char)}
    (hrs : ∀ r ∈ rs, r.1.toNat < 128 ∧ r.2.toNat < 128) {c : Char} (hc : c.toNat < 128)
    {ts : List Token} {s : List UInt8} :
    describes (.oneOf negated rs :: ts) (octet c :: s) = true ↔
      ((∃ r ∈ rs, r.1 ≤ c ∧ c ≤ r.2) ↔ negated = false) ∧ describes ts s = true := by
  rw [describes, Bool.and_eq_true, ← inRanges_octet_iff hrs hc]
  cases inRanges rs (octet c) <;> cases negated <;> simp

theorem describes_token_cons_iff {p : Part} (hp : p ≠ .star) (hascii : IsAscii p.chars) {c : Char}
    (hc : c.toNat < 128) {ts : List Token} {s : List UInt8} :
    describes (p.token :: ts) (octet c :: s) = true ↔ p.StandsFor [c] ∧ describes ts s = true := by
  cases p with
  | star => exact absurd rfl hp
  | any =>
    rw [Part.token, describes]
    simp [Part.StandsFor]
  | set negated members =>
    have hrs : ∀ r ∈ memberRanges members, r.1.toNat < 128 ∧ r.2.toNat < 128 := fun r hr =>
      ⟨hascii _ (mem_of_mem_memberRanges r hr).1, hascii _ (mem_of_mem_memberRanges r hr).2⟩
    rw [Part.token, describes_oneOf_iff hrs hc]
    simp [Part.StandsFor]
  | char d =>
    have hd : d.toNat < 128 := hascii d (List.mem_singleton_self d)
    rw [Part.token]
    split
    · have heq : d ≤ c ∧ c ≤ d ↔ c = d :=
        ⟨fun h => Char.le_antisymm h.2 h.1, fun h => h ▸ ⟨Char.le_refl c, Char.le_refl c⟩⟩
      rw [describes_oneOf_iff (by simpa using hd) hc]
      simp [Part.StandsFor, heq]
    · rw [describes, utf8EncodeChar_ascii hd]
      by_cases h : d = c
      · simp [Text.dropLead?, Part.StandsFor, h]
      · have hne : octet d ≠ octet c := fun ho => h ((octet_inj hd hc).1 ho)
        simp [Text.dropLead?, Part.StandsFor, hne, Ne.symm h]

/-- The tokens of the parts of a pattern of ASCII describe the octets of a text of
    ASCII exactly if the parts describe the text. -/
theorem describes_map_token_iff {ps : List Part} (hps : ∀ p ∈ ps, IsAscii p.chars)
    {text : List Char} (ht : IsAscii text) :
    describes (ps.map Part.token) (text.map octet) = true ↔ Matches ps text := by
  induction ps generalizing text with
  | nil => simp [describes, matches_nil_iff]
  | cons p ps ih =>
    rw [List.forall_mem_cons] at hps
    by_cases hp : p = .star
    · subst hp
      rw [List.map_cons, Part.token, describes_many_iff, matches_cons_iff]
      constructor
      · rintro ⟨t, rest, heq, h⟩
        obtain ⟨t, rest, rfl, rfl, rfl⟩ := List.map_eq_append_iff.1 heq
        exact ⟨t, rest, rfl, trivial, (ih hps.2 (ht.mono (List.subset_append_right t rest))).1 h⟩
      · rintro ⟨t, rest, rfl, -, h⟩
        refine ⟨t.map octet, rest.map octet, List.map_append, ?_⟩
        exact (ih hps.2 (ht.mono (List.subset_append_right t rest))).2 h
    · rw [List.map_cons, matches_cons_iff_of_ne_star hp]
      cases text with
      | nil => simp [describes_token_nil hp]
      | cons c text =>
        obtain ⟨hc, ht⟩ := List.forall_mem_cons.1 ht
        rw [List.map_cons, describes_token_cons_iff hp hps.1 hc, ih hps.2 ht]
        simp

theorem token_ne_leading (p : Part) : p.token ≠ .leading := by
  cases p with
  | star | any | set negated members => simp [Part.token]
  | char c =>
    rw [Part.token]
    split <;> simp

end Glob.Shell

namespace Filter.Rule

variable {verdict : Verdict} {pattern : String} {r : Rule}

/-- A rule has the given verdict, and the given pattern trimmed and in canonical form. -/
theorem eq_of_ofPattern (h : ofPattern verdict pattern = .ok r) :
    r.verdict = verdict ∧ r.pattern = Path.canonical (.ofList (Text.trim pattern.toList)) := by
  rw [ofPattern] at h
  split at h
  · cases h
  · split at h
    · cases h
      exact ⟨rfl, rfl⟩
    · cases h

theorem pattern_of_ofPattern (h : ofPattern verdict pattern = .ok r) :
    r.pattern = Path.canonical (.ofList (Text.trim pattern.toList)) := (eq_of_ofPattern h).2

theorem isAscii_canonicalChars {s : List Char} (h : IsAscii s) : IsAscii (Path.canonicalChars s) := by
  intro c hc
  obtain ⟨d, hd, rfl⟩ := List.mem_map.1 ((Path.dropDotSteps_suffix _).subset hc)
  rw [Path.slash]
  split
  · decide
  · exact h d hd

theorem isAscii_trim {s : List Char} (h : IsAscii s) : IsAscii (Text.trim s) :=
  h.mono fun _ hc => (List.dropWhile_suffix _).subset ((Text.isPrefix_trimEnd _).subset hc)

/-- A rule describes a path, both of ASCII, exactly if its pattern does as it is
    documented: a star stands for any characters, a question mark for any one
    character, a set in brackets for one that is in it or is not, and everything else
    for itself, slashes being no different from other characters. That is so unless
    the pattern has two stars one behind the other, a set that starts with a caret, or
    a range that another one continues. -/
theorem describes_iff_matches (h : ofPattern verdict pattern = .ok r)
    (hpattern : IsAscii pattern.toList) (hstars : ¬['*', '*'] <:+: r.pattern.toList)
    (hreg : ∀ p ∈ parts r.pattern.toList, p.Regular) {path : String}
    (hpath : IsAscii path.toList) :
    r.describes (Path.canonical path) = true ↔
      Matches (parts r.pattern.toList) (Path.canonical path).toList := by
  have hglob : r.glob = (parts r.pattern.toList).map Part.token :=
    eq_of_parse_glob hstars hreg r.tokens_pattern
  have hascii : IsAscii r.pattern.toList := by
    rw [pattern_of_ofPattern h, Path.canonical, String.toList_ofList, String.toList_ofList]
    exact isAscii_canonicalChars (isAscii_trim hpattern)
  have hcanonical : IsAscii (Path.canonical path).toList := by
    rw [Path.canonical, String.toList_ofList]
    exact isAscii_canonicalChars hpath
  have hleading : (parts r.pattern.toList).map Part.token ≠ [.leading] := fun heq => by
    have hmem : Token.leading ∈ (parts r.pattern.toList).map Part.token := by simp [heq]
    obtain ⟨p, -, hp⟩ := List.mem_map.1 hmem
    exact token_ne_leading p hp
  rw [describes, accepts_eq, hglob, decide_eq_false hleading, Bool.false_or,
    encode_ascii hcanonical]
  exact Shell.describes_map_token_iff
    (fun p hp => hascii.mono (chars_subset_of_mem_parts p hp)) hcanonical

/-- A pattern with a set, a star, braces, and a bracket that is never closed. -/
def bracketed : String := " .\\[!]a-c]*{,}[x "

theorem describes_iff_matches_bracketed :
    ∃ r, ofPattern .keep bracketed = .ok r ∧ IsAscii bracketed.toList ∧
      ¬['*', '*'] <:+: r.pattern.toList ∧ (∀ p ∈ parts r.pattern.toList, p.Regular) ∧
        IsAscii "./d/e{,}[x".toList ∧
          (r.describes (Path.canonical "./d/e{,}[x") = true ∧
            Matches (parts r.pattern.toList) (Path.canonical "./d/e{,}[x").toList) := by
  have hok : (ofPattern .keep bracketed).isOk = true := by decide +kernel
  cases h : ofPattern .keep bracketed with
  | error e =>
    rw [h] at hok
    cases hok
  | ok r =>
    have hr : r.pattern = "[!]a-c]*{,}[x" := (pattern_of_ofPattern h).trans (by decide +kernel)
    have hparts : parts r.pattern.toList =
        [.set true [']', 'a', '-', 'c'], .star, .char '{', .char ',', .char '}', .char '[',
          .char 'x'] := by
      rw [hr]
      decide +kernel
    have hpattern : IsAscii bracketed.toList := by decide +kernel
    have hpath : IsAscii "./d/e{,}[x".toList := by decide +kernel
    have hstars : ¬['*', '*'] <:+: r.pattern.toList := by
      rw [hr]
      decide +kernel
    have hreg : ∀ p ∈ parts r.pattern.toList, p.Regular := by
      rw [hparts]
      decide
    have hmatches : Matches (parts r.pattern.toList) (Path.canonical "./d/e{,}[x").toList := by
      rw [hparts]
      refine ⟨[['d'], ['/', 'e'], ['{'], [','], ['}'], ['['], ['x']], ?_, by decide +kernel⟩
      exact .cons ⟨'d', rfl, by decide +kernel⟩ <| .cons trivial <| .cons rfl <| .cons rfl <|
        .cons rfl <| .cons rfl <| .cons rfl .nil
    exact ⟨r, rfl, hpattern, hstars, hreg, hpath,
      (describes_iff_matches h hpattern hstars hreg hpath).2 hmatches, hmatches⟩

end Filter.Rule

end Lintscope

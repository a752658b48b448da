import Lintscope.Proofs.Filter
import Lintscope.Proofs.Glob.Cutting
import Lintscope.Proofs.Glob.Stars

/-!
# Runs of stars in rules

A star stands for any characters, slashes among them, so one star should do for several
behind each other. It does (`verdict_merged`), but for two stars that fill a step of the
path before a slash: they stand for any number of steps, so a rule with them describes
the paths that lack the step and its slash too. A rule for `a/**/b` describes `a/b`, a
rule for `a/*/b` does not (`verdict_inner_ne`). Whether the pattern is a glob does not
depend on the number of stars.

The run must be outside of the sets of the pattern (`StarRun.parts_eq`), and no set may
have a caret for its only member. Such a set opens a negated one in the glob, which its
bracket does not close; without one, what is outside of the sets of the pattern is
outside of those of the glob (`StarRun.mode_eq`).
-/

namespace Lintscope.Filter

open Glob

/-! ## Rules -/

theorem Rule.isOk_ofPattern {v : Verdict} {pattern : String}
    (h : Path.canonical (.ofList (Text.trim pattern.toList)) ≠ "") :
    (ofPattern v pattern).isOk =
      (tokens (Path.canonical (.ofList (Text.trim pattern.toList)))).isOk := by
  rw [ofPattern, if_neg h]
  generalize Path.canonical (.ofList (Text.trim pattern.toList)) = canonical
  split
  · next heq => exact (congrArg Except.isOk heq).symm
  · next heq => exact (congrArg Except.isOk heq).symm

/-- Rules that agree on a path stand for each other. -/
theorem verdict_congr {r r' : Rule} {path : String} (hverdict : r.verdict = r'.verdict)
    (h : r.describes (Path.canonical path) = r'.describes (Path.canonical path))
    (before after : List Rule) :
    Filter.verdict ⟨before ++ r :: after⟩ path = Filter.verdict ⟨before ++ r' :: after⟩ path := by
  simp only [verdict, List.find?_append, List.find?_cons, h]
  cases before.find? (·.describes (Path.canonical path)) with
  | some r₁ => rfl
  | none =>
    cases r'.describes (Path.canonical path) with
    | true => exact hverdict
    | false => rfl

/-! ## Patterns around stars -/

/-- What stands before a star, in canonical form. -/
def startOf (before : String) : List Char := Path.canonicalChars (Text.trimStart before.toList)

/-- What stands behind a star, in canonical form. -/
def endOf (after : String) : List Char := (Text.trimEnd after.toList).map Path.slash

/-- A star ends the canonical form only of a text that it ends. -/
theorem getLast?_startOf {before : String} (h : before.toList.getLast? ≠ some '*') :
    (startOf before).getLast? ≠ some '*' := by
  intro hlast
  have hmap : ((Text.trimStart before.toList).map Path.slash).getLast? = some '*' := by
    obtain ⟨dots, hdots⟩ := Path.dropDotSteps_suffix ((Text.trimStart before.toList).map Path.slash)
    rw [← hdots, List.getLast?_append, ← Path.canonicalChars, ← startOf, hlast]
    rfl
  rw [List.getLast?_map, Option.map_eq_some_iff] at hmap
  obtain ⟨c, hc, hslash⟩ := hmap
  obtain rfl := Path.eq_of_slash_eq (by decide) hslash
  obtain ⟨blanks, hblanks⟩ := List.dropWhile_suffix (l := before.toList) Text.isBlank
  apply h
  rw [← hblanks, List.getLast?_append, ← Text.trimStart, hc]
  rfl

/-- A run of stars in a pattern, outside of sets, where no set has a caret for its only
    member. -/
structure StarRun where
  /-- What is written before the run. -/
  before : String
  /-- The number of stars. -/
  count : Nat
  /-- What is written behind the run. -/
  after : String
  two_le_count : 2 ≤ count
  /-- The run begins with its first star. -/
  getLast?_before : before.toList.getLast? ≠ some '*'
  /-- The run ends with its last star. -/
  head?_after : after.toList.head? ≠ some '*'
  /-- The stars are parts of the pattern of their own. -/
  parts_eq : Shell.parts (startOf before ++ (List.replicate count '*' ++ endOf after)) =
    Shell.parts (startOf before) ++ Shell.parts (List.replicate count '*' ++ endOf after)
  /-- All sets of the pattern are closed where those of its glob are. -/
  loneCaret_not_mem : Shell.Part.loneCaret ∉
    Shell.parts (startOf before ++ (List.replicate count '*' ++ endOf after))

-- Behind a set with a lone caret the glob takes stars for members, and a range that
-- starts with one of them may be descending.
example : (Rule.ofPattern .keep "[^]!-**-%]").isOk = false ∧
    (Rule.ofPattern .keep "[^]!-*-%]").isOk = true := by decide +kernel

namespace StarRun

variable (x : StarRun)

/-- The pattern with another number of stars. -/
def withStars (n : Nat) : String := x.before ++ .ofList (List.replicate n '*') ++ x.after

/-- The pattern. -/
def pattern : String := x.withStars x.count

/-- The pattern with one star for the run. -/
def merged : String := x.withStars 1

/-- The canonical form of the pattern with another number of stars. -/
def canonicalWith (n : Nat) : String :=
  .ofList (startOf x.before ++ (List.replicate n '*' ++ endOf x.after))

/-- The stars are two and fill a step of the path, with a slash behind it. -/
def IsStep : Prop :=
  x.count = 2 ∧ (startOf x.before = [] ∨ (startOf x.before).getLast? = some '/') ∧
    (endOf x.after).head? = some '/'

instance : Decidable x.IsStep := inferInstanceAs (Decidable (_ ∧ _ ∧ _))

/-- The pattern without the run and the slash behind it. -/
def skipped : String := .ofList (startOf x.before ++ (endOf x.after).tail)

/-- Whether the pattern describes a path in canonical form without the run and the slash
    behind it. If nothing else stands in the pattern, that is so for every path. -/
def Skips (path : String) : Prop :=
  x.skipped = "" ∨
    ∃ ts, tokens x.skipped = .ok ts ∧ accepts ts (Utf8.encode path.toList) = true

/-- The glob of what stands before the stars is read to a place outside of sets and stars. -/
theorem mode_eq (r : Reading)
    (h : (Shell.glob (startOf x.before)).foldlM Reading.read {} = .ok r) : r.mode = .text := by
  have hcaret := x.loneCaret_not_mem
  rw [x.parts_eq, List.mem_append, not_or] at hcaret
  exact Reading.mode_of_foldlM_glob (getLast?_startOf x.getLast?_before) hcaret.1 h

theorem canonical_trim_withStars {n : Nat} (hn : 0 < n) :
    Path.canonical (.ofList (Text.trim (x.withStars n).toList)) = x.canonicalWith n := by
  obtain ⟨n, rfl⟩ := Nat.exists_eq_succ_of_ne_zero (Nat.ne_of_gt hn)
  have hlast : ∀ c ∈ (Text.trimStart x.before.toList ++ List.replicate (n + 1) '*').getLast?,
      Text.isBlank c = false := by
    rw [List.replicate_succ', ← List.append_assoc, List.getLast?_concat]
    rintro c ⟨⟩
    rfl
  have htrim : Text.trim (x.withStars (n + 1)).toList =
      Text.trimStart x.before.toList ++ '*' ::
        (List.replicate n '*' ++ Text.trimEnd x.after.toList) := by
    have hlist : (x.withStars (n + 1)).toList =
        x.before.toList ++ '*' :: (List.replicate n '*' ++ x.after.toList) := by
      simp [withStars, List.replicate_succ]
    rw [hlist, Text.trim, Text.trimStart_append_cons (by decide), ← List.cons_append,
      ← List.append_assoc, ← List.replicate_succ, Text.trimEnd_append hlast, List.append_assoc]
    rfl
  have hslash : Path.slash '*' = '*' := by decide
  rw [htrim, Path.canonical, String.toList_ofList, Path.canonicalChars, List.map_append,
    List.map_cons, hslash, Path.dropDotSteps_append_cons (by decide) (by decide), List.map_append,
    List.map_replicate, hslash]
  rfl

/-- What stands in the place of the run and of what follows it is read where the reading
    of what precedes it ends, if it does not close a bracket that the latter opens. -/
theorem tokens_append {s : List Char} (hs : ']' ∈ s → ']' ∈ endOf x.after) :
    tokens (.ofList (startOf x.before ++ s)) =
      (Shell.glob (startOf x.before)).foldlM Reading.read {} >>= (·.tokensOf (Shell.glob s)) := by
  obtain ⟨n, hn⟩ := Nat.exists_eq_add_of_le' x.two_le_count
  have hparts := x.parts_eq
  rw [hn] at hparts
  have hmem (h : ']' ∈ s) : ']' ∈ List.replicate (n + 1) '*' ++ endOf x.after :=
    List.mem_append_right _ (hs h)
  rw [tokens, String.toList_ofList, Shell.glob_append hparts hmem, Glob.parse, List.foldlM_append,
    bind_assoc]
  rfl

theorem tokens_canonicalWith (n : Nat) :
    tokens (x.canonicalWith n) =
      (Shell.glob (startOf x.before)).foldlM Reading.read {} >>=
        (·.tokensOf (List.replicate n '*' ++ Shell.glob (endOf x.after))) := by
  rw [canonicalWith, x.tokens_append (by simp), Shell.glob_replicate_append]

theorem head?_glob_endOf : (Shell.glob (endOf x.after)).head? ≠ some '*' := by
  rw [Ne, Shell.head?_glob_eq_iff (by decide), endOf, List.head?_map, Option.map_eq_some_iff]
  rintro ⟨c, hc, hslash⟩
  obtain rfl := Path.eq_of_slash_eq (by decide) hslash
  obtain ⟨rest, hrest⟩ := Text.isPrefix_trimEnd x.after.toList
  apply x.head?_after
  rw [← hrest, List.head?_append, hc]
  rfl

theorem isStep_iff {r : Reading}
    (h : (Shell.glob (startOf x.before)).foldlM Reading.read {} = .ok r) :
    x.IsStep ↔ x.count = 2 ∧ r.atStep = true ∧ (Shell.glob (endOf x.after)).head? = some '/' := by
  rw [IsStep, (Reading.atStep_of_foldlM h (x.mode_eq r h)).1, Shell.glob_eq_nil_iff,
    Shell.getLast?_glob_eq_iff, Shell.head?_glob_eq_iff (by decide)]

/-- What the patterns with the run and with one star describe. -/
theorem accepts_iff {ts us : List Token} (hts : tokens (x.canonicalWith x.count) = .ok ts)
    (hus : tokens (x.canonicalWith 1) = .ok us) :
    (¬x.IsStep → ∀ path, accepts ts path = accepts us path) ∧
      (x.IsStep → ∀ path : String, accepts ts (Utf8.encode path.toList) = true ↔
        accepts us (Utf8.encode path.toList) = true ∨ x.Skips path) := by
  rw [tokens_canonicalWith, bind_eq_ok_iff] at hts hus
  obtain ⟨r, hr, hts⟩ := hts
  obtain ⟨r', hr', hus⟩ := hus
  obtain rfl : r = r' := Except.ok.inj (hr.symm.trans hr')
  have hwell := Reading.wellFormed_of_foldlM hr
  have hm := x.mode_eq r hr
  rw [x.isStep_iff hr]
  constructor
  · intro hstep path
    have hrun := hwell.accepts_run hm (Nat.lt_of_lt_of_le Nat.two_pos x.two_le_count)
      x.head?_glob_endOf hstep path
    have hus' : r.tokensOf ('*' :: Shell.glob (endOf x.after)) = .ok us := hus
    rw [hts, hus'] at hrun
    exact Except.ok.inj hrun
  · rintro ⟨hcount, hstep, hhead⟩ path
    obtain ⟨s, hs⟩ := List.head?_eq_some_iff.1 ((Shell.head?_glob_eq_iff (by decide)).1 hhead)
    rw [hcount, hs] at hts
    rw [hs] at hus
    obtain ⟨vs, hvs, haccepts⟩ := hwell.accepts_step hm hstep hts hus
    have hskipped : x.skipped = .ofList (startOf x.before ++ s) := by
      rw [skipped, hs, List.tail_cons]
    have htokens : tokens x.skipped = .ok vs := by
      rw [hskipped, x.tokens_append fun h => by simp [hs, h], hr]
      exact hvs
    have hnil : x.skipped = "" ↔ r.tokens = [] ∧ Shell.glob s = [] := by
      rw [hskipped, String.ofList_eq_empty_iff, List.append_eq_nil_iff, Shell.glob_eq_nil_iff,
        (Reading.atStep_of_foldlM hr hm).2, Shell.glob_eq_nil_iff]
    rw [haccepts, Skips, hnil, htokens]
    simp only [Except.ok.injEq, exists_eq_left']
    exact or_congr_right or_comm

theorem isOk_ofPattern_withStars (v : Verdict) {n : Nat} (hn : 0 < n) :
    (Rule.ofPattern v (x.withStars n)).isOk = (tokens (x.canonicalWith n)).isOk := by
  have hne : Path.canonical (.ofList (Text.trim (x.withStars n).toList)) ≠ "" := by
    rw [x.canonical_trim_withStars hn, canonicalWith, Ne, String.ofList_eq_empty_iff]
    simp [Nat.ne_of_gt hn]
  rw [Rule.isOk_ofPattern hne, x.canonical_trim_withStars hn]

theorem tokens_of_ofPattern {v : Verdict} {n : Nat} (hn : 0 < n) {r : Rule}
    (h : Rule.ofPattern v (x.withStars n) = .ok r) : tokens (x.canonicalWith n) = .ok r.glob := by
  rw [← x.canonical_trim_withStars hn, ← Rule.pattern_of_ofPattern h]
  exact r.tokens_pattern

/-- A pattern with one star for a run of them is a glob exactly if the pattern with the run
    is, and its rule may stand for the other one in every filter, unless the run has two
    stars that fill a step before a slash. There the rule with the run describes what the
    rule with one star does, and what the pattern without the step and its slash does. -/
theorem verdict_merged (v : Verdict) :
    (Rule.ofPattern v x.pattern).isOk = (Rule.ofPattern v x.merged).isOk ∧
      ∀ r r', Rule.ofPattern v x.pattern = .ok r → Rule.ofPattern v x.merged = .ok r' →
        (¬x.IsStep → ∀ before after path,
          Filter.verdict ⟨before ++ r :: after⟩ path =
            Filter.verdict ⟨before ++ r' :: after⟩ path) ∧
        (x.IsStep → ∀ path, r.describes (Path.canonical path) = true ↔
          r'.describes (Path.canonical path) = true ∨ x.Skips (Path.canonical path)) := by
  have hpos : 0 < x.count := Nat.lt_of_lt_of_le Nat.two_pos x.two_le_count
  constructor
  · rw [pattern, merged, x.isOk_ofPattern_withStars v hpos,
      x.isOk_ofPattern_withStars v Nat.one_pos, tokens_canonicalWith, tokens_canonicalWith]
    refine isOk_bind_congr fun r hr => ?_
    exact (Reading.wellFormed_of_foldlM hr).isOk_tokensOf_run (x.mode_eq r hr) hpos
      x.head?_glob_endOf
  · intro r r' hr hr'
    obtain ⟨hsame, hstep⟩ := x.accepts_iff (x.tokens_of_ofPattern hpos hr)
      (x.tokens_of_ofPattern Nat.one_pos hr')
    refine ⟨fun h before after path => ?_, fun h path => hstep h _⟩
    have hverdict : r.verdict = r'.verdict :=
      (Rule.eq_of_ofPattern hr).1.trans (Rule.eq_of_ofPattern hr').1.symm
    exact verdict_congr hverdict (hsame h _) before after

/-- Two stars between two slashes. -/
def inner : StarRun where
  before := "a/"
  count := 2
  after := "/b"
  two_le_count := Nat.le_refl 2
  getLast?_before := by decide
  head?_after := by decide
  parts_eq := by decide +kernel
  loneCaret_not_mem := by decide +kernel

/-- Three stars behind a set that has a bracket and a star. -/
def outer : StarRun where
  before := " .\\[!]*]"
  count := 3
  after := "\\\x7b "
  two_le_count := by decide
  getLast?_before := by decide
  head?_after := by decide
  parts_eq := by decide +kernel
  loneCaret_not_mem := by decide +kernel

theorem verdict_merged_inner_outer :
    (∃ r r', Rule.ofPattern .keep inner.pattern = .ok r ∧
      Rule.ofPattern .keep inner.merged = .ok r' ∧ inner.IsStep ∧
        ∀ path, r.describes (Path.canonical path) = true ↔
          r'.describes (Path.canonical path) = true ∨ inner.Skips (Path.canonical path)) ∧
    ∃ r r', Rule.ofPattern .skip outer.pattern = .ok r ∧
      Rule.ofPattern .skip outer.merged = .ok r' ∧ ¬outer.IsStep ∧
        ∀ before after path,
          Filter.verdict ⟨before ++ r :: after⟩ path =
            Filter.verdict ⟨before ++ r' :: after⟩ path := by
  have hok : (Rule.ofPattern .keep inner.pattern).isOk = true := by decide +kernel
  have hok' : (Rule.ofPattern .skip outer.pattern).isOk = true := by decide +kernel
  obtain ⟨r, hr⟩ := exists_of_isOk hok
  obtain ⟨r', hr'⟩ := exists_of_isOk ((verdict_merged inner .keep).1 ▸ hok)
  obtain ⟨s, hs⟩ := exists_of_isOk hok'
  obtain ⟨s', hs'⟩ := exists_of_isOk ((verdict_merged outer .skip).1 ▸ hok')
  have hstep : inner.IsStep := by decide +kernel
  have hnone : ¬outer.IsStep := by decide +kernel
  exact ⟨⟨r, r', hr, hr', hstep, ((verdict_merged inner .keep).2 r r' hr hr').2 hstep⟩,
    s, s', hs, hs', hnone, ((verdict_merged outer .skip).2 s s' hs hs').1 hnone⟩

/-- The rule with two stars keeps a path that the rule with one star does not. -/
theorem verdict_inner_ne : ∃ r r', Rule.ofPattern .keep inner.pattern = .ok r ∧
    Rule.ofPattern .keep inner.merged = .ok r' ∧
      Filter.verdict ⟨[r]⟩ "a/b" = .keep ∧ Filter.verdict ⟨[r']⟩ "a/b" = .skip :=
  ⟨⟨.keep, "a/**/b", [.char 'a', .between, .char 'b'], by decide +kernel⟩,
    ⟨.keep, "a/*/b", [.char 'a', .char '/', .many, .char '/', .char 'b'], by decide +kernel⟩,
    rfl, rfl, by decide +kernel, by decide +kernel⟩

end StarRun

end Lintscope.Filter

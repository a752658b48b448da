import Lintscope.Proofs.Filter.Acceptance
import Lintscope.Proofs.Filter.Stars

/-!
# Rules that are shown

A rule is shown as its sign and its pattern, and what is shown is read as the same rule,
unless the pattern begins with a blank (`Filter.Rule.parse_display_iff`). A pattern can
begin with one although it was trimmed: it is trimmed first and brought into canonical
form then, so that a blank behind the `./` that it starts with comes to stand first. What
is shown of such a rule is read as a rule with less of a pattern, or refused if nothing is
left of that (`Filter.Rule.parse_display_uncovered`).
-/

namespace Lintscope

/-! ## Patterns without their first characters -/

namespace Glob

namespace Reading

variable {r r' : Reading}

/-- How the reading goes on is seen from where it stands. -/
theorem map_mode_read (h : r.mode = r'.mode) (c : Char) :
    mode <$> r.read c = mode <$> r'.read c := by
  have htext (r r' : Reading) : (r.readText c).mode = (r'.readText c).mode := by
    simp only [readText, push, apply_ite mode]
  rw [read, read, h]
  cases r'.mode with
  | text => exact congrArg Except.ok (htext r r')
  | set d =>
    dsimp only
    split
    · rfl
    · simp only [Functor.map_map]
  | star =>
    refine congrArg Except.ok ?_
    split
    · rfl
    · exact htext _ _
  | stars =>
    -- A slash is read to its end, be it a part of a step or not.
    have hstars (r : Reading) : (if r.atStep = true ∧ c = '/' then r.pushSteps .between
        else (r.pushMany 2).readText c).mode = (r.readText c).mode := by
      split
      · next hc =>
        rw [hc.2]
        rfl
      · exact htext _ _
    exact congrArg Except.ok (((hstars r).trans (htext r r')).trans (hstars r').symm)

theorem isOk_tokensOf_congr (h : r.mode = r'.mode) (s : List Char) :
    (r.tokensOf s).isOk = (r'.tokensOf s).isOk := by
  induction s generalizing r r' with
  | nil =>
    rw [tokensOf_nil, tokensOf_nil, finish, finish, h]
    cases r'.mode <;> rfl
  | cons c s ih =>
    have hread := map_mode_read h c
    rw [tokensOf_cons, tokensOf_cons]
    cases hr : r.read c with
    | error e =>
      cases hr' : r'.read c with
      | error e' => rfl
      | ok r₂ => simp [hr, hr'] at hread
    | ok r₁ =>
      cases hr' : r'.read c with
      | error e' => simp [hr, hr'] at hread
      | ok r₂ =>
        rw [hr, hr'] at hread
        exact ih (Except.ok.inj hread)

end Reading

/-- A character that stands for itself may be left out in front of a pattern. -/
theorem isOk_parse_glob_cons {c : Char} (h : c ∉ ['*', '?', '[', '{', '}']) (s : List Char) :
    (parse (Shell.glob (c :: s))).isOk = (parse (Shell.glob s)).isOk := by
  simp only [List.mem_cons, List.not_mem_nil, or_false, not_or] at h
  obtain ⟨hstar, hany, hset, hopen, hclose⟩ := h
  have hglob : Shell.glob (c :: s) = c :: Shell.glob s := by
    simp [Shell.glob, Shell.globFrom, hopen, hclose, hset]
  have hread : ({} : Reading).read c = .ok (({} : Reading).push (.char c) c) := by
    simp [Reading.read, Reading.readText, hstar, hany, hset]
  have hmode : (({} : Reading).push (.char c) c).mode = ({} : Reading).mode := rfl
  rw [hglob]
  exact (congrArg Except.isOk (Reading.tokensOf_cons_of_read hread _)).trans
    (Reading.isOk_tokensOf_congr hmode _)

end Glob

namespace Filter.Rule

open Text

variable {r : Rule} {text : String}

/-- What stands behind the blanks in front of a pattern is a glob if the pattern is. -/
theorem isOk_parse_glob_trimStart (s : List Char) :
    (Glob.parse (Glob.Shell.glob (trimStart s))).isOk = (Glob.parse (Glob.Shell.glob s)).isOk := by
  have hspecial : ∀ c ∈ ['*', '?', '[', '{', '}'], isBlank c = false := by
    simp only [List.forall_mem_cons]
    exact ⟨rfl, rfl, rfl, rfl, rfl, nofun⟩
  induction s with
  | nil => rfl
  | cons c s ih =>
    rw [trimStart, List.dropWhile_cons]
    split
    · next hc =>
      refine ih.trans (Glob.isOk_parse_glob_cons (fun hmem => ?_) s).symm
      exact Bool.false_ne_true ((hspecial c hmem).symm.trans hc)
    · rfl

theorem isOk_parse_glob_dropDotSteps (s : List Char) :
    (Glob.parse (Glob.Shell.glob (Path.dropDotSteps s))).isOk =
      (Glob.parse (Glob.Shell.glob s)).isOk := by
  fun_induction Path.dropDotSteps s with
  | case1 s ih =>
    rw [ih, Glob.isOk_parse_glob_cons (by decide), Glob.isOk_parse_glob_cons (by decide)]
  | case2 s h => rfl

/-! ## Patterns of rules -/

/-- A rule is shown so that its pattern is read behind a blank, which is trimmed. -/
theorem parse_display (r : Rule) : parse r.display = ofPattern r.verdict r.pattern := by
  have hcanonical : canonical (.ofList (' ' :: r.pattern.toList)) = canonical r.pattern := by
    rw [canonical, String.toList_ofList, trim_cons_of_isBlank (by decide), canonical]
  have hblank : ofPattern r.verdict (.ofList (' ' :: r.pattern.toList)) =
      ofPattern r.verdict r.pattern := by
    rw [ofPattern, ofPattern, ← canonical, ← canonical, hcanonical]
  rw [← hblank, display]
  cases r.verdict <;> simp [parse, Verdict.sign, trimStart, isBlank]

theorem exists_ofPattern_of_parse (h : parse text = .ok r) :
    ∃ v pattern, ofPattern v pattern = .ok r := by
  unfold parse at h
  dsimp only at h
  split at h
  · cases h
  · exact ⟨_, _, h⟩
  · exact ⟨_, _, h⟩
  · cases h

/-- The pattern of a rule that was read: it is not empty, it is in canonical form, and it
    does not end with a blank. -/
structure Settled (pattern : String) : Prop where
  ne_empty : pattern ≠ ""
  isCanonical : Path.IsCanonical pattern
  getLast? : ∀ c ∈ pattern.toList.getLast?, isBlank c = false

theorem isBlank_slash (c : Char) : isBlank (Path.slash c) = isBlank c := by
  rw [Path.slash]
  split
  · next hc =>
    rw [hc]
    rfl
  · rfl

theorem settled_of_parse (h : parse text = .ok r) : Settled r.pattern := by
  obtain ⟨v, pattern, h⟩ := exists_ofPattern_of_parse h
  have hpattern := pattern_of_ofPattern h
  refine ⟨fun hempty => ?_, hpattern ▸ Path.isCanonical_canonical _, fun c hc => ?_⟩
  · rw [ofPattern, if_pos (hpattern.symm.trans hempty)] at h
    cases h
  · -- The last character of the pattern was so when it was trimmed, but for the slash.
    rw [hpattern, Path.canonical, String.toList_ofList, String.toList_ofList] at hc
    obtain ⟨steps, hsteps⟩ := Path.dropDotSteps_suffix ((trim pattern.toList).map Path.slash)
    have hlast : c ∈ ((trim pattern.toList).map Path.slash).getLast? := by
      rw [← hsteps, List.getLast?_append]
      exact Option.or_eq_some_iff.2 (.inl hc)
    rw [List.getLast?_map] at hlast
    obtain ⟨d, hd, rfl⟩ := Option.map_eq_some_iff.1 hlast
    rw [isBlank_slash]
    exact isBlank_of_mem_getLast?_trimEnd _ d hd

namespace Settled

variable {pattern : String} (hs : Settled pattern)
include hs

theorem trim_eq : trim pattern.toList = trimStart pattern.toList := by
  refine trimEnd_of_getLast? fun c hc => hs.getLast? c ?_
  obtain ⟨blanks, hblanks⟩ : trimStart pattern.toList <:+ pattern.toList := List.dropWhile_suffix _
  rw [← hblanks, List.getLast?_append]
  exact Option.or_eq_some_iff.2 (.inl hc)

/-- The pattern is read as it is if it does not begin with a blank. -/
theorem canonical_eq_self_iff :
    canonical pattern = pattern ↔ ∀ c ∈ pattern.toList.head?, isBlank c = false := by
  constructor
  · intro h c hc
    by_contra hblank
    obtain ⟨s, hs⟩ := List.head?_eq_some_iff.1 hc
    -- The blank is trimmed, and nothing comes in its place.
    have hlength : (canonical pattern).toList.length ≤ s.length := by
      rw [canonical, Path.canonical, String.toList_ofList, String.toList_ofList, hs,
        trim_cons_of_isBlank (by simpa using hblank)]
      exact (Path.length_canonicalChars_le _).trans
        ((isPrefix_trimEnd _).length_le.trans (List.dropWhile_suffix _).length_le)
    rw [h, hs, List.length_cons] at hlength
    exact Nat.not_succ_le_self _ hlength
  · intro h
    rw [canonical, trim_eq_self_iff.2 ⟨h, hs.getLast?⟩, String.ofList_toList]
    exact Path.canonical_eq_self_iff.2 hs.isCanonical

/-- What is read of the pattern is a glob if the pattern is one. -/
theorem isOk_tokens_canonical : (tokens (canonical pattern)).isOk = (tokens pattern).isOk := by
  have hslash : (trimStart pattern.toList).map Path.slash = trimStart pattern.toList := by
    refine (List.map_congr_left fun c hc => if_neg ?_).trans (List.map_id _)
    rintro rfl
    exact hs.isCanonical.backslash_not_mem ((List.dropWhile_suffix _).subset hc)
  rw [tokens, tokens, canonical, Path.canonical, String.toList_ofList, String.toList_ofList,
    hs.trim_eq, Path.canonicalChars, hslash, isOk_parse_glob_dropDotSteps,
    isOk_parse_glob_trimStart]

end Settled

theorem ofPattern_pattern (hne : r.pattern ≠ "") (h : canonical r.pattern = r.pattern) :
    ofPattern r.verdict r.pattern = .ok r := by
  obtain ⟨v, pattern, glob, hglob⟩ := r
  rw [ofPattern, ← canonical, h, if_neg hne]
  split
  · next glob' hglob' =>
    cases hglob.symm.trans hglob'
    rfl
  · next reason hreason => cases hglob.symm.trans hreason

/-- A rule that was read is shown so that the same rule is read again, exactly if its
    pattern does not begin with a blank. If it does, what is shown is refused if nothing is
    left of the pattern when it is trimmed and brought into canonical form once more; else
    it is read as a rule with the same verdict and with what is left, which is another
    pattern. -/
theorem parse_display_iff (h : parse text = .ok r) :
    (parse r.display = .ok r ↔ ∀ c ∈ r.pattern.toList.head?, isBlank c = false) ∧
      (∀ e, parse r.display = .error e ↔ canonical r.pattern = "" ∧ e = .noPattern) ∧
        ∀ r', parse r.display = .ok r' → r'.verdict = r.verdict ∧
          r'.pattern = canonical r.pattern ∧
            (r'.pattern = r.pattern ↔ ∀ c ∈ r.pattern.toList.head?, isBlank c = false) := by
  have hs := settled_of_parse h
  rw [parse_display]
  refine ⟨⟨fun heq => ?_, fun hhead => ?_⟩, fun e => ?_, fun r' hr' => ?_⟩
  · exact hs.canonical_eq_self_iff.1 (pattern_of_ofPattern heq).symm
  · exact ofPattern_pattern hs.ne_empty (hs.canonical_eq_self_iff.2 hhead)
  · by_cases hempty : canonical r.pattern = ""
    · rw [ofPattern, ← canonical, if_pos hempty]
      simp [hempty, eq_comm]
    · have hok : (ofPattern r.verdict r.pattern).isOk = true := by
        rw [isOk_ofPattern hempty]
        exact hs.isOk_tokens_canonical.trans (r.tokens_pattern ▸ rfl)
      obtain ⟨r', hr'⟩ := exists_of_isOk hok
      simp [hempty, hr']
  · obtain ⟨hverdict, hpattern⟩ := eq_of_ofPattern hr'
    refine ⟨hverdict, hpattern, ?_⟩
    rw [← hs.canonical_eq_self_iff, hpattern]
    rfl

/-- A rule with blanks, backslashes and steps in front, behind which no blank stands. -/
theorem parse_display_iff_spelled : ∃ r, parse " -\t.\\././docs\\[ ] " = .ok r ∧
    r.pattern = "docs/[ ]" ∧ parse r.display = .ok r := by
  have hparse : parse " -\t.\\././docs\\[ ] " = .ok ⟨.skip, "docs/[ ]", _, rfl⟩ := rfl
  refine ⟨_, hparse, rfl, (parse_display_iff hparse).1.2 ?_⟩
  rintro c ⟨⟩
  rfl

/-- A blank behind a step is trimmed only when the rule is read once more: then the rule
    has another pattern, or none. -/
theorem parse_display_uncovered :
    (∃ r r', parse "+ ./ a" = .ok r ∧ parse r.display = .ok r' ∧ r.pattern = " a" ∧
      r'.pattern = "a") ∧
      ∃ r, parse "+ ./ ./" = .ok r ∧ parse r.display = .error .noPattern := by
  refine ⟨⟨⟨.keep, " a", _, rfl⟩, ⟨.keep, "a", _, rfl⟩, rfl, rfl, rfl, rfl⟩, ?_⟩
  exact ⟨⟨.keep, " ./", _, rfl⟩, rfl, rfl⟩

end Filter.Rule

end Lintscope

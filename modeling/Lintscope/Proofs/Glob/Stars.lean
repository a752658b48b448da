import Lintscope.Proofs.Glob.Spelling

/-!
# Runs of stars in globs

A run of stars is spelled as one star or several, which describe the same, unless it has
two stars that fill a step of the path before a slash (`accepts_run`). Two such stars
describe what one does, and what the glob without them and their slash does
(`accepts_step`). Whether a step starts before the run is seen from the glob: it does at
its start, and behind a slash (`atStep_of_foldlM`).
-/

namespace Lintscope.Glob

/-! ## How runs are spelled -/

theorem spell_star {s : List Char} (hs : s.head? ≠ some '*') (atStep : Bool) :
    spell .text atStep ('*' :: s) = (.many :: ·) <$> spell .text false s := by
  have htext : spell .text atStep ('*' :: s) = spell .star atStep s := by
    rw [spell]
    rfl
  rw [htext]
  cases s with
  | nil =>
    rw [spell, spell]
    rfl
  | cons c s =>
    have hc : c ≠ '*' := fun hc => hs (congrArg some hc)
    conv_lhs => rw [spell, if_neg hc]

theorem spell_stars (atStep : Bool) (s : List Char) :
    spell .text atStep ('*' :: '*' :: s) = spell .stars atStep s := by
  rw [spell]
  simp only [Char.reduceEq, ↓reduceIte]
  rw [spell]
  simp only [↓reduceIte]

/-- Two stars that do not fill a step before a slash stand for themselves, but at the end
    of a glob they are one if they fill a step. -/
theorem exists_spell_stars {atStep : Bool} {s : List Char}
    (hstep : ¬(atStep = true ∧ s.head? = some '/')) :
    ∃ k, 0 < k ∧ spell .stars atStep s = (List.replicate k .many ++ ·) <$> spell .text false s := by
  cases s with
  | nil =>
    rw [spell, spell]
    cases atStep with
    | false => exact ⟨2, Nat.two_pos, rfl⟩
    | true => exact ⟨1, Nat.one_pos, rfl⟩
  | cons c s =>
    have hc : ¬(atStep = true ∧ c = '/') := fun h => hstep ⟨h.1, congrArg some h.2⟩
    refine ⟨2, Nat.two_pos, ?_⟩
    conv_lhs => rw [spell, if_neg hc]
    rfl

/-- A run of stars that does not fill a step before a slash is spelled as stars. -/
theorem exists_spell_run {n : Nat} {atStep : Bool} {s : List Char} (hn : 0 < n)
    (hs : s.head? ≠ some '*') (hstep : ¬(n = 2 ∧ atStep = true ∧ s.head? = some '/')) :
    ∃ k, 0 < k ∧ spell .text atStep (List.replicate n '*' ++ s) =
      (List.replicate k .many ++ ·) <$> spell .text false s := by
  induction n using Nat.twoStepInduction generalizing atStep with
  | zero => exact absurd hn (Nat.lt_irrefl 0)
  | one => exact ⟨1, Nat.one_pos, spell_star hs atStep⟩
  | more n ih _ =>
    -- Two stars are read, and behind them no step starts.
    have hnext : ¬(atStep = true ∧ (List.replicate n '*' ++ s).head? = some '/') := by
      cases n with
      | zero => exact fun h => hstep ⟨rfl, h⟩
      | succ n => exact fun h => nomatch h.2
    obtain ⟨k, hk, hstars⟩ := exists_spell_stars hnext
    have htext : spell .text atStep (List.replicate (n + 2) '*' ++ s) =
        (List.replicate k .many ++ ·) <$> spell .text false (List.replicate n '*' ++ s) :=
      (spell_stars ..).trans hstars
    rcases Nat.eq_zero_or_pos n with rfl | hpos
    · exact ⟨k, hk, htext⟩
    · obtain ⟨k', -, hrun⟩ := @ih false hpos (by simp)
      refine ⟨k + k', by omega, ?_⟩
      rw [htext, hrun]
      simp only [Functor.map_map, List.replicate_add, List.append_assoc]

theorem spell_step (s : List Char) :
    spell .text true ('*' :: '*' :: '/' :: s) = (.leading :: ·) <$> spell .text true s := by
  rw [spell_stars, spell]
  rfl

theorem spell_slash (atStep : Bool) (s : List Char) :
    spell .text atStep ('/' :: s) = (.char '/' :: ·) <$> spell .text true s := by
  rw [spell]
  rfl

/-- Only nothing is spelled as nothing. -/
theorem eq_nil_of_spell {m : Mode} {b : Bool} {s : List Char} (h : spell m b s = .ok []) :
    m = .text ∧ s = [] := by
  fun_induction spell m b s with
  | case1 => exact ⟨rfl, rfl⟩
  | case2 | case5 | case7 | case12 | case14 | case15 =>
    obtain ⟨more, -, heq⟩ := map_eq_ok_iff.1 h
    cases heq
  | case3 b s _ ih | case4 b s _ _ ih | case8 b d c s _ d' _ ih | case11 b s ih =>
    cases (ih h).1
  | case6 | case9 | case10 => cases h
  | case13 b => cases b <;> cases h

/-! ## Where steps start -/

namespace Reading

variable {r r' : Reading}

theorem Next.last {c : Char} (h : r.Next c r') (hm : r'.mode = .text) :
    r'.last = some c ∧ r'.tokens ≠ [] := by
  rcases h with ⟨m, hne, rfl⟩ | ⟨t, -, -, rfl⟩
  · exact absurd hm hne
  · exact ⟨rfl, List.cons_ne_nil _ _⟩

theorem last_of_read {c : Char} (h : r.read c = .ok r') (hm : r'.mode = .text) :
    r'.last = some c ∧ r'.tokens ≠ [] := by
  rcases next_of_read h with hnext | ⟨n, hnext⟩ | ⟨-, rfl, rfl⟩
  · exact hnext.last hm
  · exact hnext.last hm
  · refine ⟨rfl, ?_⟩
    unfold pushSteps
    dsimp only
    split <;> exact List.cons_ne_nil _ _

/-- Outside sets and stars, a step of the path starts at the start of a glob and behind a
    slash. -/
theorem atStep_of_foldlM {s : List Char} (h : s.foldlM read {} = .ok r) (hm : r.mode = .text) :
    (r.atStep = true ↔ s = [] ∨ s.getLast? = some '/') ∧ (r.tokens = [] ↔ s = []) := by
  rcases List.eq_nil_or_concat s with rfl | ⟨s, c, rfl⟩
  · cases h
    decide
  · rw [List.concat_eq_append, List.foldlM_append, bind_eq_ok_iff] at h
    obtain ⟨r₁, -, h⟩ := h
    obtain ⟨r₂, hread, heq⟩ := foldlM_cons_eq_ok_iff.1 h
    cases heq
    obtain ⟨hlast, htokens⟩ := last_of_read hread hm
    simp [atStep, hlast, htokens]

end Reading

/-! ## What runs describe -/

theorem describes_replicate_many {k : Nat} (hk : 0 < k) (ts : List Token) (path : List UInt8) :
    describes (List.replicate k .many ++ ts) path = describes (.many :: ts) path := by
  obtain ⟨k, rfl⟩ := Nat.exists_eq_succ_of_ne_zero (Nat.ne_of_gt hk)
  induction k with
  | zero => rfl
  | succ k ih =>
    change describes (.many :: .many :: (List.replicate k .many ++ ts)) path = _
    rw [describes_many_many]
    exact ih (Nat.succ_pos k)

namespace Reading.WellFormed

variable {r : Reading} (h : r.WellFormed)
include h

theorem isOk_tokensOf (s : List Char) :
    (r.tokensOf s).isOk = (spell r.mode r.atStep s).isOk := by
  have hread := congrArg Except.isOk (accepts_tokensOf h s [])
  rwa [isOk_map, isOk_map] at hread

/-- What the tokens of a glob describe, by the spelling of its rest. -/
theorem exists_spell_of_tokensOf {s : List Char} {ts : List Token} (hts : r.tokensOf s = .ok ts) :
    ∃ more, spell r.mode r.atStep s = .ok more ∧
      ∀ path, accepts ts path = covers (r.tokens.reverse ++ more) path := by
  have hread (path : List UInt8) := accepts_tokensOf h s path
  simp only [hts] at hread
  cases hmore : spell r.mode r.atStep s with
  | error e =>
    rw [hmore] at hread
    exact nomatch hread []
  | ok more =>
    rw [hmore] at hread
    exact ⟨more, rfl, fun path => Except.ok.inj (hread path)⟩

/-- A run of stars that does not fill a step before a slash is read as one star is. -/
theorem accepts_run (hm : r.mode = .text) {n : Nat} (hn : 0 < n) {s : List Char}
    (hs : s.head? ≠ some '*') (hstep : ¬(n = 2 ∧ r.atStep = true ∧ s.head? = some '/'))
    (path : List UInt8) :
    (accepts · path) <$> r.tokensOf (List.replicate n '*' ++ s) =
      (accepts · path) <$> r.tokensOf ('*' :: s) := by
  obtain ⟨k, hk, hrun⟩ := exists_spell_run hn hs hstep
  have hmany (more : List Token) :
      covers (r.tokens.reverse ++ (List.replicate k .many ++ more)) path =
        covers (r.tokens.reverse ++ .many :: more) path := by
    obtain ⟨j, rfl⟩ := Nat.exists_eq_succ_of_ne_zero (Nat.ne_of_gt hk)
    change covers (r.tokens.reverse ++ .many :: (List.replicate j .many ++ more)) path = _
    rw [covers_append_of_ne (by simp), covers_append_of_ne (by simp)]
    exact describes_append_congr (describes_replicate_many hk more) _ path
  rw [accepts_tokensOf h, accepts_tokensOf h, hm, hrun, spell_star hs]
  simp only [Functor.map_map, hmany]

/-- Every run of stars may stand in a glob where one star may. -/
theorem isOk_tokensOf_run (hm : r.mode = .text) {n : Nat} (hn : 0 < n) {s : List Char}
    (hs : s.head? ≠ some '*') :
    (r.tokensOf (List.replicate n '*' ++ s)).isOk = (r.tokensOf ('*' :: s)).isOk := by
  rw [h.isOk_tokensOf, h.isOk_tokensOf, hm, spell_star hs, isOk_map]
  by_cases hstep : n = 2 ∧ r.atStep = true ∧ s.head? = some '/'
  · obtain ⟨rfl, hstep, hhead⟩ := hstep
    obtain ⟨s, rfl⟩ := List.head?_eq_some_iff.1 hhead
    change (spell .text r.atStep ('*' :: '*' :: '/' :: s)).isOk = _
    rw [hstep, spell_step, spell_slash, isOk_map, isOk_map]
  · obtain ⟨k, -, hrun⟩ := exists_spell_run hn hs hstep
    rw [hrun, isOk_map]

/-- Two stars that fill a step before a slash describe what one star there does, and what
    the glob without the step and its slash does. -/
theorem accepts_step (hm : r.mode = .text) (hstep : r.atStep = true) {s : List Char}
    {ts us : List Token} (hts : r.tokensOf ('*' :: '*' :: '/' :: s) = .ok ts)
    (hus : r.tokensOf ('*' :: '/' :: s) = .ok us) :
    ∃ vs, r.tokensOf s = .ok vs ∧ ∀ path, accepts ts path = true ↔
      accepts us path = true ∨ accepts vs path = true ∨ (r.tokens = [] ∧ s = []) := by
  obtain ⟨more, hmore, hts⟩ := h.exists_spell_of_tokensOf hts
  obtain ⟨more', hmore', hus⟩ := h.exists_spell_of_tokensOf hus
  rw [hm, hstep, spell_step, map_eq_ok_iff] at hmore
  rw [hm, hstep, spell_star (by simp), spell_slash, Functor.map_map, map_eq_ok_iff] at hmore'
  obtain ⟨rest, hrest, rfl⟩ := hmore
  obtain ⟨rest', hrest', rfl⟩ := hmore'
  obtain rfl : rest = rest' := Except.ok.inj (hrest.symm.trans hrest')
  have hok : (r.tokensOf s).isOk = true := by
    rw [h.isOk_tokensOf, hm, hstep, hrest]
    rfl
  obtain ⟨vs, hvs⟩ := exists_of_isOk hok
  obtain ⟨more, hmore, haccepts⟩ := h.exists_spell_of_tokensOf hvs
  rw [hm, hstep, hrest] at hmore
  cases hmore
  refine ⟨vs, hvs, fun path => ?_⟩
  have hnil : r.tokens.reverse ++ rest = [] ↔ r.tokens = [] ∧ s = [] := by
    rw [List.append_eq_nil_iff, List.reverse_eq_nil_iff]
    refine and_congr_right fun _ => ⟨fun h => (eq_nil_of_spell (h ▸ hrest)).2, fun h => ?_⟩
    rw [h, spell] at hrest
    exact (Except.ok.inj hrest).symm
  rw [hts, hus, haccepts, ← hnil]
  exact covers_leading_iff ..

end Reading.WellFormed

end Lintscope.Glob

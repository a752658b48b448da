import Lintscope.Proofs.Glob.Checking
import Mathlib.Tactic.Tauto

/-!
# Cutting shell patterns

A star that is a part of a pattern of its own cuts the pattern: what stands before it
has the same parts whatever stands in the place of the star and of what follows it
(`parts_append`). Only a bracket that was open before the star must not be closed by
what comes there instead. So the globs of the two sides stand one behind the other
(`glob_append`), and the glob of each side has the stars and slashes at its ends that
the side has.
-/

namespace Lintscope.Glob.Shell

/-! ## Parts -/

theorem parts_cons_star (s : List Char) : parts ('*' :: s) = .star :: parts s := by
  rw [parts, if_pos rfl]

theorem parts_cons_any (s : List Char) : parts ('?' :: s) = .any :: parts s := by
  rw [parts, if_neg (by decide), if_pos rfl]

theorem parts_cons_of_ne {c : Char} (hstar : c ≠ '*') (hany : c ≠ '?') (hbracket : c ≠ '[')
    (s : List Char) : parts (c :: s) = .char c :: parts s := by
  rw [parts, if_neg hstar, if_neg hany, if_neg hbracket]

theorem parts_cons_of_cutSet? {s members rest : List Char} {negated : Bool}
    (h : cutSet? s = some (negated, members, rest)) :
    parts ('[' :: s) = .set negated members :: parts rest := by
  rw [parts, if_neg (by decide), if_neg (by decide), if_pos rfl]
  split <;> simp_all

theorem parts_cons_of_cutSet?_eq_none {s : List Char} (h : cutSet? s = none) :
    parts ('[' :: s) = .char '[' :: parts s := by
  rw [parts, if_neg (by decide), if_neg (by decide), if_pos rfl]
  split <;> simp_all

theorem cutMembers?_eq_none_iff {s : List Char} : cutMembers? s = none ↔ ']' ∉ s.tail := by
  cases s with
  | nil => simp [cutMembers?]
  | cons c s =>
    rw [cutMembers?]
    split
    · next hdrop =>
      rw [List.dropWhile_eq_nil_iff] at hdrop
      exact iff_of_true rfl fun h => by simpa using hdrop _ h
    · next d rest hdrop =>
      refine iff_of_false (Option.some_ne_none _) fun h => ?_
      have hnil : s.dropWhile (· != ']') = [] :=
        List.dropWhile_eq_nil_iff.2 fun a ha => bne_iff_ne.2 fun heq => h (heq ▸ ha)
      rw [hnil] at hdrop
      cases hdrop

theorem cutSet?_cons_of_ne {c : Char} (hc : c ≠ '!') (s : List Char) :
    cutSet? (c :: s) = (cutMembers? (c :: s)).map (false, ·) := by
  unfold cutSet?
  split
  · next heq => exact absurd (List.cons.inj heq).1 hc
  · rfl

/-- What stands behind a set does not change it. -/
theorem cutSet?_append {s members rest : List Char} {negated : Bool}
    (h : cutSet? s = some (negated, members, rest)) (after : List Char) :
    cutSet? (s ++ after) = some (negated, members, rest ++ after) := by
  obtain ⟨rfl, ⟨c, t, rfl, ht⟩, hmark⟩ := append_of_cutSet? h
  have hmembers : cutMembers? (c :: t ++ ']' :: (rest ++ after)) = some (c :: t, rest ++ after) :=
    cutMembers?_eq_some_iff.2 ⟨c, t, rfl, ht, rfl⟩
  rw [List.append_assoc, List.append_assoc]
  cases negated with
  | true => exact congrArg (Option.map (true, ·)) hmembers
  | false =>
    have hc : c ≠ '!' := fun hc => hmark rfl (congrArg some hc)
    exact (cutSet?_cons_of_ne hc _).trans (congrArg (Option.map (false, ·)) hmembers)

theorem cutSet?_eq_none {s : List Char} (h : ']' ∉ s) : cutSet? s = none := by
  unfold cutSet?
  split
  · next s =>
    have hs : ']' ∉ s.tail := fun hmem => h (List.mem_cons_of_mem _ (List.mem_of_mem_tail hmem))
    rw [cutMembers?_eq_none_iff.2 hs, Option.map_none]
  · next s _ =>
    rw [cutMembers?_eq_none_iff.2 fun hmem => h (List.mem_of_mem_tail hmem), Option.map_none]

/-- A bracket that is not closed behind a star is not closed by a text without brackets. -/
theorem cutSet?_append_eq_none {s after t : List Char} (h : cutSet? (s ++ '*' :: after) = none)
    (ht : ']' ∈ t → ']' ∈ after) : cutSet? (s ++ t) = none := by
  have hstar (hs : cutMembers? ('*' :: after) = none) : ']' ∉ t :=
    mt ht (cutMembers?_eq_none_iff.1 hs)
  have hmembers {c : Char} {s : List Char} (hs : cutMembers? (c :: s ++ '*' :: after) = none) :
      cutMembers? (c :: s ++ t) = none := by
    rw [cutMembers?_eq_none_iff] at hs ⊢
    simp only [List.cons_append, List.tail_cons, List.mem_append, List.mem_cons] at hs ⊢
    tauto
  match s with
  | [] => exact cutSet?_eq_none (hstar (Option.map_eq_none_iff.1 h))
  | c :: s =>
    by_cases hc : c = '!'
    · subst hc
      refine Option.map_eq_none_iff.2 ?_
      cases s with
      | nil =>
        have hmem : ']' ∉ t := hstar (Option.map_eq_none_iff.1 h)
        exact cutMembers?_eq_none_iff.2 fun htail => hmem (List.mem_of_mem_tail htail)
      | cons c s => exact hmembers (Option.map_eq_none_iff.1 h)
    · rw [List.cons_append, cutSet?_cons_of_ne hc, Option.map_eq_none_iff] at h ⊢
      exact hmembers h

/-- Where a star stands between the parts of a pattern, the pattern may be cut: what
    stands there instead of it and of what follows it has parts of its own, if it does
    not close a bracket. -/
theorem parts_append {before after t : List Char}
    (h : parts (before ++ '*' :: after) = parts before ++ parts ('*' :: after))
    (ht : ']' ∈ t → ']' ∈ after) : parts (before ++ t) = parts before ++ parts t := by
  fun_induction parts before with
  | case1 => rfl
  | case2 s ih =>
    rw [List.cons_append, parts_cons_star] at h ⊢
    exact congrArg _ (ih (List.cons.inj h).2)
  | case3 s _ ih =>
    rw [List.cons_append, parts_cons_any] at h ⊢
    exact congrArg _ (ih (List.cons.inj h).2)
  | case4 s negated members rest hcut _ _ ih =>
    rw [List.cons_append, parts_cons_of_cutSet? (cutSet?_append hcut _)] at h ⊢
    exact congrArg _ (ih (List.cons.inj h).2)
  | case5 s _ _ _ ih =>
    -- The bracket is closed neither before the star nor behind it.
    have hnone : cutSet? (s ++ '*' :: after) = none := by
      cases hcut : cutSet? (s ++ '*' :: after) with
      | none => rfl
      | some set =>
        rw [List.cons_append, parts_cons_of_cutSet? hcut] at h
        cases (List.cons.inj h).1
    rw [List.cons_append, parts_cons_of_cutSet?_eq_none hnone] at h
    rw [List.cons_append, parts_cons_of_cutSet?_eq_none (cutSet?_append_eq_none hnone ht)]
    exact congrArg _ (ih (List.cons.inj h).2)
  | case6 c s hstar hany hbracket ih =>
    rw [List.cons_append, parts_cons_of_ne hstar hany hbracket] at h ⊢
    exact congrArg _ (ih (List.cons.inj h).2)

theorem parts_eq_nil_iff {s : List Char} : parts s = [] ↔ s = [] := by
  fun_cases parts s <;> simp

/-- A star ends the parts of a pattern only if one ends the pattern. -/
theorem getLast?_of_getLast?_parts {s : List Char} (h : (parts s).getLast? = some .star) :
    s.getLast? = some '*' := by
  have happend {p : Part} {u s : List Char} (hp : p = .star → u.getLast? = some '*')
      (hs : (parts s).getLast? = some .star → s.getLast? = some '*')
      (h : (p :: parts s).getLast? = some .star) : (u ++ s).getLast? = some '*' := by
    rw [← List.singleton_append, List.getLast?_append, Option.or_eq_some_iff,
      List.getLast?_eq_none_iff, parts_eq_nil_iff, List.getLast?_singleton, Option.some.injEq] at h
    rw [List.getLast?_append, Option.or_eq_some_iff, List.getLast?_eq_none_iff]
    exact h.imp hs (And.imp_right hp)
  fun_induction parts s with
  | case1 => cases h
  | case2 s ih => exact happend (u := ['*']) (fun _ => rfl) ih h
  | case3 s _ ih => exact happend (u := ['?']) (by simp) ih h
  | case4 s negated members rest hcut _ _ ih =>
    rw [(append_of_cutSet? hcut).1, List.append_cons, ← List.cons_append]
    exact happend (by simp) ih h
  | case5 s _ _ _ ih => exact happend (u := ['[']) (by simp) ih h
  | case6 c s _ _ _ ih => exact happend (u := [c]) (by simp) ih h

/-! ## Globs -/

theorem glob_append {before after t : List Char}
    (h : parts (before ++ '*' :: after) = parts before ++ parts ('*' :: after))
    (ht : ']' ∈ t → ']' ∈ after) :
    Shell.glob (before ++ t) = Shell.glob before ++ Shell.glob t := by
  rw [glob_eq, parts_append h ht, List.flatMap_append, ← glob_eq, ← glob_eq]

theorem glob_replicate_append (n : Nat) (s : List Char) :
    Shell.glob (List.replicate n '*' ++ s) = List.replicate n '*' ++ Shell.glob s := by
  induction n with
  | zero => rfl
  | succ n ih => exact congrArg ('*' :: ·) ih

theorem head?_glob (s : List Char) :
    (Shell.glob s).head? = s.head?.map fun c => if c = '{' ∨ c = '}' then '[' else c := by
  cases s with
  | nil => rfl
  | cons c s =>
    rw [Shell.glob, globFrom, if_neg (Nat.lt_irrefl 0), List.head?_cons, Option.map_some]
    split_ifs with hbrace hbracket
    · rfl
    · rw [hbracket]
      split <;> rfl
    · rfl

theorem glob_eq_nil_iff {s : List Char} : Shell.glob s = [] ↔ s = [] := by
  rw [← List.head?_eq_none_iff, head?_glob, Option.map_eq_none_iff, List.head?_eq_none_iff]

theorem head?_glob_eq_iff {c : Char} (hc : c ≠ '[' ∧ c ≠ '{' ∧ c ≠ '}') {s : List Char} :
    (Shell.glob s).head? = some c ↔ s.head? = some c := by
  rw [head?_glob]
  cases s with
  | nil => simp
  | cons d s =>
    simp only [List.head?_cons, Option.map_some, Option.some.injEq]
    split
    · next h =>
      refine iff_of_false hc.1.symm fun heq => ?_
      rcases h with rfl | rfl
      · exact hc.2.1 heq.symm
      · exact hc.2.2 heq.symm
    · rfl

/-- The glob of a pattern ends with a slash if the pattern does. -/
theorem getLast?_glob_eq_iff {s : List Char} :
    (Shell.glob s).getLast? = some '/' ↔ s.getLast? = some '/' := by
  -- A part ends with a slash if its glob does, and so does what stands behind it.
  have happend {u v s : List Char} (hu : u.getLast? = some '/' ↔ v.getLast? = some '/')
      (hs : (Shell.glob s).getLast? = some '/' ↔ s.getLast? = some '/') :
      (u ++ Shell.glob s).getLast? = some '/' ↔ (v ++ s).getLast? = some '/' := by
    rw [List.getLast?_append, List.getLast?_append, Option.or_eq_some_iff, Option.or_eq_some_iff,
      hs, hu, List.getLast?_eq_none_iff, List.getLast?_eq_none_iff, glob_eq_nil_iff]
  fun_induction parts s with
  | case1 => rfl
  | case2 s ih => exact happend (u := ['*']) (v := ['*']) Iff.rfl ih
  | case3 s _ ih => exact happend (u := ['?']) (v := ['?']) Iff.rfl ih
  | case4 s negated members rest hcut _ _ ih =>
    have hs : '[' :: s = (Part.set negated members).glob ++ rest := by
      simp [Part.glob, (append_of_cutSet? hcut).1]
    rw [glob_cons_bracket, hcut, hs]
    exact happend Iff.rfl ih
  | case5 s hcut _ _ ih =>
    rw [glob_cons_bracket, hcut]
    exact happend (v := ['[']) (by decide) ih
  | case6 c s hstar hany hbracket ih =>
    have hc : (Part.char c).glob.getLast? = some '/' ↔ [c].getLast? = some '/' := by
      rw [Part.glob]
      split
      · next h => rcases h with rfl | rfl | rfl <;> decide
      · rfl
    rw [glob_eq, parts_cons_of_ne hstar hany hbracket, List.flatMap_cons, ← glob_eq]
    exact happend (v := [c]) hc ih

end Lintscope.Glob.Shell

namespace Lintscope.Glob

open Shell

/-! ## Where the reader of the glob stands -/

namespace Reading

variable {r r' : Reading}

/-- Behind parts of which none is a set with a caret for its only member, and the last
    is no star, the reader stands outside of sets and stars. -/
theorem mode_of_foldlM_parts {ps : List Part}
    (hps : ∀ p ∈ ps, p.WellFormed ∧ p ≠ .set false ['^']) (hlast : ps.getLast? ≠ some .star)
    (hr : r.Outside) (hnil : ps = [] → r.mode = .text)
    (h : (ps.flatMap Part.glob).foldlM read r = .ok r') : r'.mode = .text := by
  induction ps generalizing r with
  | nil =>
    cases h
    exact hnil rfl
  | cons p ps ih =>
    rw [List.forall_mem_cons] at hps
    rw [List.flatMap_cons, List.foldlM_append, bind_eq_ok_iff] at h
    obtain ⟨r₁, hr₁, h⟩ := h
    obtain ⟨houtside, htext⟩ := (checks_glob hr hps.1.1 hps.1.2).of_eq_ok hr₁
    refine ih hps.2 (fun hstar => hlast ?_) houtside (fun hps => htext fun hp => hlast ?_) h
    · rw [List.getLast?_cons, hstar]
      rfl
    · rw [hps, hp]
      rfl

/-- Behind a pattern that does not end with a star the reader stands outside of sets and
    stars, unless the pattern has a set with a caret for its only member. -/
theorem mode_of_foldlM_glob {s : List Char} (hlast : s.getLast? ≠ some '*')
    (hcaret : .set false ['^'] ∉ parts s) (h : (Shell.glob s).foldlM read {} = .ok r) :
    r.mode = .text := by
  rw [glob_eq] at h
  exact mode_of_foldlM_parts
    (fun p hp => ⟨wellFormed_of_mem_parts s p hp, ne_of_mem_of_not_mem hp hcaret⟩)
    (mt getLast?_of_getLast?_parts hlast) (outside_of_text rfl) (fun _ => rfl) h

end Reading

end Lintscope.Glob

import Lintscope.Glob.Table
import Lintscope.Proofs.Except
import Lintscope.Proofs.Glob.Reading
import Lintscope.Proofs.Glob.Tokens

/-!
# Spelling globs

The reader of globs lets the token of a step take the place of the slash before it, so
what it makes of two stars depends on the tokens it has read. `spell` reads the rest of a
glob without a look at them: it keeps the slash, and the token of the steps behind it is
that of steps at the start. What the tokens of the reader describe is what these tokens
describe behind those read before (`accepts_tokensOf`).
-/

namespace Lintscope.Glob

/-! ## Spelling -/

/-- The tokens of the rest of a glob. Two stars are a token of their own only if a step
    starts before them and a slash stands behind them. -/
def spell (mode : Mode) (atStep : Bool) (s : List Char) : Except Error (List Token) :=
  match mode, s with
  | .text, [] => .ok []
  | .text, c :: s =>
    if c = '?' then (.one :: ·) <$> spell .text false s
    else if c = '[' then spell (.set {}) atStep s
    else if c = '*' then spell .star atStep s
    else (.char c :: ·) <$> spell .text (c == '/') s
  | .set _, [] => .error .unclosedSet
  | .set d, c :: s =>
    if c = ']' ∧ ¬ d.empty then (d.token :: ·) <$> spell .text false s
    else
      match d.read c with
      | .ok d => spell (.set d) atStep s
      | .error e => .error e
  | .star, [] => .ok [.many]
  | .star, c :: s =>
    if c = '*' then spell .stars atStep s else (.many :: ·) <$> spell .text false (c :: s)
  | .stars, [] => .ok (if atStep then [.many] else [.many, .many])
  | .stars, c :: s =>
    if atStep ∧ c = '/' then (.leading :: ·) <$> spell .text true s
    else ([.many, .many] ++ ·) <$> spell .text false (c :: s)
termination_by (s.length, match mode with | .text | .set _ => 0 | .star | .stars => 1)
decreasing_by all_goals simp_wf; omega

/-! ## Tokens of a whole glob -/

/-- There are tokens, and all of them stand for steps at the start. -/
def OnlySteps (ts : List Token) : Prop := ts ≠ [] ∧ ∀ t ∈ ts, t = .leading

instance (ts : List Token) : Decidable (OnlySteps ts) :=
  inferInstanceAs (Decidable (_ ∧ _))

/-- Whether a glob with these tokens describes a path. If it has nothing but steps, it
    describes them all. -/
def covers (ts : List Token) (path : List UInt8) : Bool :=
  decide (OnlySteps ts) || describes ts path

theorem onlySteps_append_of_mem {t : Token} (ht : t ≠ .leading) (before after : List Token) :
    ¬OnlySteps (before ++ t :: after) := fun h => ht (h.2 t (by simp))

theorem covers_append_of_ne {t : Token} (ht : t ≠ .leading) (before after : List Token)
    (path : List UInt8) :
    covers (before ++ t :: after) path = describes (before ++ t :: after) path := by
  rw [covers, decide_eq_false (onlySteps_append_of_mem ht before after), Bool.false_or]

theorem covers_many (ts : List Token) (path : List UInt8) :
    covers (ts ++ [.many]) path = describes (ts ++ [.many]) path :=
  covers_append_of_ne (by simp) ts [] path

/-- Further steps are none, or any octets and a slash. Where there is nothing else, they
    describe every path. -/
theorem covers_leading_iff (before more : List Token) (path : List UInt8) :
    covers (before ++ .leading :: more) path = true ↔
      covers (before ++ .many :: .char '/' :: more) path = true ∨
        covers (before ++ more) path = true ∨ before ++ more = [] := by
  have hsteps : OnlySteps (before ++ .leading :: more) ↔
      OnlySteps (before ++ more) ∨ before ++ more = [] := by
    by_cases hnil : before ++ more = []
    · obtain ⟨rfl, rfl⟩ := List.append_eq_nil_iff.1 hnil
      simp [OnlySteps]
    · simp [OnlySteps, List.append_eq_nil_iff.not.1 hnil, or_imp, forall_and]
  rw [covers_append_of_ne (t := .many) (by simp), covers, covers, Bool.or_eq_true, Bool.or_eq_true,
    decide_eq_true_iff, decide_eq_true_iff, hsteps,
    describes_append_or (describes_leading_iff more) before path]
  tauto

namespace Reading

/-- The tokens of a glob of which `s` is still to be read. -/
def tokensOf (r : Reading) (s : List Char) : Except Error (List Token) := do
  (← s.foldlM read r).finish

variable {r : Reading}

theorem tokensOf_nil : r.tokensOf [] = r.finish := rfl

theorem tokensOf_cons (c : Char) (s : List Char) :
    r.tokensOf (c :: s) = r.read c >>= (tokensOf · s) := by
  rw [tokensOf, List.foldlM_cons, bind_assoc]
  rfl

theorem tokensOf_cons_of_read {c : Char} {r' : Reading} (h : r.read c = .ok r') (s : List Char) :
    r.tokensOf (c :: s) = r'.tokensOf s := by
  rw [tokensOf_cons, h]
  rfl

/-- What the tokens of a reading are like: steps at the start are nowhere else, and where
    a step of the path starts, there is a slash or there are steps before it. -/
structure WellFormed (r : Reading) : Prop where
  leading : ∀ ts, .leading :: ts <:+ r.tokens → ts = []
  slash : r.last = some '/' →
    ∃ t ts, r.tokens = t :: ts ∧ (t = .char '/' ∨ t = .between ∨ t = .leading)

theorem wellFormed_empty : WellFormed {} := ⟨by simp, nofun⟩

theorem WellFormed.withMode (h : r.WellFormed) (m : Mode) : WellFormed { r with mode := m } :=
  ⟨h.leading, h.slash⟩

theorem WellFormed.push (h : r.WellFormed) {t : Token} {c : Char} (ht : t ≠ .leading)
    (hc : c = '/' → t = .char '/') : (r.push t c).WellFormed := by
  refine ⟨fun ts hts => ?_, fun hlast => ⟨t, r.tokens, rfl, .inl (hc (Option.some.inj hlast))⟩⟩
  rcases List.suffix_cons_iff.1 hts with heq | hts
  · exact absurd (List.cons.inj heq).1.symm ht
  · exact h.leading ts hts

theorem WellFormed.pushMany (h : r.WellFormed) (n : Nat) : (r.pushMany n).WellFormed := by
  refine ⟨fun ts hts => ?_, fun hlast => nomatch hlast⟩
  induction n with
  | zero => exact h.leading ts hts
  | succ n ih =>
    rcases List.suffix_cons_iff.1 hts with heq | hts
    · exact nomatch (List.cons.inj heq).1
    · exact ih hts

/-- Where a step of the path starts. -/
theorem WellFormed.tokens_of_atStep (h : r.WellFormed) (hstep : r.atStep = true) :
    r.tokens = [] ∨ r.tokens = [.leading] ∨
      ∃ t ts, r.tokens = t :: ts ∧ (t = .char '/' ∨ t = .between) := by
  rw [atStep, Bool.or_eq_true, List.isEmpty_iff, beq_iff_eq] at hstep
  rcases hstep with hnil | hlast
  · exact .inl hnil
  · obtain ⟨t, ts, htokens, ht | ht | rfl⟩ := h.slash hlast
    · exact .inr (.inr ⟨t, ts, htokens, .inl ht⟩)
    · exact .inr (.inr ⟨t, ts, htokens, .inr ht⟩)
    · rw [h.leading ts (htokens ▸ List.suffix_rfl)] at htokens
      exact .inr (.inl htokens)

/-- What two stars that fill a step make of a reading. -/
theorem WellFormed.tokens_pushSteps (h : r.WellFormed) (hstep : r.atStep = true) (steps : Token) :
    ((r.tokens = [] ∨ r.tokens = [.leading]) ∧ (r.pushSteps steps).tokens = [.leading]) ∨
      ∃ t ts, r.tokens = t :: ts ∧ (t = .char '/' ∨ t = .between) ∧
        (r.pushSteps steps).tokens = steps :: ts := by
  rcases h.tokens_of_atStep hstep with ht | ht | ⟨t, ts, ht, hc | hc⟩
  · exact .inl ⟨.inl ht, by rw [pushSteps, ht]⟩
  · exact .inl ⟨.inr ht, by rw [pushSteps, ht]⟩
  · exact .inr ⟨t, ts, ht, .inl hc, by rw [pushSteps, ht, hc]⟩
  · exact .inr ⟨t, ts, ht, .inr hc, by rw [pushSteps, ht, hc]⟩

theorem WellFormed.pushSteps (h : r.WellFormed) (hstep : r.atStep = true) :
    (r.pushSteps .between).WellFormed := by
  rcases h.tokens_pushSteps hstep .between with ⟨-, ht⟩ | ⟨t, ts, htokens, -, ht⟩
  · refine ⟨fun ts hts => ?_, fun _ => ⟨.leading, [], ht, .inr (.inr rfl)⟩⟩
    rw [ht, List.suffix_cons_iff, List.suffix_nil] at hts
    simpa using hts
  · refine ⟨fun us hus => ?_, fun _ => ⟨.between, ts, ht, .inr (.inl rfl)⟩⟩
    rw [ht, List.suffix_cons_iff] at hus
    rcases hus with heq | hus
    · exact nomatch (List.cons.inj heq).1
    · exact h.leading us (htokens ▸ hus.trans (List.suffix_cons t ts))

/-- What reading one more character makes of a reading: nothing but its mode is new, or
    there is a token more, which ends with the character. -/
def Next (r : Reading) (c : Char) (r' : Reading) : Prop :=
  (∃ m, m ≠ .text ∧ r' = { r with mode := m }) ∨
    ∃ t, t ≠ .leading ∧ (c = '/' → t = .char '/') ∧ r' = r.push t c

theorem next_readText (r : Reading) (c : Char) : r.Next c (r.readText c) := by
  unfold readText
  split_ifs with hany
  · exact .inr ⟨.one, by simp, by simp [hany], rfl⟩
  · exact .inl ⟨.set {}, by simp, rfl⟩
  · exact .inl ⟨.star, by simp, rfl⟩
  · exact .inr ⟨.char c, by simp, congrArg Token.char, rfl⟩

/-- Another character is read as such, behind the stars that the mode holds, unless it
    is the slash behind two stars that fill a step. -/
theorem next_of_read {c : Char} {r' : Reading} (h : r.read c = .ok r') :
    r.Next c r' ∨ (∃ n, (r.pushMany n).Next c r') ∨
      r.atStep = true ∧ c = '/' ∧ r' = r.pushSteps .between := by
  unfold read at h
  split at h
  · cases h
    exact .inl (next_readText r c)
  · next d _ =>
    split at h
    · next hclose =>
      cases h
      exact .inl (.inr ⟨d.token, by simp [Draft.token], by simp [hclose.1], rfl⟩)
    · obtain ⟨d', -, rfl⟩ := map_eq_ok_iff.1 h
      exact .inl (.inl ⟨.set d', by simp, rfl⟩)
  · cases h
    split
    · exact .inl (.inl ⟨.stars, by simp, rfl⟩)
    · exact .inr (.inl ⟨1, next_readText _ c⟩)
  · cases h
    split
    · next hstep => exact .inr (.inr ⟨hstep.1, hstep.2, rfl⟩)
    · exact .inr (.inl ⟨2, next_readText _ c⟩)

theorem WellFormed.next (h : r.WellFormed) {c : Char} {r' : Reading} (hnext : r.Next c r') :
    r'.WellFormed := by
  rcases hnext with ⟨m, -, rfl⟩ | ⟨t, ht, hc, rfl⟩
  · exact h.withMode m
  · exact h.push ht hc

theorem WellFormed.read (h : r.WellFormed) {c : Char} {r' : Reading} (hread : r.read c = .ok r') :
    r'.WellFormed := by
  rcases next_of_read hread with hnext | ⟨n, hnext⟩ | ⟨hstep, -, rfl⟩
  · exact h.next hnext
  · exact (h.pushMany n).next hnext
  · exact h.pushSteps hstep

theorem wellFormed_of_foldlM {s : List Char} (h : s.foldlM read {} = .ok r) : r.WellFormed :=
  foldlM_keeps (fun _ _ _ hr hread => hr.read hread) wellFormed_empty h

/-- Steps between two slashes are a slash with steps at the start behind it. -/
theorem WellFormed.covers_pushSteps (h : r.WellFormed) (hstep : r.atStep = true)
    (more : List Token) (path : List UInt8) :
    covers ((r.pushSteps .between).tokens.reverse ++ more) path =
      covers (r.tokens.reverse ++ .leading :: more) path := by
  rcases h.tokens_pushSteps hstep .between with ⟨htokens | htokens, ht⟩ | ⟨t, ts, htokens, hc, ht⟩
  · rw [ht, htokens]
    rfl
  · have hsteps : OnlySteps (.leading :: .leading :: more) ↔ OnlySteps (.leading :: more) := by
      simp [OnlySteps]
    rw [ht, htokens]
    simp only [List.reverse_singleton, List.singleton_append, covers, describes_leading_leading,
      hsteps]
  · have hne : t ≠ .leading := by rcases hc with rfl | rfl <;> simp
    have hdescribes (s : List UInt8) :
        describes (.between :: more) s = describes (t :: .leading :: more) s := by
      rcases hc with rfl | rfl
      · exact describes_between ..
      · exact (describes_between_leading ..).symm
    rw [ht, htokens, List.reverse_cons, List.reverse_cons, List.append_assoc, List.append_assoc,
      List.singleton_append, List.singleton_append, covers_append_of_ne (by simp),
      covers_append_of_ne hne, describes_append_congr hdescribes]

/-- At the end of a glob two stars that fill a step are any octets. -/
theorem WellFormed.accepts_pushSteps (h : r.WellFormed) (hstep : r.atStep = true)
    (path : List UInt8) :
    accepts (r.pushSteps .trailing).tokens.reverse path =
      covers (r.tokens.reverse ++ [.many]) path := by
  have hmany : describes [.many] path = true :=
    describes_many_iff.2 ⟨path, [], (List.append_nil path).symm, rfl⟩
  rw [covers_many, accepts_eq]
  rcases h.tokens_pushSteps hstep .trailing with ⟨htokens | htokens, ht⟩ | ⟨t, ts, htokens, hc, ht⟩
  · rw [ht, htokens]
    exact hmany.symm
  · rw [ht, htokens]
    exact ((describes_leading_many ..).trans hmany).symm
  · have hdescribes (s : List UInt8) :
        describes [.trailing] s = describes (t :: [.many]) s := by
      rcases hc with rfl | rfl
      · exact describes_trailing ..
      · exact (describes_between_many ..).symm
    have hne : ts.reverse ++ [Token.trailing] ≠ [.leading] := fun heq => by
      simpa using congrArg (Token.trailing ∈ ·) heq
    rw [ht, htokens, List.reverse_cons, List.reverse_cons, List.append_assoc, decide_eq_false hne,
      Bool.false_or, List.singleton_append, describes_append_congr hdescribes]

/-- Where nothing is left, what describes a path is what covers it. -/
theorem WellFormed.accepts_tokens (h : r.WellFormed) (path : List UInt8) :
    accepts r.tokens.reverse path = covers r.tokens.reverse path := by
  have hsteps : r.tokens.reverse = [.leading] ↔ OnlySteps r.tokens.reverse := by
    constructor
    · intro heq
      rw [heq]
      decide
    · rintro ⟨hne, hall⟩
      obtain ⟨t, ts, htokens⟩ := List.exists_cons_of_ne_nil (mt List.reverse_eq_nil_iff.2 hne)
      have ht : t = .leading := hall t (by simp [htokens])
      subst ht
      rw [htokens, h.leading ts (htokens ▸ List.suffix_rfl)]
      rfl
  simp only [accepts_eq, covers, hsteps]

theorem WellFormed.accepts_pushMany (h : r.WellFormed) (n : Nat) (path : List UInt8) :
    accepts (r.pushMany n).tokens.reverse path =
      covers (r.tokens.reverse ++ List.replicate n .many) path := by
  rw [(h.pushMany n).accepts_tokens, Reading.pushMany, List.reverse_append, List.reverse_replicate]

/-! ## What is read is what is spelled -/

theorem map_covers_push (t : Token) (c : Char) (rest : Except Error (List Token))
    (path : List UInt8) :
    (fun more => covers ((r.push t c).tokens.reverse ++ more) path) <$> rest =
      (fun more => covers (r.tokens.reverse ++ more) path) <$> (t :: ·) <$> rest := by
  cases rest with
  | error e => rfl
  | ok more => simp [push]

theorem map_covers_pushMany (n : Nat) (rest : Except Error (List Token)) (path : List UInt8) :
    (fun more => covers ((r.pushMany n).tokens.reverse ++ more) path) <$> rest =
      (fun more => covers (r.tokens.reverse ++ more) path) <$>
        (List.replicate n .many ++ ·) <$> rest := by
  cases rest with
  | error e => rfl
  | ok more => simp [pushMany]

theorem atStep_push (t : Token) (c : Char) : (r.push t c).atStep = (c == '/') := by
  rw [atStep, push, List.isEmpty_cons, Bool.false_or]
  rfl

theorem atStep_pushMany (n : Nat) : (r.pushMany (n + 1)).atStep = false := rfl

theorem tokensOf_cons_of_text (hm : r.mode = .text) (c : Char) (s : List Char) :
    r.tokensOf (c :: s) = (r.readText c).tokensOf s :=
  tokensOf_cons_of_read (by rw [read, hm]) s

/-- Stars that are followed by another character stand for themselves. -/
theorem tokensOf_cons_of_star (hm : r.mode = .star) {c : Char} (hc : c ≠ '*') (s : List Char) :
    r.tokensOf (c :: s) = (r.pushMany 1).tokensOf (c :: s) := by
  have hread : r.read c = .ok ((r.pushMany 1).readText c) := by
    rw [read, hm]
    exact congrArg _ (if_neg hc)
  rw [tokensOf_cons_of_read hread]
  exact (tokensOf_cons_of_read rfl s).symm

theorem tokensOf_cons_of_stars (hm : r.mode = .stars) {c : Char}
    (hc : ¬(r.atStep = true ∧ c = '/')) (s : List Char) :
    r.tokensOf (c :: s) = (r.pushMany 2).tokensOf (c :: s) := by
  have hread : r.read c = .ok ((r.pushMany 2).readText c) := by
    rw [read, hm]
    exact congrArg _ (if_neg hc)
  rw [tokensOf_cons_of_read hread]
  exact (tokensOf_cons_of_read rfl s).symm

/-- The tokens that the rest of a glob is read to describe, behind those read before, what
    the rest is spelled to, and there are none if it has no spelling. -/
theorem accepts_tokensOf (h : r.WellFormed) (s : List Char) (path : List UInt8) :
    (accepts · path) <$> r.tokensOf s =
      (fun more => covers (r.tokens.reverse ++ more) path) <$> spell r.mode r.atStep s := by
  generalize hm : r.mode = m
  generalize hb : r.atStep = b
  fun_induction spell m b s generalizing r with
  | case1 b =>
    rw [tokensOf_nil, finish, hm]
    change Except.ok (accepts r.tokens.reverse path) = .ok (covers (r.tokens.reverse ++ []) path)
    rw [List.append_nil, h.accepts_tokens]
  | case2 b s ih =>
    rw [tokensOf_cons_of_text hm]
    exact (ih (h.push (by simp) (by decide)) rfl (atStep_push ..)).trans (map_covers_push ..)
  | case3 b s _ ih | case4 b s _ _ ih =>
    rw [tokensOf_cons_of_text hm]
    exact ih (h.withMode _) rfl hb
  | case5 b c s hany hset hstar ih =>
    rw [tokensOf_cons_of_text hm, readText, if_neg hany, if_neg hset, if_neg hstar,
      ih (h.push (by simp) (congrArg Token.char)) rfl (atStep_push ..), map_covers_push]
  | case6 b d =>
    rw [tokensOf_nil, finish, hm]
    rfl
  | case7 b d c s hclose ih =>
    have hread : r.read c = .ok (r.push d.token c) := by
      rw [read, hm]
      exact if_pos hclose
    have hstep : (r.push d.token c).atStep = false := by simp [atStep_push, hclose.1]
    rw [tokensOf_cons_of_read hread,
      ih (h.push (by simp [Draft.token]) (by simp [hclose.1])) rfl hstep, map_covers_push]
  | case8 b d c s hclose d' hd ih =>
    have hread : r.read c = .ok { r with mode := .set d' } := by
      rw [read, hm]
      dsimp only
      rw [if_neg hclose, hd]
      rfl
    rw [tokensOf_cons_of_read hread]
    exact ih (h.withMode _) rfl hb
  | case9 b d c s hclose e he =>
    have hread : r.read c = .error e := by
      rw [read, hm]
      dsimp only
      rw [if_neg hclose, he]
      rfl
    rw [tokensOf_cons, hread]
    rfl
  | case10 b =>
    rw [tokensOf_nil, finish, hm]
    exact congrArg Except.ok (h.accepts_pushMany 1 path)
  | case11 b s ih =>
    have hread : r.read '*' = .ok { r with mode := .stars } := by
      rw [read, hm]
      rfl
    rw [tokensOf_cons_of_read hread]
    exact ih (h.withMode _) rfl hb
  | case12 b c s hc ih =>
    rw [tokensOf_cons_of_star hm hc, ih (h.pushMany 1) rfl (atStep_pushMany 0), map_covers_pushMany]
    rfl
  | case13 b =>
    rw [tokensOf_nil, finish, hm, hb]
    cases b with
    | false => exact congrArg Except.ok (h.accepts_pushMany 2 path)
    | true => exact congrArg Except.ok (h.accepts_pushSteps hb path)
  | case14 b c s hc ih =>
    have hread : r.read c = .ok (r.pushSteps .between) := by
      rw [read, hm, hb]
      exact congrArg _ (if_pos hc)
    rw [tokensOf_cons_of_read hread,
      ih (h.pushSteps (hb.trans hc.1)) rfl (by rw [atStep]; simp [pushSteps])]
    simp only [Functor.map_map, h.covers_pushSteps (hb.trans hc.1)]
  | case15 b c s hc ih =>
    rw [tokensOf_cons_of_stars hm (hb ▸ hc), ih (h.pushMany 2) rfl (atStep_pushMany 1),
      map_covers_pushMany]
    rfl

end Reading

end Lintscope.Glob

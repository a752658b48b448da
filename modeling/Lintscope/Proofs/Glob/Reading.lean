import Lintscope.Glob.Pattern
import Lintscope.Proofs.Except
import Lintscope.Proofs.Glob.Shell

/-!
# Reading the glob of a shell pattern

The reader of globs makes one token of each part of a shell pattern
(`eq_of_parse_glob`), if the pattern has no two stars one behind the other, which fill
a step of the path, no set that starts with a caret, which negates it, and no
chained range, which is made longer instead of ended.
-/

namespace Lintscope.Glob

open Shell

/-! ## Members of sets -/

namespace Draft

variable {d d' : Draft}

theorem not_mark {c : Char} (hf : d.fresh = true → c ≠ '!' ∧ c ≠ '^') :
    ¬(d.fresh ∧ (c = '!' ∨ c = '^')) := by
  rintro ⟨hfresh, h | h⟩
  · exact (hf hfresh).1 h
  · exact (hf hfresh).2 h

/-- A character that is not in the place of a mark or of a hyphen is a member. -/
theorem read_member {c : Char} (hf : d.fresh = true → c ≠ '!' ∧ c ≠ '^') (hh : d.hyphen = false)
    (hc : c = '-' → d.empty = true) :
    d.read c = .ok { d with fresh := false, empty := false, ranges := (c, c) :: d.ranges } := by
  have hhyphen : ¬(c = '-' ∧ ¬d.empty ∧ ¬d.hyphen) := fun h => h.2.1 (hc h.1)
  rw [Draft.read, if_neg (not_mark hf)]
  dsimp only
  rw [if_neg hhyphen, hh]
  rfl

/-- A hyphen behind a member waits for the end of its range. -/
theorem read_hyphen (he : d.empty = false) (hh : d.hyphen = false) :
    d.read '-' = .ok { d with fresh := false, hyphen := true } := by
  obtain ⟨fresh, empty, negated, hyphen, ranges⟩ := d
  cases he
  cases hh
  simp [Draft.read]

/-- The end of a range, which may have had another end before. -/
theorem read_end {x z c : Char} {rs : List (Char × Char)} (hf : d.fresh = false)
    (he : d.empty = false) (hh : d.hyphen = true) (hr : d.ranges = (x, z) :: rs) :
    d.read c = if c < x then .error (.descendingRange x c)
      else .ok { d with hyphen := false, ranges := (x, c) :: rs } := by
  obtain ⟨fresh, empty, negated, hyphen, ranges⟩ := d
  cases hf
  cases he
  cases hh
  cases hr
  simp [Draft.read, Draft.extend]

theorem not_isChained_range {x y : Char} {s : List Char}
    (h : isChained (x :: '-' :: y :: s) = false) :
    (∀ z t, s ≠ '-' :: z :: t) ∧ isChained s = false := by
  match s, h with
  | [], _ => exact ⟨nofun, rfl⟩
  | [c], _ => exact ⟨nofun, by simp [isChained]⟩
  | c :: z :: t, h =>
    by_cases hc : c = '-'
    · subst hc
      simp [isChained] at h
    · refine ⟨fun z t heq => hc (List.cons.inj heq).1, ?_⟩
      rw [isChained] at h
      · exact h
      · simp [hc]

theorem not_isChained_tail {x : Char} {s : List Char} (hne : ∀ y t, s ≠ '-' :: y :: t)
    (h : isChained (x :: s) = false) : isChained s = false := by
  match s, h with
  | [], _ => rfl
  | [c], _ => simp [isChained]
  | c :: y :: t, h =>
    rw [isChained] at h
    · exact h
    · exact fun _ _ _ heq => hne _ _ heq
    · exact fun _ _ heq => hne _ _ heq

/-- What a draft becomes once some members are read: unless they continue a range of
    it, the set has their ranges too. -/
theorem token_of_foldlM {members : List Char}
    (hf : d.fresh = true → ∀ c ∈ members.head?, c ≠ '!' ∧ c ≠ '^') (hh : d.hyphen = false)
    (hs : d.empty = true ∨ ∀ y t, members ≠ '-' :: y :: t) (hc : isChained members = false)
    (h : members.foldlM Draft.read d = .ok d') :
    d'.token = .oneOf d.negated (d.ranges.reverse ++ memberRanges members) := by
  fun_induction memberRanges members generalizing d with
  | case1 x y s ih =>
    obtain ⟨hnext, hchained⟩ := not_isChained_range hc
    have hx : x = '-' → d.empty = true := fun hx =>
      hs.resolve_right fun hne => hne '-' (y :: s) (by rw [hx])
    obtain ⟨d₁, h₁, h⟩ := foldlM_cons_eq_ok_iff.1 h
    rw [read_member (fun hfresh => hf hfresh x rfl) hh hx] at h₁
    cases h₁
    obtain ⟨d₂, h₂, h⟩ := foldlM_cons_eq_ok_iff.1 h
    rw [read_hyphen (d := ⟨false, false, d.negated, d.hyphen, (x, x) :: d.ranges⟩) rfl hh] at h₂
    cases h₂
    obtain ⟨d₃, h₃, h⟩ := foldlM_cons_eq_ok_iff.1 h
    rw [read_end (d := ⟨false, false, d.negated, true, (x, x) :: d.ranges⟩) rfl rfl rfl rfl] at h₃
    split at h₃
    · cases h₃
    · cases h₃
      rw [ih (d := ⟨false, false, d.negated, false, (x, y) :: d.ranges⟩) nofun rfl (.inr hnext)
        hchained h]
      simp
  | case2 x s hne ih =>
    obtain ⟨d₁, h₁, h⟩ := foldlM_cons_eq_ok_iff.1 h
    by_cases hx : x = '-' → d.empty = true
    · rw [read_member (fun hfresh => hf hfresh x rfl) hh hx] at h₁
      cases h₁
      rw [ih (d := ⟨false, false, d.negated, d.hyphen, (x, x) :: d.ranges⟩) nofun hh (.inr hne)
        (not_isChained_tail hne hc) h]
      simp
    · -- A hyphen that is not first is the last of the members.
      obtain ⟨rfl, he⟩ := Classical.not_imp.1 hx
      have hnil : s = [] := by
        cases s with
        | nil => rfl
        | cons y t => exact absurd rfl (hs.resolve_left he y t)
      subst hnil
      rw [read_hyphen (Bool.eq_false_iff.2 he) hh] at h₁
      cases h₁
      cases h
      simp [Draft.token, memberRanges]
  | case3 =>
    cases h
    rw [Draft.token, hh]
    simp

/-- A draft with a member stays one that is neither fresh nor empty. -/
theorem read_keeps {c : Char} (hf : d.fresh = true → c ≠ '!' ∧ c ≠ '^')
    (h : d.read c = .ok d') : d'.fresh = false ∧ d'.empty = false := by
  rw [Draft.read, if_neg (not_mark hf)] at h
  dsimp only at h
  split at h
  · cases h
    exact ⟨rfl, rfl⟩
  · split at h
    · rw [extend] at h
      split at h
      · split at h
        · cases h
        · cases h
          exact ⟨rfl, rfl⟩
      · cases h
        exact ⟨rfl, rfl⟩
    · cases h
      exact ⟨rfl, rfl⟩

theorem empty_of_foldlM {c : Char} {t : List Char} (hf : d.fresh = true → c ≠ '!' ∧ c ≠ '^')
    (h : (c :: t).foldlM Draft.read d = .ok d') : d'.empty = false := by
  obtain ⟨d₁, h₁, h⟩ := foldlM_cons_eq_ok_iff.1 h
  have hstep : ∀ (d : Draft) c d', d.fresh = false ∧ d.empty = false → d.read c = .ok d' →
      d'.fresh = false ∧ d'.empty = false :=
    fun d c d' hd hread => read_keeps (fun hfresh => nomatch hd.1 ▸ hfresh) hread
  exact (foldlM_keeps hstep (read_keeps hf h₁) h).2

end Draft

/-! ## Sets -/

namespace Reading

variable {r r' : Reading}

/-- A character in a set is read by the draft of the set, unless it closes the set. -/
theorem read_set {d : Draft} {c : Char} (hc : c = ']' → d.empty = true) :
    read { r with mode := .set d } c = (fun d => { r with mode := .set d }) <$> d.read c := by
  rw [read]
  exact if_neg fun h => h.2 (hc h.1)

theorem foldlM_read_set {members : List Char} (hm : ']' ∉ members) (d : Draft) :
    members.foldlM read { r with mode := .set d } =
      (fun d => { r with mode := .set d }) <$> members.foldlM Draft.read d := by
  induction members generalizing d with
  | nil => rfl
  | cons c t ih =>
    rw [List.mem_cons, not_or] at hm
    rw [List.foldlM_cons, List.foldlM_cons, read_set fun hc => absurd hc.symm hm.1]
    cases d.read c with
    | error e => rfl
    | ok d₁ => exact ih hm.2 d₁

/-- A set is read by a draft up to the bracket behind its members. The first member
    may be a bracket, since the draft has no other then. -/
theorem foldlM_read_brackets {negated : Bool} {c : Char} {t : List Char} (ht : ']' ∉ t) :
    (lead negated ++ (c :: t) ++ [']']).foldlM read { r with mode := .set {} } =
      (c :: t).foldlM Draft.read { fresh := !negated, negated } >>=
        fun d => read { r with mode := .set d } ']' := by
  have hlead : (lead negated).foldlM read { r with mode := .set {} } =
      .ok { r with mode := .set { fresh := !negated, negated } } := by
    cases negated <;> rfl
  rw [List.append_assoc, List.foldlM_append, hlead]
  change ((c :: t) ++ [']']).foldlM read _ = _
  rw [List.foldlM_append, List.foldlM_cons, List.foldlM_cons, read_set fun _ => rfl]
  cases Draft.read { fresh := !negated, negated } c with
  | error e => rfl
  | ok d =>
    change (t.foldlM read { r with mode := .set d } >>= _) = _
    rw [foldlM_read_set ht d]
    change _ = (t.foldlM Draft.read d >>= _)
    cases t.foldlM Draft.read d with
    | error e => rfl
    | ok d' => exact bind_pure (read { r with mode := .set d' } ']')

/-- A draft with a member ends with the closing bracket. -/
theorem read_close {d : Draft} (h : d.empty = false) :
    read { r with mode := .set d } ']' = .ok (r.push d.token ']') := by
  rw [read]
  exact if_pos ⟨rfl, by simp [h]⟩

/-- A set is read to the token of its members. -/
theorem exists_of_foldlM_set {negated : Bool} {c : Char} {t : List Char} (ht : ']' ∉ t)
    (hmark : negated = false → c ≠ '!' ∧ c ≠ '^') (hc : isChained (c :: t) = false)
    (h : (lead negated ++ (c :: t) ++ [']']).foldlM read { r with mode := .set {} } = .ok r') :
    r' = r.push (.oneOf negated (memberRanges (c :: t))) ']' := by
  rw [foldlM_read_brackets ht, bind_eq_ok_iff] at h
  obtain ⟨d, hd, hclose⟩ := h
  have hfresh : (!negated) = true → c ≠ '!' ∧ c ≠ '^' := fun h => hmark (by simpa using h)
  have htoken : d.token = .oneOf negated (memberRanges (c :: t)) :=
    Draft.token_of_foldlM (by simpa using hfresh) rfl (.inl rfl) hc hd
  rw [read_close (Draft.empty_of_foldlM hfresh hd), htoken] at hclose
  exact (Except.ok.inj hclose).symm

/-! ## Parts -/

/-- What has been read of a pattern makes these tokens, and ends with a star or not. -/
inductive Reads (r : Reading) : Bool → List Token → Prop where
  | text (h : r.mode = .text) : Reads r false r.tokens.reverse
  | star (h : r.mode = .star) : Reads r true (r.tokens.reverse ++ [.many])

theorem Reads.finish {star : Bool} {ts : List Token} (h : r.Reads star ts) :
    r.finish = .ok ts := by
  cases h with
  | text h => rw [Reading.finish, h]
  | star h =>
    rw [Reading.finish, h]
    simp [pushMany]

/-- A star before a character that is none is read to its end. -/
theorem Reads.exists_read {star : Bool} {ts : List Token} (h : r.Reads star ts) :
    ∃ r₁ : Reading, r₁.tokens.reverse = ts ∧ ∀ c, c ≠ '*' → r.read c = .ok (r₁.readText c) := by
  cases h with
  | text h => exact ⟨r, rfl, fun c _ => by rw [read, h]⟩
  | star h =>
    refine ⟨r.pushMany 1, by simp [pushMany], fun c hc => ?_⟩
    rw [read, h]
    simp only [hc, ↓reduceIte]

theorem reads_push (r : Reading) (t : Token) (c : Char) :
    (r.push t c).Reads false (r.tokens.reverse ++ [t]) := by
  have h : (r.push t c).tokens.reverse = r.tokens.reverse ++ [t] := List.reverse_cons
  exact h ▸ .text rfl

end Reading

namespace Shell

/-- The token of a part. Braces and brackets are sets of one. -/
def Part.token : Part → Token
  | star => .many
  | any => .one
  | set negated members => .oneOf negated (memberRanges members)
  | char c => if c = '{' ∨ c = '}' ∨ c = '[' then .oneOf false [(c, c)] else .char c

/-- The reader of globs reads the part as it is meant: a set does not start with a
    caret and has no chained range. -/
def Part.Regular : Part → Prop
  | set negated members =>
    (negated = false → members.head? ≠ some '^') ∧ isChained members = false
  | star | any | char _ => True

instance : DecidablePred Part.Regular
  | .set _ _ => inferInstanceAs (Decidable (_ ∧ _))
  | .star | .any | .char _ => inferInstanceAs (Decidable True)

end Shell

namespace Reading

variable {r r' : Reading}

theorem Reads.of_foldlM_brackets {star : Bool} {ts : List Token} (h : r.Reads star ts)
    {negated : Bool} {c : Char} {t : List Char} (ht : ']' ∉ t)
    (hmark : negated = false → c ≠ '!' ∧ c ≠ '^') (hc : isChained (c :: t) = false)
    (hread : (Part.set negated (c :: t)).glob.foldlM read r = .ok r') :
    r'.Reads false (ts ++ [.oneOf negated (memberRanges (c :: t))]) := by
  obtain ⟨r₁, rfl, hr₁⟩ := h.exists_read
  obtain ⟨r₂, hopen, hset⟩ := foldlM_cons_eq_ok_iff.1 hread
  rw [hr₁ '[' (by decide)] at hopen
  cases hopen
  rw [exists_of_foldlM_set ht hmark hc hset]
  exact reads_push r₁ _ _

/-- A part is read to its token, whatever was read before it, but not a star behind
    another one. -/
theorem Reads.of_foldlM_glob {star : Bool} {ts : List Token} (h : r.Reads star ts) {p : Part}
    (hp : p.WellFormed) (hreg : p.Regular) (hstar : p = .star → star = false)
    (hread : p.glob.foldlM read r = .ok r') : r'.Reads (p = .star) (ts ++ [p.token]) := by
  cases p with
  | star =>
    cases hstar rfl
    cases h with
    | text h =>
      obtain ⟨r₁, h₁, hr₁⟩ := foldlM_cons_eq_ok_iff.1 hread
      cases hr₁
      rw [read, h] at h₁
      cases h₁
      exact .star rfl
  | any =>
    obtain ⟨r₁, rfl, hr₁⟩ := h.exists_read
    obtain ⟨r₂, h₂, hr₂⟩ := foldlM_cons_eq_ok_iff.1 hread
    cases hr₂
    rw [hr₁ '?' (by decide)] at h₂
    cases h₂
    exact reads_push r₁ .one '?'
  | set negated members =>
    obtain ⟨⟨c, t, rfl, ht⟩, hmark⟩ := hp
    refine h.of_foldlM_brackets ht (fun hn => ⟨?_, ?_⟩) hreg.2 hread
    · simpa using hmark hn
    · simpa using hreg.1 hn
  | char c =>
    rw [Part.glob] at hread
    rw [Part.token]
    by_cases hc : c = '{' ∨ c = '}' ∨ c = '['
    · -- Such a character is written as a set of one.
      rw [if_pos hc] at hread ⊢
      have hmark : c ≠ '!' ∧ c ≠ '^' := by
        rcases hc with rfl | rfl | rfl <;> decide
      have hset : (Part.set false [c]).glob.foldlM read r = .ok r' := hread
      exact h.of_foldlM_brackets List.not_mem_nil (fun _ => hmark) rfl hset
    · rw [if_neg hc] at hread ⊢
      obtain ⟨r₁, rfl, hr₁⟩ := h.exists_read
      obtain ⟨r₂, h₂, hr₂⟩ := foldlM_cons_eq_ok_iff.1 hread
      cases hr₂
      have hbracket : c ≠ '[' := fun h => hc (.inr (.inr h))
      rw [hr₁ c hp.1, readText, if_neg hp.2, if_neg hbracket, if_neg hp.1] at h₂
      cases h₂
      exact reads_push r₁ (.char c) c

end Reading

/-! ## Patterns -/

/-- A star begins the parts of a pattern only if one begins the pattern. -/
theorem head?_of_head?_parts {s : List Char} (h : (parts s).head? = some .star) :
    s.head? = some '*' := by
  revert h
  fun_cases parts s with
  | case2 s => exact fun _ => rfl
  | case1 | case3 | case4 | case5 | case6 => nofun

theorem pair_isPrefix_iff {α : Type} {a b c : α} {l : List α} :
    [a, b] <+: c :: l ↔ a = c ∧ l.head? = some b := by
  rw [List.cons_prefix_cons]
  cases l with
  | nil => simp
  | cons d l => simp [List.cons_prefix_cons, eq_comm]

/-- Two stars are parts one behind the other only if they stand so in the pattern. -/
theorem not_stars_parts {s : List Char} (h : ¬['*', '*'] <:+: s) :
    ¬[Part.star, Part.star] <:+: parts s := by
  -- Behind another part than a star, nothing new can come.
  have hother {p : Part} {ps : List Part} (hp : .star ≠ p) (ih : ¬[Part.star, .star] <:+: ps) :
      ¬[Part.star, Part.star] <:+: p :: ps := by
    rw [List.infix_cons_iff, pair_isPrefix_iff]
    exact fun h => h.elim (fun h => hp h.1) ih
  fun_induction parts s with
  | case1 => simp
  | case2 s ih =>
    rw [List.infix_cons_iff, pair_isPrefix_iff, not_or] at h ⊢
    exact ⟨fun hs => h.1 ⟨rfl, head?_of_head?_parts hs.2⟩, ih h.2⟩
  | case3 s _ ih => exact hother (by simp) (ih fun hs => h (List.infix_cons hs))
  | case4 s negated members rest hcut _ _ ih =>
    have hrest : rest <:+: s := by
      rw [(append_of_cutSet? hcut).1]
      exact ((List.suffix_cons _ rest).trans (List.suffix_append _ _)).isInfix
    exact hother (by simp) (ih fun hs => h (List.infix_cons (hs.trans hrest)))
  | case5 s _ _ _ ih => exact hother (by simp) (ih fun hs => h (List.infix_cons hs))
  | case6 c s _ _ _ ih => exact hother (by simp) (ih fun hs => h (List.infix_cons hs))

/-- The parts of a pattern are read one after the other. -/
theorem Reading.tokens_of_foldlM_glob {ps : List Part} (hp : ∀ p ∈ ps, p.WellFormed ∧ p.Regular)
    (hstars : ¬[Part.star, Part.star] <:+: ps) {r : Reading} {star : Bool} {ts out : List Token}
    (h : r.Reads star ts) (hhead : star = true → ps.head? ≠ some .star)
    (hread : (ps.flatMap Part.glob).foldlM Reading.read r >>= finish = .ok out) :
    out = ts ++ ps.map Part.token := by
  induction ps generalizing r star ts with
  | nil =>
    change r.finish = _ at hread
    rw [h.finish] at hread
    rw [← Except.ok.inj hread]
    exact (List.append_nil ts).symm
  | cons p ps ih =>
    rw [List.forall_mem_cons] at hp
    rw [List.infix_cons_iff, not_or] at hstars
    rw [List.flatMap_cons, List.foldlM_append, bind_assoc, bind_eq_ok_iff] at hread
    obtain ⟨r₁, hr₁, hread⟩ := hread
    have h₁ := h.of_foldlM_glob hp.1.1 hp.1.2 (fun hs => ?_) hr₁
    · rw [ih hp.2 hstars.2 h₁ (fun hs hhead => ?_) hread, List.map_cons, List.append_assoc,
        List.singleton_append]
      exact hstars.1 (pair_isPrefix_iff.2 ⟨(of_decide_eq_true hs).symm, hhead⟩)
    · cases star with
      | false => rfl
      | true => exact absurd (congrArg some hs) (hhead rfl)

/-- The tokens of a glob that is written for a shell pattern are those of its parts. -/
theorem eq_of_parse_glob {s : List Char} {ts : List Token} (hstars : ¬['*', '*'] <:+: s)
    (hreg : ∀ p ∈ parts s, p.Regular) (h : parse (Shell.glob s) = .ok ts) :
    ts = (parts s).map Part.token := by
  rw [parse, glob_eq] at h
  exact Reading.tokens_of_foldlM_glob (fun p hp => ⟨wellFormed_of_mem_parts s p hp, hreg p hp⟩)
    (not_stars_parts hstars) (.text rfl) nofun h

end Lintscope.Glob

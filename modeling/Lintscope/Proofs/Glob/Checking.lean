import Lintscope.Proofs.Glob.Reading

/-!
# What the reader of globs checks

Of the glob of a shell pattern only the ranges in its sets are checked: the
reader fails at the first range whose last character is below its first, and
reads every other glob to its end (`checks_parse`).

There is one exception. A caret at the start of a set is a mark for the reader,
but not where shell patterns are cut into parts. So a set with a caret and
nothing else has no member yet when its closing bracket is read, and is never
closed if no other bracket follows (`exists_parse_eq_error`).
-/

namespace Lintscope.Glob

open Shell

/-! ## Ranges -/

/-- The ranges that begin with `x`, or behind it, where `x` is a member that has
    just been read. A hyphen behind the end of a range continues the range. -/
def rangesFrom (x : Char) : List Char → List (Char × Char)
  | '-' :: y :: s => (x, y) :: rangesFrom x s
  | c :: s => rangesFrom c s
  | [] => []

/-- The ranges of some members. -/
def rangesOf : List Char → List (Char × Char)
  | [] => []
  | c :: s => rangesFrom c s

/-- A range whose last character is below its first. -/
def Descends (r : Char × Char) : Prop := r.2 < r.1

instance : DecidablePred Descends := fun r => inferInstanceAs (Decidable (r.2 < r.1))

theorem exists_find?_descends_iff {rs : List (Char × Char)} :
    (∃ r, rs.find? (Descends ·) = some r) ↔ ∃ r ∈ rs, r.2 < r.1 := by
  rw [← Option.isSome_iff_exists, List.find?_isSome]
  exact exists_congr fun r => and_congr_right fun _ => decide_eq_true_iff

/-- Work goes well if and only if no range descends, and then comes to something
    with a property; else it fails at the first range that descends. -/
def Checks {α : Type} (rs : List (Char × Char)) (a : Except Error α) (P : α → Prop) : Prop :=
  match rs.find? (Descends ·) with
  | some r => a = .error (.descendingRange r.1 r.2)
  | none => ∃ v, a = .ok v ∧ P v

namespace Checks

variable {α β : Type} {rs rs' : List (Char × Char)} {a : Except Error α} {P : α → Prop}
  {Q : β → Prop}

theorem ok {v : α} (h : P v) : Checks [] (.ok v) P := ⟨v, rfl, h⟩

theorem range {x y : Char} {v : α} :
    Checks [(x, y)] (if y < x then .error (.descendingRange x y) else .ok v) (· = v) := by
  rw [Checks]
  by_cases h : y < x
  · simp [Descends, h]
  · simp [Descends, h]

theorem bind {f : α → Except Error β} (h : Checks rs a P) (hf : ∀ v, P v → Checks rs' (f v) Q) :
    Checks (rs ++ rs') (a >>= f) Q := by
  rw [Checks] at h ⊢
  rw [List.find?_append]
  cases hrs : rs.find? (Descends ·) with
  | some r =>
    rw [hrs] at h
    rw [h]
    rfl
  | none =>
    rw [hrs] at h
    obtain ⟨v, rfl, hv⟩ := h
    exact hf v hv

theorem imp {P' : α → Prop} (h : Checks rs a P) (himp : ∀ v, P v → P' v) : Checks rs a P' := by
  rw [Checks] at h ⊢
  split at h
  · exact h
  · obtain ⟨v, hv, hP⟩ := h
    exact ⟨v, hv, himp v hP⟩

theorem of_eq_ok {v : α} (h : Checks rs a P) (ha : a = .ok v) : P v := by
  rw [Checks, ha] at h
  split at h
  · cases h
  · obtain ⟨w, hw, hP⟩ := h
    exact Except.ok.inj hw ▸ hP

theorem eq_error_iff (h : Checks rs a P) {e : Error} : a = .error e ↔
    ∃ r, rs.find? (Descends ·) = some r ∧ e = .descendingRange r.1 r.2 := by
  rw [Checks] at h
  cases hrs : rs.find? (Descends ·) with
  | some r =>
    rw [hrs] at h
    simp [h, eq_comm]
  | none =>
    rw [hrs] at h
    obtain ⟨v, rfl, -⟩ := h
    simp

end Checks

/-! ## Sets -/

namespace Draft

/-- Behind a member each hyphen with another character behind it is a range. -/
theorem checks_rangesFrom {d : Draft} {x z : Char} {rs : List (Char × Char)}
    (hf : d.fresh = false) (he : d.empty = false) (hh : d.hyphen = false)
    (hr : d.ranges = (x, z) :: rs) (s : List Char) :
    Checks (rangesFrom x s) (s.foldlM Draft.read d) (·.empty = false) := by
  fun_induction rangesFrom x s generalizing d z rs with
  | case1 x y s ih =>
    have hend := read_end (d := { d with fresh := false, hyphen := true }) (c := y) rfl he rfl hr
    rw [List.foldlM_cons, read_hyphen he hh]
    change Checks _ ((y :: s).foldlM Draft.read { d with fresh := false, hyphen := true }) _
    rw [List.foldlM_cons, hend]
    refine Checks.range.bind ?_
    rintro _ rfl
    exact ih rfl he rfl rfl
  | case2 x c s hne ih =>
    rw [List.foldlM_cons]
    by_cases hc : c = '-'
    · -- A hyphen that ends the members is one of them.
      have hnil : s = [] := by
        cases s with
        | nil => rfl
        | cons y s => exact (hne y s hc rfl).elim
      rw [hc, hnil, read_hyphen he hh]
      exact .ok he
    · have hfresh : d.fresh = true → c ≠ '!' ∧ c ≠ '^' := fun h => nomatch hf.symm.trans h
      rw [read_member hfresh hh fun h => absurd h hc]
      exact ih rfl rfl hh rfl
  | case3 x => exact .ok he

/-- The members of a set that has no mark, or whose mark has been read. -/
theorem checks_rangesOf {d : Draft} {c : Char} (hf : d.fresh = true → c ≠ '!' ∧ c ≠ '^')
    (he : d.empty = true) (hh : d.hyphen = false) (t : List Char) :
    Checks (rangesOf (c :: t)) ((c :: t).foldlM Draft.read d) (·.empty = false) := by
  rw [List.foldlM_cons, read_member hf hh fun _ => he]
  exact checks_rangesFrom (d := { d with fresh := false, empty := false, ranges := _ })
    rfl rfl hh rfl t

end Draft

namespace Shell

/-- The ranges in a part, as the reader of globs takes them: it takes a caret at
    the start of a set for a mark. -/
def Part.ranges : Part → List (Char × Char)
  | set false ('^' :: members) => rangesOf members
  | set _ members => rangesOf members
  | star | any | char _ => []

/-- A set with a caret and nothing else. -/
def Part.loneCaret : Part := .set false ['^']

end Shell

namespace Reading

/-- The reading stands outside sets. -/
def Outside (r : Reading) : Prop := ∀ d, r.mode ≠ .set d

variable {r : Reading}

theorem outside_of_text (h : r.mode = .text) : r.Outside := by
  rw [Outside, h]
  nofun

/-- A character that begins no set is read to its end, if it is no star. -/
theorem mode_readText {c : Char} (hbracket : c ≠ '[') (hstar : c ≠ '*') (r : Reading) :
    (r.readText c).mode = .text := by
  rw [readText, if_neg hbracket, if_neg hstar]
  split <;> rfl

theorem outside_readText {c : Char} (hbracket : c ≠ '[') (r : Reading) :
    (r.readText c).Outside := by
  by_cases hstar : c = '*'
  · rw [hstar]
    nofun
  · exact outside_of_text (mode_readText hbracket hstar r)

/-- Outside sets only a bracket leads into one, and nothing goes wrong. -/
theorem checks_read (ho : r.Outside) {c : Char} (hbracket : c ≠ '[') :
    Checks [] (r.read c) fun r' => r'.Outside ∧ (c ≠ '*' → r'.mode = .text) := by
  have htext (r : Reading) : (r.readText c).Outside ∧ (c ≠ '*' → (r.readText c).mode = .text) :=
    ⟨outside_readText hbracket r, fun hstar => mode_readText hbracket hstar r⟩
  rw [read]
  cases hm : r.mode with
  | text => exact .ok (htext r)
  | set d => exact absurd hm (ho d)
  | star =>
    refine .ok ?_
    split
    · next hstar =>
      refine ⟨?_, fun hne => absurd hstar hne⟩
      rintro d ⟨⟩
    · exact htext _
  | stars =>
    refine .ok ?_
    split
    · exact ⟨outside_of_text rfl, fun _ => rfl⟩
    · exact htext _

theorem exists_read_bracket (ho : r.Outside) :
    ∃ r₁ : Reading, r.read '[' = .ok { r₁ with mode := .set {} } := by
  rw [read]
  cases hm : r.mode with
  | text => exact ⟨r, rfl⟩
  | set d => exact absurd hm (ho d)
  | star => exact ⟨r.pushMany 1, rfl⟩
  | stars => exact ⟨r.pushMany 2, by simp [readText]⟩

theorem checks_singleton (ho : r.Outside) {c : Char} (hbracket : c ≠ '[') :
    Checks [] ([c].foldlM read r) fun r' => r'.Outside ∧ (c ≠ '*' → r'.mode = .text) := by
  rw [List.foldlM_cons]
  exact (checks_read ho hbracket).bind fun r' hr' => .ok hr'

theorem checks_brackets (ho : r.Outside) {negated : Bool} {c : Char} {t : List Char}
    {rs : List (Char × Char)} (ht : ']' ∉ t)
    (hmembers : Checks rs ((c :: t).foldlM Draft.read { fresh := !negated, negated })
      (·.empty = false)) :
    Checks rs ((Shell.Part.set negated (c :: t)).glob.foldlM read r) (·.mode = .text) := by
  obtain ⟨r₁, hopen⟩ := exists_read_bracket ho
  rw [Shell.Part.glob, List.foldlM_cons, hopen]
  change Checks rs ((lead negated ++ (c :: t) ++ [']']).foldlM read { r₁ with mode := .set {} }) _
  rw [foldlM_read_brackets ht, ← List.append_nil rs]
  refine hmembers.bind fun d hd => ?_
  rw [read_close hd]
  exact .ok rfl

/-- Every part is read to its end, unless one of its ranges descends, and only behind
    a star the reader waits for more of it. -/
theorem checks_glob {p : Shell.Part} (ho : r.Outside) (hp : p.WellFormed)
    (hcaret : p ≠ Shell.Part.loneCaret) :
    Checks p.ranges (p.glob.foldlM read r) fun r' =>
      r'.Outside ∧ (p ≠ .star → r'.mode = .text) := by
  have htext (r : Reading) (h : r.mode = .text) : r.Outside ∧ (p ≠ .star → r.mode = .text) :=
    ⟨outside_of_text h, fun _ => h⟩
  cases p with
  | star =>
    refine (checks_singleton ho (by decide)).imp fun r' h => ⟨h.1, fun hne => ?_⟩
    exact absurd rfl hne
  | any => exact (checks_singleton ho (by decide)).imp fun r' h => htext r' (h.2 (by decide))
  | char c =>
    rw [Shell.Part.glob]
    split
    · next hc =>
      -- Such a character is written as a set of one.
      have hmark : c ≠ '!' ∧ c ≠ '^' := by
        rcases hc with rfl | rfl | rfl <;> decide
      change Checks [] ((Shell.Part.set false [c]).glob.foldlM read r) _
      exact (checks_brackets ho List.not_mem_nil
        (Draft.checks_rangesOf (fun _ => hmark) rfl rfl [])).imp htext
    · next hc =>
      have hbracket : c ≠ '[' := fun h => hc (.inr (.inr h))
      exact (checks_singleton ho hbracket).imp fun r' h => htext r' (h.2 hp.1)
  | set negated members =>
    obtain ⟨⟨c, t, rfl, ht⟩, hmark⟩ := hp
    refine (checks_brackets ho ht ?_).imp htext
    by_cases hc : negated = false ∧ c = '^'
    · -- The caret is a mark, so the first member is behind it.
      obtain ⟨rfl, rfl⟩ := hc
      cases t with
      | nil => exact absurd rfl hcaret
      | cons c t =>
        change Checks _ ((c :: t).foldlM Draft.read { fresh := false, negated := true }) _
        exact Draft.checks_rangesOf (fun h => absurd h Bool.false_ne_true) rfl rfl t
    · have hranges : (Shell.Part.set negated (c :: t)).ranges = rangesOf (c :: t) := by
        rw [Shell.Part.ranges]
        rintro _ rfl heq
        exact hc ⟨rfl, (List.cons.inj heq).1⟩
      rw [hranges]
      refine Draft.checks_rangesOf (fun hfresh => ?_) rfl rfl t
      have hnegated : negated = false := by simpa using hfresh
      exact ⟨by simpa using hmark hnegated, fun h => hc ⟨hnegated, h⟩⟩

theorem checks_flatMap_glob {ps : List Shell.Part} (ho : r.Outside)
    (hps : ∀ p ∈ ps, p.WellFormed) (hcaret : Shell.Part.loneCaret ∉ ps) :
    Checks (ps.flatMap Shell.Part.ranges) ((ps.flatMap Shell.Part.glob).foldlM read r)
      Outside := by
  induction ps generalizing r with
  | nil => exact .ok ho
  | cons p ps ih =>
    rw [List.forall_mem_cons] at hps
    rw [List.mem_cons, not_or] at hcaret
    rw [List.flatMap_cons, List.flatMap_cons, List.foldlM_append]
    exact (checks_glob ho hps.1 (Ne.symm hcaret.1)).bind fun r' hr' => ih hr'.1 hps.2 hcaret.2

theorem checks_finish (ho : r.Outside) : Checks [] r.finish fun _ => True := by
  rw [finish]
  cases hm : r.mode with
  | set d => exact absurd hm (ho d)
  | text | star | stars => exact .ok trivial

end Reading

theorem checks_parse {s : List Char} (hcaret : Shell.Part.loneCaret ∉ parts s) :
    Checks ((parts s).flatMap Shell.Part.ranges) (parse (Shell.glob s)) fun _ => True := by
  have houtside : ({} : Reading).Outside := nofun
  have hread := Reading.checks_flatMap_glob houtside (wellFormed_of_mem_parts s) hcaret
  rw [parse, glob_eq, ← List.append_nil ((parts s).flatMap Shell.Part.ranges)]
  exact hread.bind fun r hr => Reading.checks_finish hr

theorem Reading.exists_draft_of_loneCaret {r : Reading} (ho : r.Outside) :
    ∃ (r₁ : Reading) (d : Draft),
      Shell.Part.loneCaret.glob.foldlM read r = .ok { r₁ with mode := .set d } := by
  obtain ⟨r₁, hopen⟩ := exists_read_bracket ho
  have hglob : Shell.Part.loneCaret.glob = ['[', '^', ']'] := rfl
  rw [hglob, List.foldlM_cons, hopen]
  exact ⟨r₁, _, rfl⟩

/-- What is read in a set without a closing bracket does not end it. -/
theorem Reading.exists_set_of_foldlM {r r' : Reading} {d : Draft} {s : List Char} (hs : ']' ∉ s)
    (h : s.foldlM read { r with mode := .set d } = .ok r') : ∃ d', r'.mode = .set d' := by
  rw [foldlM_read_set hs, map_eq_ok_iff] at h
  obtain ⟨d', -, rfl⟩ := h
  exact ⟨d', rfl⟩

/-- A set with a lone caret is not closed unless another bracket follows. -/
theorem exists_parse_eq_error {s : List Char} {before after : List Shell.Part}
    (hs : parts s = before ++ Shell.Part.loneCaret :: after)
    (hbefore : Shell.Part.loneCaret ∉ before)
    (hafter : ∀ p ∈ after, ']' ∉ p.glob) : ∃ e, parse (Shell.glob s) = .error e := by
  have hwell : ∀ p ∈ before, p.WellFormed := fun p hp =>
    wellFormed_of_mem_parts s p (hs ▸ List.mem_append_left _ hp)
  have houtside : ({} : Reading).Outside := nofun
  have hread := Reading.checks_flatMap_glob houtside hwell hbefore
  cases hparse : parse (Shell.glob s) with
  | error e => exact ⟨e, rfl⟩
  | ok ts =>
    rw [parse, glob_eq, hs, List.flatMap_append, List.flatMap_cons, List.foldlM_append,
      bind_assoc] at hparse
    obtain ⟨r, hr, hparse⟩ := bind_eq_ok_iff.1 hparse
    obtain ⟨r₁, d, hcaret⟩ := Reading.exists_draft_of_loneCaret (hread.of_eq_ok hr)
    rw [List.foldlM_append, hcaret] at hparse
    obtain ⟨r₂, hr₂, hfinish⟩ := bind_eq_ok_iff.1 hparse
    have hopen : ']' ∉ after.flatMap Shell.Part.glob := by simpa using hafter
    obtain ⟨d', hd'⟩ := Reading.exists_set_of_foldlM hopen hr₂
    rw [Reading.finish, hd'] at hfinish
    cases hfinish

end Lintscope.Glob

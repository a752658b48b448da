import Lintscope.Glob.Shell
import Mathlib.Data.List.Forall2
import Mathlib.Data.List.TakeWhile

/-!
# What shell patterns describe

The reading of shell patterns as it is documented for them, apart from that of
globs: a pattern is cut into its parts (`parts`), each of which stands for some
texts, and the pattern describes what its parts stand for, one behind the other
(`Matches`).

The glob of a shell pattern is written part by part (`glob_eq`), so a set in
brackets is closed in both readings by the same bracket.
-/

namespace Lintscope.Glob.Shell

/-! ## Parts -/

/-- A part of a shell pattern. -/
inductive Part where
  /-- A star. -/
  | star
  /-- A question mark. -/
  | any
  /-- A set in brackets, with the characters of its members. -/
  | set (negated : Bool) (members : List Char)
  /-- Any other character. -/
  | char (c : Char)
  deriving DecidableEq

/-- The members of a set, of which the first may be a closing bracket, and what
    follows the bracket that closes it. -/
def cutMembers? : List Char → Option (List Char × List Char)
  | [] => none
  | c :: s =>
    match s.dropWhile (· != ']') with
    | [] => none
    | _ :: rest => some (c :: s.takeWhile (· != ']'), rest)

/-- Whether a set is negated, its members and what follows it, where `s` is what
    follows its opening bracket. -/
def cutSet? (s : List Char) : Option (Bool × List Char × List Char) :=
  match s with
  | '!' :: s => (cutMembers? s).map (true, ·)
  | s => (cutMembers? s).map (false, ·)

theorem cutMembers?_eq_some_iff {s members rest : List Char} :
    cutMembers? s = some (members, rest) ↔
      ∃ c t, members = c :: t ∧ ']' ∉ t ∧ s = members ++ ']' :: rest := by
  constructor
  · intro h
    cases s with
    | nil => cases h
    | cons c s =>
      rw [cutMembers?] at h
      split at h
      · cases h
      · next d rest' hdrop =>
        have hd : d = ']' := by
          have hhead := List.head?_dropWhile_not (· != ']') s
          rw [hdrop] at hhead
          simpa using hhead
        cases h
        refine ⟨c, _, rfl, fun hmem => ?_, ?_⟩
        · simpa using List.mem_takeWhile_imp hmem
        · rw [List.cons_append, ← hd, ← hdrop, hd, List.takeWhile_append_dropWhile]
  · rintro ⟨c, t, rfl, ht, rfl⟩
    have hpos : ∀ a ∈ t, (a != ']') = true :=
      fun a ha => bne_iff_ne.2 (ne_of_mem_of_not_mem ha ht)
    rw [List.cons_append, cutMembers?, List.dropWhile_append_of_pos hpos,
      List.takeWhile_append_of_pos hpos]
    simp

/-- What is written before the members of a set that is negated. -/
def lead (negated : Bool) : List Char := if negated then ['!'] else []

theorem append_of_cutSet? {s members rest : List Char} {negated : Bool}
    (h : cutSet? s = some (negated, members, rest)) :
    s = lead negated ++ members ++ ']' :: rest ∧
      (∃ c t, members = c :: t ∧ ']' ∉ t) ∧ (negated = false → members.head? ≠ some '!') := by
  unfold cutSet? at h
  split at h
  · next s =>
    obtain ⟨⟨ms, rest'⟩, hcut, heq⟩ := Option.map_eq_some_iff.1 h
    cases heq
    obtain ⟨c, t, hms, ht, hs⟩ := cutMembers?_eq_some_iff.1 hcut
    refine ⟨?_, ⟨c, t, hms, ht⟩, nofun⟩
    rw [hs]
    rfl
  · next hne =>
    obtain ⟨⟨ms, rest'⟩, hcut, heq⟩ := Option.map_eq_some_iff.1 h
    cases heq
    obtain ⟨c, t, hms, ht, hs⟩ := cutMembers?_eq_some_iff.1 hcut
    refine ⟨hs, ⟨c, t, hms, ht⟩, fun _ hc => ?_⟩
    rw [hms, List.head?_cons, Option.some.injEq] at hc
    rw [hms, hc] at hs
    exact hne _ hs

theorem length_lt_of_cutSet? {s members rest : List Char} {negated : Bool}
    (h : cutSet? s = some (negated, members, rest)) : rest.length < s.length := by
  rw [(append_of_cutSet? h).1, List.length_append, List.length_cons]
  omega

/-- The parts of a shell pattern. A bracket that is never closed is a character as
    any other. -/
def parts : List Char → List Part
  | [] => []
  | c :: s =>
    if c = '*' then .star :: parts s
    else if c = '?' then .any :: parts s
    else if c = '[' then
      match _h : cutSet? s with
      | some (negated, members, rest) => .set negated members :: parts rest
      | none => .char c :: parts s
    else .char c :: parts s
termination_by s => s.length
decreasing_by
  all_goals simp only [List.length_cons]
  all_goals first
    | exact Nat.lt_succ_self _
    | exact Nat.lt_succ_of_lt (length_lt_of_cutSet? _h)

/-- What the parts of shell patterns are like: a set has a member, no bracket among
    its members closes it but the first, and without a mark before them they do not
    start with one; another character is not special. -/
def Part.WellFormed : Part → Prop
  | star | any => True
  | set negated members =>
    (∃ c t, members = c :: t ∧ ']' ∉ t) ∧ (negated = false → members.head? ≠ some '!')
  | char c => c ≠ '*' ∧ c ≠ '?'

theorem wellFormed_of_mem_parts (s : List Char) : ∀ p ∈ parts s, p.WellFormed := by
  fun_induction parts s with
  | case1 => exact List.forall_mem_nil _
  | case2 s ih => exact List.forall_mem_cons.2 ⟨trivial, ih⟩
  | case3 s _ ih => exact List.forall_mem_cons.2 ⟨trivial, ih⟩
  | case4 s negated members rest h _ _ ih =>
    exact List.forall_mem_cons.2 ⟨(append_of_cutSet? h).2, ih⟩
  | case5 s h _ _ ih => exact List.forall_mem_cons.2 ⟨⟨by decide, by decide⟩, ih⟩
  | case6 c s hstar hany _ ih => exact List.forall_mem_cons.2 ⟨⟨hstar, hany⟩, ih⟩

/-! ## Texts -/

/-- The ranges of the members of a set. A hyphen between two members is a range from
    the one to the other, and every other member is a range of its own. -/
def memberRanges : List Char → List (Char × Char)
  | x :: '-' :: y :: s => (x, y) :: memberRanges s
  | x :: s => (x, x) :: memberRanges s
  | [] => []

/-- Whether a range is continued by another hyphen and a further member. -/
def isChained : List Char → Bool
  | _ :: '-' :: _ :: '-' :: _ :: _ => true
  | _ :: '-' :: _ :: s => isChained s
  | _ :: s => isChained s
  | [] => false

/-- What a part stands for. -/
def Part.StandsFor : Part → List Char → Prop
  | star, _ => True
  | any, t => ∃ c, t = [c]
  | set negated members, t =>
    ∃ c, t = [c] ∧ ((∃ r ∈ memberRanges members, r.1 ≤ c ∧ c ≤ r.2) ↔ negated = false)
  | char c, t => t = [c]

/-- Whether parts describe the whole of a text: it is made of texts that the parts
    stand for. -/
def Matches (ps : List Part) (text : List Char) : Prop :=
  ∃ texts, List.Forall₂ Part.StandsFor ps texts ∧ texts.flatten = text

theorem matches_nil_iff {text : List Char} : Matches [] text ↔ text = [] := by
  constructor
  · rintro ⟨texts, h, rfl⟩
    cases h
    rfl
  · rintro rfl
    exact ⟨[], .nil, rfl⟩

theorem matches_cons_iff {p : Part} {ps : List Part} {text : List Char} :
    Matches (p :: ps) text ↔ ∃ t rest, text = t ++ rest ∧ p.StandsFor t ∧ Matches ps rest := by
  constructor
  · rintro ⟨texts, h, rfl⟩
    cases h with
    | cons hp hps => exact ⟨_, _, List.flatten_cons, hp, _, hps, rfl⟩
  · rintro ⟨t, rest, rfl, hp, texts, hps, rfl⟩
    exact ⟨t :: texts, .cons hp hps, List.flatten_cons⟩

theorem standsFor_iff_of_ne_star {p : Part} (hp : p ≠ .star) {t : List Char} :
    p.StandsFor t ↔ ∃ c, t = [c] ∧ p.StandsFor [c] := by
  cases p with
  | star => exact absurd rfl hp
  | any => simp [Part.StandsFor]
  | set negated members => simp [Part.StandsFor]
  | char c => simp [Part.StandsFor]

/-- Another part than a star takes the first character of the text. -/
theorem matches_cons_iff_of_ne_star {p : Part} (hp : p ≠ .star) {ps : List Part}
    {text : List Char} :
    Matches (p :: ps) text ↔ ∃ c rest, text = c :: rest ∧ p.StandsFor [c] ∧ Matches ps rest := by
  rw [matches_cons_iff]
  constructor
  · rintro ⟨t, rest, rfl, ht, hrest⟩
    obtain ⟨c, rfl, hc⟩ := (standsFor_iff_of_ne_star hp).1 ht
    exact ⟨c, rest, rfl, hc, hrest⟩
  · rintro ⟨c, rest, rfl, hc, hrest⟩
    exact ⟨[c], rest, rfl, hc, hrest⟩

/-! ## Globs part by part -/

/-- The glob of a part. -/
def Part.glob : Part → List Char
  | star => ['*']
  | any => ['?']
  | set negated members => '[' :: (lead negated ++ members ++ [']'])
  | char c => if c = '{' ∨ c = '}' ∨ c = '[' then ['[', c, ']'] else [c]

theorem globFrom_eq (copy : Nat) (s : List Char) :
    globFrom copy s = s.take copy ++ Shell.glob (s.drop copy) := by
  induction s generalizing copy with
  | nil => simp [globFrom, Shell.glob]
  | cons c s ih =>
    cases copy with
    | zero => rfl
    | succ copy => simp [globFrom, ih]

/-- What stands at the start of a set is left out whether or not it is a bracket. -/
theorem dropWhile_dropBracket (c : Char) (s : List Char) :
    (match c :: s with
      | ']' :: s => s
      | s => s).dropWhile (· != ']') = s.dropWhile (· != ']') := by
  split
  · next heq =>
    cases heq
    rfl
  · next hne =>
    have hc : c ≠ ']' := fun hc => hne s (by rw [hc])
    exact List.dropWhile_cons_of_pos (p := (· != ']')) (bne_iff_ne.2 hc)

/-- A set is closed by the bracket that ends its members. -/
theorem afterMembers?_eq (s : List Char) :
    afterMembers? s = (cutSet? s).map fun (_, _, rest) => rest := by
  unfold afterMembers? cutSet?
  extract_lets body members
  have hbody : (match members.dropWhile (· != ']') with
      | [] => none
      | _ :: rest => some rest) = (cutMembers? body).map Prod.snd := by
    cases hb : body with
    | nil => simp [members, hb, cutMembers?]
    | cons c t =>
      have hdrop : members.dropWhile (· != ']') = t.dropWhile (· != ']') := by
        simp only [members, hb]
        exact dropWhile_dropBracket c t
      rw [hdrop, cutMembers?]
      split <;> simp [*]
  refine hbody.trans ?_
  unfold body
  split <;> simp [Option.map_map, Function.comp_def]

theorem glob_cons_bracket (s : List Char) :
    Shell.glob ('[' :: s) = match cutSet? s with
      | some (negated, members, rest) => (Part.set negated members).glob ++ Shell.glob rest
      | none => (Part.char '[').glob ++ Shell.glob s := by
  rw [Shell.glob, globFrom, if_neg (Nat.lt_irrefl 0), if_neg (by decide), if_pos rfl,
    afterMembers?_eq]
  cases h : cutSet? s with
  | none => rfl
  | some set =>
    obtain ⟨negated, members, rest⟩ := set
    -- The characters that are copied are those up to the closing bracket.
    have hs : s = (lead negated ++ members ++ [']']) ++ rest := by
      simpa using (append_of_cutSet? h).1
    have hlength : s.length - rest.length = (lead negated ++ members ++ [']']).length := by
      rw [hs, List.length_append, Nat.add_sub_cancel_right]
    simp only [Option.map_some]
    rw [hlength, globFrom_eq, hs, List.take_left, List.drop_left]
    rfl

/-- The glob of a shell pattern is that of its parts. -/
theorem glob_eq (s : List Char) : Shell.glob s = (parts s).flatMap Part.glob := by
  fun_induction parts s with
  | case1 => rfl
  | case2 s ih => exact congrArg ('*' :: ·) ih
  | case3 s _ ih => exact congrArg ('?' :: ·) ih
  | case4 s negated members rest h _ _ ih => rw [glob_cons_bracket, h, List.flatMap_cons, ← ih]
  | case5 s h _ _ ih => rw [glob_cons_bracket, h, List.flatMap_cons, ← ih]
  | case6 c s _ _ hbracket ih =>
    rw [List.flatMap_cons, ← ih, Part.glob]
    by_cases hc : c = '{' ∨ c = '}'
    · have hglob : Shell.glob (c :: s) = '[' :: c :: ']' :: Shell.glob s := by
        rw [Shell.glob, globFrom, if_neg (Nat.lt_irrefl 0), if_pos hc, Shell.glob]
      rw [hglob, if_pos (or_assoc.1 (.inl hc))]
      rfl
    · have hglob : Shell.glob (c :: s) = c :: Shell.glob s := by
        rw [Shell.glob, globFrom, if_neg (Nat.lt_irrefl 0), if_neg hc, if_neg hbracket, Shell.glob]
      rw [hglob, if_neg fun h => (or_assoc.2 h).elim hc hbracket]
      rfl

end Lintscope.Glob.Shell

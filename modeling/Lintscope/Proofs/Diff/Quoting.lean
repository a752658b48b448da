import Lintscope.Proofs.Diff.Header
import Lintscope.Proofs.Path

/-!
# Names in quotes

Version control writes the name of a file as it is, unless a character of it is
not plain: then the name stands in quotes, and that character is escaped. In a
diff the directory that stands for a side comes first, inside the quotes; in the
list of files there is no such directory.

The readers of a diff take the quotes off, whereas the names of the list are
only brought into canonical form. So both read the same path exactly if the name
is *faithful*: it needs no quotes, and does not end with a blank, which the
readers of a diff would trim.

* `filePath?_header_eq_listed_iff`: the line that begins a file;
* `sidePath?_side_eq_listed_iff`: a line that names a side.
-/

namespace Lintscope.Diff

open Text Patch

namespace Quoting

/-! ## Writing names -/

/-- A name of a file: some characters, of which the first two are no step. -/
structure Name where
  /-- Its characters. -/
  chars : List Char
  ne_nil : chars ≠ [] := by decide
  no_step : ∀ s, chars ≠ '.' :: '/' :: s := by simp

/-- The three octal digits of a number. -/
def octal (n : Nat) : List Char := [n / 64 % 8, n / 8 % 8, n % 8].map Nat.digitChar

/-- What stands behind a backslash for a character that has a letter. -/
def letter? : Char → Option Char
  | '"' => some '"'
  | '\\' => some '\\'
  | '\x07' => some 'a'
  | '\x08' => some 'b'
  | '\t' => some 't'
  | '\n' => some 'n'
  | '\x0b' => some 'v'
  | '\x0c' => some 'f'
  | '\r' => some 'r'
  | _ => none

/-- What is written for a character inside quotes. -/
def escape (c : Char) : List Char :=
  if isPlain c then [c]
  else '\\' :: match letter? c with
    | some d => [d]
    | none => octal c.toNat

/-- A name below a directory as it is written. -/
def quoted (lead s : List Char) : List Char :=
  if s.all isPlain then lead ++ s else '"' :: (lead ++ s.flatMap escape ++ ['"'])

/-- The two names of the line that begins a file. -/
def header (old new : Name) : List Char :=
  quoted "a/".toList old.chars ++ ' ' :: quoted "b/".toList new.chars

/-- The name of a line that names a side; a name with a space has a tab behind it. -/
def side (lead : List Char) (n : Name) : List Char :=
  quoted lead n.chars ++ if ' ' ∈ n.chars then ['\t'] else []

/-- The path that the list of files gives for a name. -/
def listed (n : Name) : String := Path.canonical (.ofList (quoted [] n.chars))

/-- The name is written as it is, and does not end with a blank. -/
def Name.Faithful (n : Name) : Prop :=
  n.chars.all isPlain = true ∧ n.chars.getLast?.any isBlank = false

instance (n : Name) : Decidable n.Faithful := inferInstanceAs (Decidable (_ ∧ _))

/-! ## Characters of written names -/

theorem le_toNat_of_isPlain {c : Char} (h : isPlain c = true) : 0x20 ≤ c.toNat := by
  simp only [isPlain, Bool.and_eq_true, decide_eq_true_eq] at h
  exact h.1.1.1

theorem lt_toNat_of_letter? {c d : Char} (h : letter? c = some d) : 0x20 < d.toNat := by
  unfold letter? at h
  split at h <;> cases h <;> decide

theorem lt_toNat_of_mem_octal {n : Nat} {c : Char} (h : c ∈ octal n) : 0x20 < c.toNat := by
  have hdigit : ∀ k < 8, 0x20 < (Nat.digitChar k).toNat := by decide
  obtain ⟨k, hk, rfl⟩ := List.mem_map.1 h
  refine hdigit k ?_
  simp only [List.mem_cons, List.not_mem_nil, or_false] at hk
  omega

/-- There is no blank in what stands for a character that is not plain. -/
theorem lt_toNat_of_mem_escape {c d : Char} (hc : ¬isPlain c = true) (h : d ∈ escape c) :
    0x20 < d.toNat := by
  rw [escape, if_neg hc, List.mem_cons] at h
  rcases h with rfl | h
  · decide
  · split at h
    · next e he =>
      rw [List.mem_singleton.1 h]
      exact lt_toNat_of_letter? he
    · exact lt_toNat_of_mem_octal h

theorem le_toNat_of_mem_escape {c d : Char} (h : d ∈ escape c) : 0x20 ≤ d.toNat := by
  by_cases hc : isPlain c = true
  · rw [escape, if_pos hc, List.mem_singleton] at h
    rw [h]
    exact le_toNat_of_isPlain hc
  · exact Nat.le_of_lt (lt_toNat_of_mem_escape hc h)

theorem blank_mem_escape_iff {c : Char} : ' ' ∈ escape c ↔ ' ' = c := by
  by_cases hc : isPlain c = true
  · rw [escape, if_pos hc, List.mem_singleton]
  · refine iff_of_false (fun h => absurd (lt_toNat_of_mem_escape hc h) (by decide)) ?_
    rintro rfl
    exact hc (by decide)

/-- There are no control characters in a name as it is written. -/
theorem le_toNat_of_mem_quoted {lead s : List Char} (hl : ∀ c ∈ lead, 0x20 ≤ c.toNat) {c : Char}
    (h : c ∈ quoted lead s) : 0x20 ≤ c.toNat := by
  rw [quoted] at h
  split at h
  · next hs =>
    rcases List.mem_append.1 h with h | h
    · exact hl c h
    · exact le_toNat_of_isPlain (List.all_eq_true.1 hs c h)
  · rw [List.mem_cons, List.mem_append, List.mem_append, List.mem_singleton, List.mem_flatMap] at h
    rcases h with rfl | (h | ⟨d, -, h⟩) | rfl
    · decide
    · exact hl c h
    · exact le_toNat_of_mem_escape h
    · decide

theorem not_mem_quoted {lead s : List Char} (hl : ∀ c ∈ lead, 0x20 ≤ c.toNat) {c : Char}
    (hc : c.toNat < 0x20) : c ∉ quoted lead s :=
  fun h => absurd (le_toNat_of_mem_quoted hl h) (by omega)

/-- A text without the characters that end lines. -/
def IsLine (l : List Char) : Prop := '\n' ∉ l ∧ '\r' ∉ l

theorem isLine_append {l s : List Char} (hl : IsLine l) (hs : IsLine s) : IsLine (l ++ s) := by
  simp only [IsLine, List.mem_append, not_or]
  exact ⟨⟨hl.1, hs.1⟩, hl.2, hs.2⟩

theorem isLine_quoted {lead : List Char} (hl : ∀ c ∈ lead, 0x20 ≤ c.toNat) (s : List Char) :
    IsLine (quoted lead s) :=
  ⟨not_mem_quoted hl (by decide), not_mem_quoted hl (by decide)⟩

theorem isLine_header (m n : Name) : IsLine (header m n) := by
  refine isLine_append (isLine_quoted (by simp) m.chars) ?_
  exact isLine_append (l := [' ']) ⟨by decide, by decide⟩ (isLine_quoted (by simp) n.chars)

theorem isLine_side {lead : List Char} (hl : ∀ c ∈ lead, 0x20 ≤ c.toNat) (n : Name) :
    IsLine (side lead n) := by
  refine isLine_append (isLine_quoted hl n.chars) ?_
  split
  · exact ⟨by decide, by decide⟩
  · exact ⟨nofun, nofun⟩

theorem quoted_of_plain {lead s : List Char} (h : s.all isPlain = true) :
    quoted lead s = lead ++ s :=
  if_pos h

theorem quoted_of_not_plain {lead s : List Char} (h : ¬s.all isPlain = true) :
    quoted lead s = '"' :: (lead ++ s.flatMap escape ++ ['"']) :=
  if_neg h

/-- The blanks of a name as it is written are those of the name. -/
theorem blank_mem_quoted_iff {lead s : List Char} (hl : ' ' ∉ lead) :
    ' ' ∈ quoted lead s ↔ ' ' ∈ s := by
  by_cases hs : s.all isPlain = true
  · rw [quoted_of_plain hs, List.mem_append]
    exact or_iff_right hl
  · simp [quoted_of_not_plain hs, blank_mem_escape_iff, hl]

/-! ## Listed paths -/

theorem canonicalChars_quoted (n : Name) :
    (Path.canonicalChars (quoted [] n.chars)).length = (quoted [] n.chars).length := by
  by_cases hn : n.chars.all isPlain = true
  · rw [quoted_of_plain hn, List.nil_append,
      canonicalChars_of_isPlain (List.all_eq_true.1 hn) n.no_step]
  · -- A name in quotes does not start with a step, so nothing is dropped.
    rw [quoted_of_not_plain hn, Path.canonicalChars, List.map_cons, Path.dropDotSteps]
    · rw [List.length_cons, List.length_cons, List.length_map]
    · intro s h
      cases (List.cons.inj h).1

theorem listed_of_plain {n : Name} (h : n.chars.all isPlain = true) :
    listed n = .ofList n.chars := by
  rw [listed, quoted_of_plain h, List.nil_append, Path.canonical, String.toList_ofList,
    canonicalChars_of_isPlain (List.all_eq_true.1 h) n.no_step]

theorem canonicalPath_quoted (n : Name) : canonicalPath (quoted [] n.chars) = listed n := by
  rw [listed, Path.canonical, String.toList_ofList, canonicalPath]

theorem listed_ne_empty (n : Name) : listed n ≠ "" := by
  intro h
  rw [listed, Path.canonical, String.ofList_eq_empty_iff, String.toList_ofList] at h
  have hlength := canonicalChars_quoted n
  rw [h, List.length_nil, eq_comm, List.length_eq_zero_iff] at hlength
  by_cases hn : n.chars.all isPlain = true
  · rw [quoted_of_plain hn] at hlength
    exact n.ne_nil hlength
  · rw [quoted_of_not_plain hn] at hlength
    cases hlength

/-- A text that is shorter than the name is written does not read as the listed
    path. -/
theorem canonicalPath_ne_listed {s : List Char} {n : Name}
    (h : s.length < (quoted [] n.chars).length) : canonicalPath s ≠ listed n := by
  intro heq
  rw [canonicalPath, listed, Path.canonical, String.ofList_inj, String.toList_ofList] at heq
  have hle := Path.length_canonicalChars_le s
  rw [heq, canonicalChars_quoted] at hle
  omega

/-! ## Unquoting -/

theorem length_unescapeQuotes_le (s : List Char) : (unescapeQuotes s).length ≤ s.length := by
  fun_induction unescapeQuotes s with
  | case1 => exact Nat.le_refl 0
  | case2 s ih => exact Nat.le_succ_of_le (Nat.succ_le_succ ih)
  | case3 c s _ ih => exact Nat.succ_le_succ ih

theorem length_unescapeBackslashes_le (s : List Char) :
    (unescapeBackslashes s).length ≤ s.length := by
  fun_induction unescapeBackslashes s with
  | case1 => exact Nat.le_refl 0
  | case2 s ih => exact Nat.le_succ_of_le (Nat.succ_le_succ ih)
  | case3 c s _ ih => exact Nat.succ_le_succ ih

/-- Between quotes, a side stays and the rest grows no longer. -/
theorem exists_unquote_quotes {d : Char} (hd : d ≠ '\\') (s : List Char) :
    ∃ t, unquote ('"' :: ([d, '/'] ++ s ++ ['"'])) = [d, '/'] ++ t ∧ t.length ≤ s.length := by
  refine ⟨unescapeBackslashes (unescapeQuotes s), ?_, ?_⟩
  · have hinner : (dropLead? ['"'] ('"' :: ([d, '/'] ++ s ++ ['"']))).bind (dropTail? ['"']) =
        some ([d, '/'] ++ s) := by
      rw [dropLead?_singleton, Option.bind_some]
      exact dropTail?_eq_some_iff.2 rfl
    rw [unquote, hinner]
    simp [unescapeQuotes, unescapeBackslashes, hd]
  · exact Nat.le_trans (length_unescapeBackslashes_le _) (length_unescapeQuotes_le s)

/-! ## Lines that begin a file -/

/-- Blanks at the end of the line do not matter. -/
theorem filePath?_trimEnd (s : List Char) : filePath? (trimEnd s) = filePath? s := by
  rw [filePath?, filePath?, trimEnd_trimEnd]

/-- A name in quotes is found, but what is read is too short for the listed path. -/
theorem exists_filePath?_of_not_plain {n : Name} (hn : ¬n.chars.all isPlain = true)
    (s : List Char) :
    ∃ t, filePath? (s ++ ' ' :: quoted "b/".toList n.chars) = some (canonicalPath t) ∧
      t.length < (quoted [] n.chars).length := by
  have hsplit : s ++ ' ' :: quoted "b/".toList n.chars =
      s ++ " \"b/".toList ++ (n.chars.flatMap escape ++ ['"']) := by
    simp [quoted_of_not_plain hn]
  have hlast : (s ++ " \"b/".toList ++ (n.chars.flatMap escape ++ ['"'])).getLast? = some '"' := by
    rw [← List.append_assoc, List.getLast?_concat]
  have htrim : trimEnd (s ++ " \"b/".toList ++ (n.chars.flatMap escape ++ ['"'])) =
      s ++ " \"b/".toList ++ (n.chars.flatMap escape ++ ['"']) := by
    rw [← List.append_assoc, trimEnd_concat (by decide)]
  obtain ⟨before, after, hcut⟩ := exists_cutLast? " \"b/".toList s (n.chars.flatMap escape ++ ['"'])
  -- What stands behind the last mark is not empty, since a mark does not end with a quote.
  have hafter := append_of_cutLast? hcut
  obtain ⟨t, rfl⟩ : ∃ t, after = t ++ ['"'] := by
    rw [hafter] at hlast
    rcases List.eq_nil_or_concat after with rfl | ⟨t, c, rfl⟩
    · simp [List.getLast?_append] at hlast
    · rw [List.concat_eq_append, ← List.append_assoc, List.getLast?_concat] at hlast
      exact ⟨t, by rw [List.concat_eq_append, Option.some.inj hlast]⟩
  obtain ⟨u, hu, hle⟩ := exists_unquote_quotes (d := 'b') (by decide) t
  refine ⟨u, ?_, ?_⟩
  · rw [hsplit, filePath?]
    simp only [htrim, endsWith_singleton.2 hlast, ↓reduceIte, hcut]
    have hquoted : "\"b/".toList ++ (t ++ ['"']) = '"' :: (['b', '/'] ++ t ++ ['"']) := by simp
    rw [hquoted, hu]
    rfl
  · have hlength := length_le_of_cutLast? hcut
    rw [List.length_append, List.length_append, List.length_singleton] at hlength
    rw [quoted_of_not_plain hn, List.nil_append, List.length_cons, List.length_append]
    omega

/-- Without quotes, the path of the line is the half of it if both halves agree,
    and else what follows the last mark. -/
theorem filePath?_of_plain {m n : Name} (hn : n.chars.all isPlain = true) :
    filePath? (header m n) =
      (samePath? (quoted "a/".toList m.chars ++ " b/".toList ++ trimEnd n.chars) <|>
        (cutLast? " b/".toList
          (quoted "a/".toList m.chars ++ " b/".toList ++ trimEnd n.chars)).map Prod.snd).map
            canonicalPath := by
  have htrim : trimEnd (header m n) =
      quoted "a/".toList m.chars ++ " b/".toList ++ trimEnd n.chars := by
    have hsplit : header m n = quoted "a/".toList m.chars ++ " b/".toList ++ n.chars := by
      simp [header, quoted_of_plain hn]
    rw [hsplit, trimEnd_append]
    intro c hc
    rw [List.getLast?_append] at hc
    cases hc
    decide
  have hquote : (quoted "a/".toList m.chars ++ " b/".toList ++ trimEnd n.chars).getLast? ≠
      some '"' := by
    rw [List.getLast?_append]
    intro h
    -- The last character is one of the name, or the slash before it if all of it was blank.
    rcases hlast : (trimEnd n.chars).getLast? with _ | c
    · rw [hlast, List.getLast?_append] at h
      cases h
    · rw [hlast, Option.some_or] at h
      cases h
      have hmem := (isPrefix_trimEnd n.chars).subset (List.mem_of_getLast? hlast)
      exact not_mem_of_isPlain (List.all_eq_true.1 hn) (by decide) hmem
  rw [← filePath?_trimEnd, htrim]
  exact filePath?_of_not_quoted (htrim ▸ trimEnd_trimEnd (header m n)) hquote

/-- Some path is read from the line, whatever the two names are. -/
theorem exists_filePath?_header (m n : Name) : ∃ path, filePath? (header m n) = some path := by
  by_cases hn : n.chars.all isPlain = true
  · rw [filePath?_of_plain hn]
    obtain ⟨before, after, hcut⟩ :=
      exists_cutLast? " b/".toList (quoted "a/".toList m.chars) (trimEnd n.chars)
    rw [hcut]
    cases samePath? (quoted "a/".toList m.chars ++ " b/".toList ++ trimEnd n.chars) with
    | none => exact ⟨_, rfl⟩
    | some path => exact ⟨_, rfl⟩
  · obtain ⟨t, ht, -⟩ := exists_filePath?_of_not_plain hn (quoted "a/".toList m.chars)
    exact ⟨_, ht⟩

theorem eq_of_samePath? {s path : List Char} (h : samePath? s = some path) :
    s = "a/".toList ++ path ++ " b/".toList ++ path := by
  obtain ⟨t, ht, h⟩ := Option.bind_eq_some_iff.1 h
  rw [dropLead?_eq_some_iff] at ht
  dsimp only at h
  split at h
  · next heq =>
    cases h
    rw [ht]
    conv_lhs => rw [heq]
    simp only [List.append_assoc]
  · cases h

/-- If the end of the name is trimmed, what is read is shorter than the name. -/
theorem length_lt_of_blank {n : Name} (hn : n.chars.all isPlain = true)
    (hb : n.chars.getLast?.any isBlank = true) {path : List Char}
    (h : (samePath? (quoted "a/".toList n.chars ++ " b/".toList ++ trimEnd n.chars) <|>
      (cutLast? " b/".toList
        (quoted "a/".toList n.chars ++ " b/".toList ++ trimEnd n.chars)).map Prod.snd) = some path) :
    path.length < n.chars.length := by
  have htrim := length_trimEnd_lt hb
  cases hsame : samePath? (quoted "a/".toList n.chars ++ " b/".toList ++ trimEnd n.chars) with
  | some p =>
    rw [hsame] at h
    cases h
    -- The halves agree, and together they are shorter than twice the name.
    have hlength := congrArg List.length (eq_of_samePath? hsame)
    rw [quoted_of_plain hn] at hlength
    simp only [List.length_append] at hlength
    omega
  | none =>
    rw [hsame] at h
    obtain ⟨⟨before, after⟩, hcut, rfl⟩ := Option.map_eq_some_iff.1 h
    exact Nat.lt_of_le_of_lt (length_le_of_cutLast? hcut) htrim

/-- A faithful name is a path that is written as it is. -/
def Name.Faithful.plainPath {n : Name} (h : n.Faithful) : PlainPath where
  chars := n.chars
  ne_nil := n.ne_nil
  plain := h.1
  no_step := n.no_step
  no_blank := h.2

theorem Name.not_faithful_iff {n : Name} :
    ¬n.Faithful ↔ ¬n.chars.all isPlain = true ∨
      n.chars.all isPlain = true ∧ n.chars.getLast?.any isBlank = true := by
  rw [Faithful]
  by_cases hn : n.chars.all isPlain = true <;> simp [hn]

/-- The path of a file that stays where it is, as it is read from the line that
    begins the file, is the listed path exactly if the name is faithful. -/
theorem filePath?_header_eq_listed_iff (n : Name) :
    filePath? (header n n) = some (listed n) ↔ n.Faithful := by
  constructor
  · intro h
    by_contra hf
    rcases Name.not_faithful_iff.1 hf with hn | ⟨hn, hb⟩
    · obtain ⟨t, ht, hlt⟩ := exists_filePath?_of_not_plain hn (quoted "a/".toList n.chars)
      rw [header, ht] at h
      exact canonicalPath_ne_listed hlt (Option.some.inj h)
    · rw [filePath?_of_plain hn] at h
      obtain ⟨path, hpath, heq⟩ := Option.map_eq_some_iff.1 h
      have hlt := length_lt_of_blank hn hb hpath
      refine canonicalPath_ne_listed ?_ heq
      rwa [quoted_of_plain hn]
  · intro h
    have hheader : header n n = "a/".toList ++ h.plainPath.chars ++ " b/".toList ++
        h.plainPath.chars := by
      simp [header, quoted_of_plain h.1, Name.Faithful.plainPath]
    rw [hheader, filePath?_same, listed_of_plain h.1]
    rfl

/-! ## Lines that name a side -/

theorem eq_of_sidePath? {lead s : List Char} {path : String} (h : sidePath? lead s = some path) :
    path = canonicalPath (dropLead lead (unquote (trimEnd (s.takeWhile (· != '\t'))))) := by
  unfold sidePath? at h
  extract_lets t p at h
  split at h
  · cases h
  · split at h
    · cases h
    · exact (Option.some.inj h).symm

/-- The path of a side, as it is read from the line that names it, is the listed
    path exactly if the name is faithful. -/
theorem sidePath?_side_eq_listed_iff {d : Char} (hd : isPlain d = true) (hs : d ≠ '/') (n : Name) :
    sidePath? [d, '/'] (side [d, '/'] n) = some (listed n) ↔ n.Faithful := by
  have htab : '\t' ∉ quoted [d, '/'] n.chars := by
    exact not_mem_quoted (List.forall_mem_cons.2 ⟨le_toNat_of_isPlain hd, by simp⟩) (by decide)
  have hback : d ≠ '\\' := ne_of_isPlain hd (by decide)
  constructor
  · intro h
    by_contra hf
    have heq := eq_of_sidePath? h
    rw [side, takeWhile_append_stamp htab (isStamp_tab n.chars)] at heq
    rcases Name.not_faithful_iff.1 hf with hn | ⟨hn, hb⟩
    · obtain ⟨t, ht, hle⟩ := exists_unquote_quotes hback (n.chars.flatMap escape)
      rw [quoted_of_not_plain hn, ← List.cons_append, trimEnd_concat (by decide),
        List.cons_append, ht, dropLead_append] at heq
      refine canonicalPath_ne_listed ?_ heq.symm
      rw [quoted_of_not_plain hn, List.nil_append, List.length_cons, List.length_append]
      omega
    · have hlast : ∀ c ∈ [d, '/'].getLast?, isBlank c = false := by
        rw [List.getLast?_cons_cons, List.getLast?_singleton]
        intro c hc
        cases hc
        decide
      have hplain : ∀ c ∈ [d, '/'] ++ trimEnd n.chars, isPlain c = true := by
        simp only [List.cons_append, List.nil_append, List.forall_mem_cons]
        refine ⟨hd, by decide, fun c hc => ?_⟩
        exact List.all_eq_true.1 hn c ((isPrefix_trimEnd n.chars).subset hc)
      rw [quoted_of_plain hn, trimEnd_append hlast, unquote_of_isPlain hplain,
        dropLead_append] at heq
      refine canonicalPath_ne_listed ?_ heq.symm
      rw [quoted_of_plain hn]
      exact length_trimEnd_lt hb
  · intro h
    have hside : side [d, '/'] n = [d, '/'] ++ h.plainPath.chars ++
        (if ' ' ∈ n.chars then ['\t'] else []) := by
      simp [side, quoted_of_plain h.1, Name.Faithful.plainPath]
    rw [hside, sidePath?_plainPath hd hs h.plainPath (isStamp_tab n.chars), listed_of_plain h.1]
    rfl

end Quoting

end Lintscope.Diff

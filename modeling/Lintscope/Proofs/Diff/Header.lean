import Lintscope.Proofs.Diff.Patch
import Lintscope.Proofs.Text.Cut
import Lintscope.Proofs.Text.Numeral

/-!
# Reading the headers of a patch

Each header that a patch is written with reads back as what it was written
from:

* `filePath?_same`: the path of the line that begins a file, if both sides have
  it. For a file that was moved, some path is read (`exists_filePath?`), and
  the lines about the move correct it;
* `sidePath?_plainPath`: the path of a line that names a side;
* `hunkRange?_writeSpan`: the stretches of the line that begins a hunk.
-/

namespace Lintscope.Diff

open Text Patch

/-! ## Plain paths -/

theorem ne_of_isPlain {c d : Char} (hc : isPlain c = true) (hd : isPlain d = false) : c ≠ d :=
  fun h => by simp [← h, hc] at hd

theorem not_mem_of_isPlain {s : List Char} (hs : ∀ c ∈ s, isPlain c = true) {d : Char}
    (hd : isPlain d = false) : d ∉ s :=
  fun h => ne_of_isPlain (hs d h) hd rfl

theorem canonicalChars_of_isPlain {s : List Char} (hs : ∀ c ∈ s, isPlain c = true)
    (hstep : ∀ t, s ≠ '.' :: '/' :: t) : Path.canonicalChars s = s := by
  have hslash : s.map Path.slash = s := by
    refine (List.map_congr_left fun c hc => ?_).trans (List.map_id' s)
    exact if_neg (ne_of_isPlain (hs c hc) (by decide))
  rw [Path.canonicalChars, hslash, Path.dropDotSteps]
  exact hstep

theorem unescapeQuotes_of_not_mem {s : List Char} (h : '\\' ∉ s) : unescapeQuotes s = s := by
  induction s with
  | nil => rfl
  | cons c s ih =>
    rw [List.mem_cons, not_or] at h
    simp [unescapeQuotes, Ne.symm h.1, ih h.2]

theorem unescapeBackslashes_of_not_mem {s : List Char} (h : '\\' ∉ s) :
    unescapeBackslashes s = s := by
  induction s with
  | nil => rfl
  | cons c s ih =>
    rw [List.mem_cons, not_or] at h
    simp [unescapeBackslashes, Ne.symm h.1, ih h.2]

theorem unquote_of_isPlain {s : List Char} (h : ∀ c ∈ s, isPlain c = true) : unquote s = s := by
  have hq : dropLead? ['"'] s = none := by
    cases s with
    | nil => rfl
    | cons c s =>
      have hc := (ne_of_isPlain (h c List.mem_cons_self) (d := '"') (by decide)).symm
      simp [dropLead?, hc]
  have hb : '\\' ∉ s := not_mem_of_isPlain h (by decide)
  simp [unquote, hq, unescapeQuotes_of_not_mem hb, unescapeBackslashes_of_not_mem hb]

namespace Patch.PlainPath

variable (p : PlainPath)

theorem isPlain_of_mem : ∀ c ∈ p.chars, isPlain c = true := List.all_eq_true.1 p.plain

theorem isBlank_of_mem_getLast? : ∀ c ∈ p.chars.getLast?, isBlank c = false := by
  intro c hc
  have h := p.no_blank
  rw [Option.mem_def.1 hc] at h
  exact h

theorem canonicalChars_chars : Path.canonicalChars p.chars = p.chars :=
  canonicalChars_of_isPlain p.isPlain_of_mem p.no_step

theorem canonicalPath_chars : canonicalPath p.chars = .ofList p.chars := by
  rw [canonicalPath, p.canonicalChars_chars]

theorem getLast?_append_chars (s : List Char) : (s ++ p.chars).getLast? = p.chars.getLast? := by
  rw [List.getLast?_append, List.getLast?_eq_some_getLast p.ne_nil, Option.some_or]

theorem trimEnd_append_chars (s : List Char) : trimEnd (s ++ p.chars) = s ++ p.chars :=
  trimEnd_of_getLast? fun c hc =>
    p.isBlank_of_mem_getLast? c (p.getLast?_append_chars s ▸ hc)

theorem not_mem_chars {c : Char} (hc : isPlain c = false) : c ∉ p.chars :=
  not_mem_of_isPlain p.isPlain_of_mem hc

/-- A text that ends with the path does not end with a character that is not plain. -/
theorem getLast?_append_chars_ne (s : List Char) {c : Char} (hc : isPlain c = false) :
    (s ++ p.chars).getLast? ≠ some c := by
  rw [p.getLast?_append_chars]
  exact fun h => p.not_mem_chars hc (List.mem_of_getLast? h)

end Patch.PlainPath

/-! ## Paths of headers -/

theorem samePath?_same (p : List Char) :
    samePath? ("a/".toList ++ p ++ " b/".toList ++ p) = some p := by
  have htake : (p ++ " b/".toList ++ p).take (((p ++ " b/".toList ++ p).length - 3) / 2) = p := by
    have hlen : ((p ++ " b/".toList ++ p).length - 3) / 2 = p.length := by
      simp only [List.length_append]
      change (p.length + 3 + p.length - 3) / 2 = p.length
      omega
    rw [hlen, List.append_assoc, List.take_left]
  have hassoc : "a/".toList ++ p ++ " b/".toList ++ p =
      "a/".toList ++ (p ++ " b/".toList ++ p) := by
    simp only [List.append_assoc]
  rw [hassoc, samePath?, dropLead?_append, Option.bind_some]
  simp only [htake, ↓reduceIte]

/-- The path of a line that begins a file, if it does not end with a quote. -/
theorem filePath?_of_not_quoted {s : List Char} (hs : trimEnd s = s)
    (hq : s.getLast? ≠ some '"') :
    filePath? s =
      (samePath? s <|> (cutLast? " b/".toList s).map Prod.snd).map canonicalPath := by
  have he : endsWith ['"'] s = false := by
    rw [Bool.eq_false_iff]
    exact fun h => hq (endsWith_singleton.1 h)
  rw [filePath?]
  simp only [hs, he, Bool.false_eq_true, ↓reduceIte]
  cases samePath? s with
  | some path => rfl
  | none => cases cutLast? " b/".toList s <;> rfl

theorem filePath?_same (p : PlainPath) :
    filePath? ("a/".toList ++ p.chars ++ " b/".toList ++ p.chars) = some (.ofList p.chars) := by
  rw [filePath?_of_not_quoted (p.trimEnd_append_chars _)
    (p.getLast?_append_chars_ne _ (by decide)), samePath?_same, ← p.canonicalPath_chars]
  rfl

theorem exists_filePath? (s : List Char) (p : PlainPath) :
    ∃ path, filePath? (s ++ " b/".toList ++ p.chars) = some path := by
  rw [filePath?_of_not_quoted (p.trimEnd_append_chars _)
    (p.getLast?_append_chars_ne _ (by decide))]
  cases samePath? (s ++ " b/".toList ++ p.chars) with
  | some path => exact ⟨_, rfl⟩
  | none =>
    obtain ⟨before, after, h⟩ := exists_cutLast? " b/".toList s p.chars
    exact ⟨canonicalPath after, by rw [h]; rfl⟩

/-- Nothing behind the name of a side, or a tab and whatever follows it. -/
def IsStamp (t : List Char) : Prop := t = [] ∨ ∃ u, t = '\t' :: u

/-- What stands behind the name of a side in a patch is a stamp. -/
theorem isStamp_tab (side : List Char) : IsStamp (if ' ' ∈ side then ['\t'] else []) := by
  split
  · exact .inr ⟨[], rfl⟩
  · exact .inl rfl

theorem takeWhile_append_stamp {s t : List Char} (hs : '\t' ∉ s) (ht : IsStamp t) :
    (s ++ t).takeWhile (· != '\t') = s := by
  rw [List.takeWhile_append_of_pos fun c hc => bne_iff_ne.2 (ne_of_mem_of_not_mem hc hs)]
  obtain rfl | ⟨u, rfl⟩ := ht <;> simp

/-- The path of a line that names a side by a path, with some text before it. -/
theorem sidePath?_append_stamp (side : List Char) {lead : List Char}
    (hlead : ∀ c ∈ lead, isPlain c = true) (p : PlainPath) {t : List Char} (ht : IsStamp t) :
    sidePath? side (lead ++ p.chars ++ t) =
      if lead ++ p.chars = nowhere ∨ dropLead side (lead ++ p.chars) = [] then none
      else some (canonicalPath (dropLead side (lead ++ p.chars))) := by
  have hplain : ∀ c ∈ lead ++ p.chars, isPlain c = true :=
    List.forall_mem_append.2 ⟨hlead, p.isPlain_of_mem⟩
  rw [sidePath?, takeWhile_append_stamp (not_mem_of_isPlain hplain (by decide)) ht]
  simp only [p.trimEnd_append_chars, unquote_of_isPlain hplain, ite_or]

theorem sidePath?_plainPath {d : Char} (hd : isPlain d = true) (hs : d ≠ '/') (p : PlainPath)
    {t : List Char} (ht : IsStamp t) :
    sidePath? [d, '/'] ([d, '/'] ++ p.chars ++ t) = some (.ofList p.chars) := by
  have hlead : ∀ c ∈ [d, '/'], isPlain c = true :=
    List.forall_mem_cons.2 ⟨hd, List.forall_mem_singleton.2 (by decide)⟩
  have hne : [d, '/'] ++ p.chars ≠ nowhere := fun h => hs (List.cons.inj h).1
  rw [sidePath?_append_stamp _ hlead p ht, dropLead_append, if_neg (not_or.2 ⟨hne, p.ne_nil⟩),
    p.canonicalPath_chars]

/-! ## Ranges of hunks -/

theorem mem_writeSpan {terse : Bool} {s : Span} {c : Char} (h : c ∈ writeSpan terse s) :
    c.isDigit = true ∨ c = ',' := by
  rw [writeSpan, List.mem_append] at h
  rcases h with h | h
  · exact .inl (isDigit_of_mem_numeral h)
  · split at h
    · simp at h
    · rcases List.mem_cons.1 h with h | h
      · exact .inr h
      · exact .inl (isDigit_of_mem_numeral h)

theorem not_mem_writeSpan {c : Char} (hd : c.isDigit = false) (hc : c ≠ ',') (terse : Bool)
    (s : Span) : c ∉ writeSpan terse s := by
  intro h
  rcases mem_writeSpan h with h | h
  · simp [h] at hd
  · exact hc h

theorem isBlank_of_isDigit {c : Char} (h : c.isDigit = true) : isBlank c = false := by
  simp only [Char.isDigit, Bool.and_eq_true, decide_eq_true_eq, ge_iff_le, UInt32.le_iff_toNat_le]
    at h
  have h48 : 48 ≤ c.toNat := h.1
  have h57 : c.toNat ≤ 57 := h.2
  simp only [isBlank]
  grind

theorem isBlank_of_mem_writeSpan {terse : Bool} {s : Span} {c : Char} (h : c ∈ writeSpan terse s) :
    isBlank c = false := by
  rcases mem_writeSpan h with h | rfl
  · exact isBlank_of_isDigit h
  · decide

/-- A stretch whose numbers have 32 bits. -/
def Span.Fits (s : Span) : Prop := s.start < limit32 ∧ s.length < limit32

instance (s : Span) : Decidable s.Fits := inferInstanceAs (Decidable (_ ∧ _))

theorem span?_writeSpan (terse : Bool) (s : Span) :
    span? (writeSpan terse s) = if s.Fits then some s else none := by
  have hcomma : ∀ n, ',' ∉ numeral n := not_mem_numeral (by decide)
  obtain ⟨start, length⟩ := s
  rw [span?, writeSpan]
  by_cases hlen : terse = true ∧ length = 1
  · -- A length that is left out always fits.
    have hone : 1 < limit32 := by decide
    rw [if_pos hlen, List.append_nil, cut?_singleton_eq_none (hcomma _), hlen.2]
    simp only [natOfNumeral?_numeral]
    by_cases hstart : start < limit32 <;> simp [Span.Fits, hstart, hone]
  · rw [if_neg hlen, cut?_singleton (hcomma _)]
    simp only [natOfNumeral?_numeral]
    by_cases hstart : start < limit32 <;> by_cases hlength : length < limit32 <;>
      simp [Span.Fits, hstart, hlength]

/-- The ranges of a line that begins a hunk, whatever heading follows them. There
    are none if a number does not fit. -/
theorem hunkRange?_writeSpan (oldTerse newTerse : Bool) (old new : Span) (rest : List Char) :
    hunkRange? (hunkMark ++ writeSpan oldTerse old ++ " +".toList ++ writeSpan newTerse new ++
      " @@".toList ++ rest) = if old.Fits ∧ new.Fits then some ⟨old, new⟩ else none := by
  have hlead : hunkMark ++ writeSpan oldTerse old ++ " +".toList ++ writeSpan newTerse new ++
      " @@".toList ++ rest =
        "@@ ".toList ++ (('-' :: writeSpan oldTerse old ++ ' ' :: '+' :: writeSpan newTerse new) ++
          " @@".toList ++ rest) := by
    simp [hunkMark]
  have hat : '@' ∉ '-' :: writeSpan oldTerse old ++ ' ' :: '+' :: writeSpan newTerse new := by
    have := not_mem_writeSpan (c := '@') (by decide) (by decide)
    simp [this]
  have hold : ∀ c ∈ '-' :: writeSpan oldTerse old, isBlank c = false :=
    List.forall_mem_cons.2 ⟨by decide, fun _ => isBlank_of_mem_writeSpan⟩
  have hnew : ∀ c ∈ '+' :: writeSpan newTerse new, isBlank c = false :=
    List.forall_mem_cons.2 ⟨by decide, fun _ => isBlank_of_mem_writeSpan⟩
  have hwords : wordsBy isBlank ('-' :: writeSpan oldTerse old ++ ' ' :: '+' ::
      writeSpan newTerse new) = ['-' :: writeSpan oldTerse old, '+' :: writeSpan newTerse new] := by
    rw [wordsBy_append (List.cons_ne_nil _ _) hold (by decide),
      wordsBy_of_forall (List.cons_ne_nil _ _) hnew]
  -- The mark that ends the ranges is found where it was put, since none has an `@`.
  have hcut := cut?_pair (s := ['@']) hat (a := ' ') (by decide) rest
  rw [hlead, hunkRange?, dropLead?_append]
  change (cut? [' ', '@', '@'] _ >>= _) = _
  rw [show " @@".toList = [' ', '@', '@'] from rfl, hcut]
  simp only [Option.bind_eq_bind, Option.bind_some, hwords]
  by_cases ho : old.Fits <;> by_cases hn : new.Fits <;> simp [span?_writeSpan, ho, hn]

end Lintscope.Diff

import Lintscope.Diff.Reader
import Lintscope.Proofs.Diff.Header

/-!
# Reading the lines of a patch

What the reader does with the lines that a patch is written in, from a line to
all hunks of a file. Outside hunks a line turns the draft of the file into
another one (`Turns`). Inside a hunk the reader owes the rest of the hunk
(`Reader.Owes`), so it takes every line for content, whatever the line says,
until nothing is owed.

* `Reader.Owes.exists_readLine_edit`: a line of a hunk;
* `Reader.LeadsTo.exists_foldlM_edits`: all lines of a hunk;
* `turns_hunkLines`: all hunks of a file.
-/

namespace Lintscope.Diff

open Text Patch

/-! ## Readers -/

/-- The reader has read some files and is reading another one, of which it owes
    no lines of a hunk. -/
structure Reader.Drafts (r : Reader) (files : List FileChange) (d : Draft) : Prop where
  files_eq : r.files = files
  draft_eq : r.draft = some d
  closed : r.cursor.isOpen = false

/-- Lines that turn a draft into another one. -/
def Turns (d : Draft) (ls : List (List Char)) (d' : Draft) : Prop :=
  ∀ (r : Reader) (files : List FileChange), r.Drafts files d →
    ∃ r', ls.foldlM Reader.readLine r = .ok r' ∧ r'.Drafts files d'

theorem Turns.nil (d : Draft) : Turns d [] d := fun r _ hr => ⟨r, rfl, hr⟩

theorem Turns.append {d d' d'' : Draft} {ls ms : List (List Char)} (h : Turns d ls d')
    (h' : Turns d' ms d'') : Turns d (ls ++ ms) d'' := by
  intro r files hr
  obtain ⟨r', hl, hr'⟩ := h r files hr
  obtain ⟨r'', hm, hr''⟩ := h' r' files hr'
  exact ⟨r'', by rw [List.foldlM_append, hl]; exact hm, hr''⟩

theorem Turns.cons {d d' d'' : Draft} {l : List Char} {ms : List (List Char)}
    (h : Turns d [l] d') (h' : Turns d' ms d'') : Turns d (l :: ms) d'' :=
  h.append h'

theorem Reader.readLine_of_closed {r : Reader} (h : r.cursor.isOpen = false) (line : List Char) :
    r.readLine line = r.readHeader line := by
  rw [readLine]
  cases r.draft with
  | none => rfl
  | some d => simp [h]

theorem Reader.Drafts.readLine {r : Reader} {files : List FileChange} {d : Draft}
    (h : r.Drafts files d) (line : List Char) : r.readLine line = r.readHeader line :=
  readLine_of_closed h.closed line

theorem Reader.Drafts.finish {r : Reader} {files : List FileChange} {d : Draft}
    (h : r.Drafts files d) (hp : d.path ≠ "") : r.finish = files ++ [d.file] := by
  rw [Reader.finish, h.draft_eq, h.files_eq]
  exact if_neg hp

/-- A line changes the draft as it does by the rules for headers. -/
theorem turns_of_update {d : Draft} {line : List Char} {f : Draft → Draft}
    (h : ∀ r : Reader, r.draft = some d → r.readHeader line = .ok (r.update f)) :
    Turns d [line] (f d) := by
  intro r files hr
  refine ⟨r.update f, ?_, hr.files_eq, by rw [Reader.update, hr.draft_eq]; rfl, rfl⟩
  rw [List.foldlM_cons, hr.readLine, h r hr.draft_eq]
  rfl

/-! ## Headers -/

/-- Lines with this lead say nothing. -/
def Silent (lead : List Char) : Prop :=
  ∀ (r : Reader) (s : List Char), r.readHeader (lead ++ s) = .ok (r.update id)

theorem Silent.turns {lead : List Char} (h : Silent lead) (hl : lead.getLast? ≠ some '\r')
    (d : Draft) (s : List Char) : Turns d [dropReturn (lead ++ s)] d := by
  rw [dropReturn_append hl]
  exact turns_of_update fun r _ => h r (dropReturn s)

theorem silent_index : Silent "index ".toList := fun _ _ => rfl

theorem silent_oldMode : Silent "old mode ".toList := fun _ _ => rfl

theorem silent_newMode : Silent "new mode ".toList := fun _ _ => rfl

theorem silent_similarity : Silent "similarity index ".toList := fun _ _ => rfl

theorem silent_binary : Silent "Binary files ".toList := fun _ _ => rfl

theorem turns_newFile (d : Draft) (s : List Char) :
    Turns d [dropReturn ("new file mode ".toList ++ s)] { d with status := .added } := by
  rw [dropReturn_append (by decide)]
  exact turns_of_update (f := fun d => { d with status := .added }) fun _ _ => rfl

theorem turns_deletedFile (d : Draft) (s : List Char) :
    Turns d [dropReturn ("deleted file mode ".toList ++ s)] { d with status := .deleted } := by
  rw [dropReturn_append (by decide)]
  exact turns_of_update (f := fun d => { d with status := .deleted }) fun _ _ => rfl

theorem dropReturn_append_chars (s : List Char) (p : PlainPath) :
    dropReturn (s ++ p.chars) = s ++ p.chars :=
  dropReturn_of_getLast? (p.getLast?_append_chars_ne s (by decide))

theorem turns_renameFrom (d : Draft) (p : PlainPath) :
    Turns d [dropReturn ("rename from ".toList ++ p.chars)]
      { d with status := .renamed (.ofList p.chars) } := by
  rw [dropReturn_append_chars, ← p.canonicalPath_chars]
  exact turns_of_update (f := fun d => { d with status := .renamed (canonicalPath p.chars) })
    fun _ _ => rfl

theorem turns_renameTo (d : Draft) (p : PlainPath) :
    Turns d [dropReturn ("rename to ".toList ++ p.chars)] { d with path := .ofList p.chars } := by
  rw [dropReturn_append_chars, ← p.canonicalPath_chars]
  exact turns_of_update (f := fun d => { d with path := canonicalPath p.chars }) fun _ _ => rfl

/-! ## Sides -/

theorem dropReturn_sideLine (marker lead : List Char) (p : PlainPath) :
    dropReturn (sideLine marker (lead ++ p.chars)) = sideLine marker (lead ++ p.chars) := by
  have h : (marker ++ (lead ++ p.chars)).getLast? ≠ some '\r' := by
    rw [← List.append_assoc]
    exact p.getLast?_append_chars_ne _ (by decide)
  rw [sideLine, dropReturn_append h]
  split <;> rfl

/-- The draft once the old side is named: by a path, or as one that does not exist. -/
def Draft.nameOld (d : Draft) (path : Option String) : Draft :=
  if path = none then { d with status := .added } else d

theorem Draft.status_nameOld (d : Draft) (path : Option String) :
    (d.nameOld path).status = d.status ∨ (d.nameOld path).status = .added := by
  rw [nameOld]
  split
  · exact .inr rfl
  · exact .inl rfl

/-- The draft once the new side is named: by a path, or as one that does not exist. -/
def Draft.nameNew (d : Draft) : Option String → Draft
  | some path => { d with path }
  | none => { d with status := .deleted }

theorem readHeader_oldSide {r : Reader} {d : Draft} (hd : r.draft = some d)
    (hh : d.inHunks = false) (rest : List Char) :
    r.readHeader ("--- ".toList ++ rest) =
      .ok (r.update fun d => d.nameOld (sidePath? "a/".toList rest)) := by
  have hall : r.draft.all Draft.inHunks = false := by rw [hd]; exact hh
  -- The file has begun, so that no line of its own can begin another one.
  have hread : r.readOldSide rest =
      if sidePath? "a/".toList rest = none then r.update fun d => { d with status := .added }
      else r.update id := by
    rw [Reader.readOldSide, hall]
    rfl
  refine congrArg Except.ok (hread.trans ?_)
  by_cases hside : sidePath? "a/".toList rest = none
  · simp only [Draft.nameOld, if_pos hside]
  · simp only [Draft.nameOld, if_neg hside]
    rfl

theorem turns_oldSide {d : Draft} (hh : d.inHunks = false) (p : PlainPath) :
    Turns d [dropReturn (sideLine "--- ".toList ("a/".toList ++ p.chars))] d := by
  have hp : sidePath? "a/".toList (("a/".toList ++ p.chars) ++ _) = some (.ofList p.chars) :=
    sidePath?_plainPath (by decide) (by decide) p (isStamp_tab ("a/".toList ++ p.chars))
  rw [dropReturn_sideLine]
  refine turns_of_update (f := id) fun r hd => ?_
  rw [sideLine, List.append_assoc, readHeader_oldSide hd hh, hp]
  rfl

theorem turns_oldSide_nowhere {d : Draft} (hh : d.inHunks = false) :
    Turns d [dropReturn (sideLine "--- ".toList nowhere)] { d with status := .added } := by
  refine turns_of_update (f := fun d => { d with status := .added }) fun r hd => ?_
  exact readHeader_oldSide hd hh nowhere

theorem readHeader_newSide (r : Reader) (rest : List Char) :
    r.readHeader ("+++ ".toList ++ rest) =
      .ok (r.update fun d => d.nameNew (sidePath? "b/".toList rest)) := by
  have hread : r.readHeader ("+++ ".toList ++ rest) = .ok (r.readNewSide rest) := rfl
  rw [hread, Reader.readNewSide]
  cases sidePath? "b/".toList rest <;> rfl

theorem turns_newSide (d : Draft) (p : PlainPath) :
    Turns d [dropReturn (sideLine "+++ ".toList ("b/".toList ++ p.chars))]
      { d with path := .ofList p.chars } := by
  have hp : sidePath? "b/".toList (("b/".toList ++ p.chars) ++ _) = some (.ofList p.chars) :=
    sidePath?_plainPath (by decide) (by decide) p (isStamp_tab ("b/".toList ++ p.chars))
  rw [dropReturn_sideLine]
  refine turns_of_update (f := fun d => { d with path := .ofList p.chars }) fun r _ => ?_
  rw [sideLine, List.append_assoc, readHeader_newSide, hp]
  rfl

theorem turns_newSide_nowhere (d : Draft) :
    Turns d [dropReturn (sideLine "+++ ".toList nowhere)] { d with status := .deleted } :=
  turns_of_update (f := fun d => { d with status := .deleted }) fun _ _ => rfl

/-! ## Scripts -/

@[simp]
theorem oldSide_append (es fs : List Edit) : oldSide (es ++ fs) = oldSide es ++ oldSide fs :=
  List.filter_append ..

@[simp]
theorem newSide_append (es fs : List Edit) : newSide (es ++ fs) = newSide es ++ newSide fs :=
  List.filter_append ..

theorem addedLines_append (n : Nat) (es fs : List Edit) :
    addedLines n (es ++ fs) = addedLines n es ++ addedLines (n + (newSide es).length) fs := by
  simp [addedLines, List.zipIdx_append]

theorem oldSide_cons (e : Edit) (es : List Edit) : oldSide (e :: es) = oldSide [e] ++ oldSide es :=
  oldSide_append [e] es

theorem newSide_cons (e : Edit) (es : List Edit) : newSide (e :: es) = newSide [e] ++ newSide es :=
  newSide_append [e] es

theorem addedLines_cons (n : Nat) (e : Edit) (es : List Edit) :
    addedLines n (e :: es) = addedLines n [e] ++ addedLines (n + (newSide [e]).length) es :=
  addedLines_append n [e] es

/-- The numbers of added lines are numbers of lines of the new revision. -/
theorem bounds_of_mem_addedLines {n m : Nat} {es : List Edit} (h : m ∈ addedLines n es) :
    n ≤ m ∧ m < n + (newSide es).length := by
  rw [addedLines, List.mem_filterMap] at h
  obtain ⟨⟨e, k⟩, hk, hm⟩ := h
  obtain ⟨hle, hlt, -⟩ := List.mem_zipIdx hk
  by_cases he : e.fate = .added
  · obtain rfl : k = m := by simpa [he] using hm
    exact ⟨hle, hlt⟩
  · simp [he] at hm

theorem pairwise_addedLines (n : Nat) (es : List Edit) : (addedLines n es).Pairwise (· < ·) := by
  induction es generalizing n with
  | nil => exact .nil
  | cons e es ih =>
    rw [addedLines_cons, List.pairwise_append]
    refine ⟨?_, ih _, fun k hk m hm => ?_⟩
    · -- One line has at most one number.
      cases hf : e.fate <;> simp [addedLines, newSide, hf]
    · exact Nat.lt_of_lt_of_le (bounds_of_mem_addedLines hk).2 (bounds_of_mem_addedLines hm).1

/-- The draft with further added lines. -/
def Draft.add (d : Draft) (ns : List Nat) : Draft := { d with added := ns.reverse ++ d.added }

@[simp]
theorem Draft.add_nil (d : Draft) : d.add [] = d := rfl

theorem Draft.add_append (d : Draft) (ms ns : List Nat) : d.add (ms ++ ns) = (d.add ms).add ns := by
  simp [Draft.add]

/-! ## Hunks -/

/-- All lines of a hunk are read, if the reader keeps its standing to the lines that
    are left: over the next of them, and over the remark that may follow it. -/
theorem exists_foldlM_edits {stands : List Edit → Reader → Prop}
    (edit : ∀ e es r s, stands (e :: es) r →
      ∃ r', r.readLine (e.fate.sign :: s) = .ok r' ∧ stands es r')
    (remark : ∀ es r, stands es r → ∃ r', r.readLine unendedRemark = .ok r' ∧ stands es r')
    {es : List Edit} {r : Reader} (h : stands es r) :
    ∃ r', ((es.flatMap Edit.lines).map dropReturn).foldlM Reader.readLine r = .ok r' ∧
      stands [] r' := by
  induction es generalizing r with
  | nil => exact ⟨r, rfl, h⟩
  | cons e es ih =>
    have hsign : e.fate.sign ≠ '\r' := by cases e.fate <;> decide
    obtain ⟨r₁, hr₁, h₁⟩ := edit e es r (dropReturn e.text.1) h
    rw [List.flatMap_cons, List.map_append, Edit.lines, List.map_cons, dropReturn_cons hsign,
      List.cons_append, List.foldlM_cons, hr₁]
    cases e.unended with
    | false => exact ih h₁
    | true =>
      obtain ⟨r₂, hr₂, h₂⟩ := remark es r₁ h₁
      obtain ⟨r₃, hr₃, h₃⟩ := ih h₂
      refine ⟨r₃, ?_, h₃⟩
      change (r₁.readLine unendedRemark >>= _) = _
      rw [hr₂]
      exact hr₃

/-- The reader owes some lines of a hunk, of which the next new one has the
    number `n`. -/
structure Reader.Owes (r : Reader) (files : List FileChange) (d : Draft) (n : Nat)
    (es : List Edit) : Prop where
  files_eq : r.files = files
  draft_eq : r.draft = some d
  oldLeft : r.cursor.oldLeft = (oldSide es).length
  newLeft : r.cursor.newLeft = (newSide es).length
  newLine : newSide es ≠ [] → r.cursor.newLine = n

/-- Lines are owed as long as some are left on either side. -/
theorem Cursor.isOpen_eq {c : Cursor} {es : List Edit} (ho : c.oldLeft = (oldSide es).length)
    (hn : c.newLeft = (newSide es).length) : c.isOpen = !es.isEmpty := by
  rw [isOpen, ho, hn]
  cases es with
  | nil => rfl
  | cons e es => cases hf : e.fate <;> simp [oldSide, newSide, hf]

theorem nextLine_of_lt {n : Nat} (h : n + 1 < limit32) : nextLine n = n + 1 :=
  Nat.min_eq_left (by omega)

namespace Reader.Owes

variable {r : Reader} {files : List FileChange} {d : Draft} {n : Nat} {e : Edit} {es : List Edit}

theorem drafts (h : r.Owes files d n []) : r.Drafts files d where
  files_eq := h.files_eq
  draft_eq := h.draft_eq
  closed := Cursor.isOpen_eq h.oldLeft h.newLeft

/-- A reader that owes lines is in a hunk. -/
theorem isOpen (h : r.Owes files d n (e :: es)) : r.cursor.isOpen = true :=
  Cursor.isOpen_eq h.oldLeft h.newLeft

/-- What a line of a hunk says is of no matter, only its sign is. -/
theorem exists_readLine_edit (h : r.Owes files d n (e :: es))
    (hn : n + (newSide (e :: es)).length ≤ limit32) (s : List Char) :
    ∃ r', r.readLine (e.fate.sign :: s) = .ok r' ∧
      r'.Owes files (d.add (addedLines n [e])) (n + (newSide [e]).length) es := by
  have hold := h.oldLeft
  have hnew := h.newLeft
  have hline := h.newLine
  rw [oldSide_cons, List.length_append] at hold
  rw [newSide_cons, List.length_append] at hnew hn
  rw [Reader.readLine, h.draft_eq]
  simp only [h.isOpen, ↓reduceIte]
  -- A line is taken off the sides that it is on. If another new line is owed, its
  -- number is below the limit, so that counting does not stop.
  cases hf : e.fate with
  | kept =>
    have hone : newSide [e] = [e] := by simp [newSide, hf]
    have hadd : addedLines n [e] = [] := by simp [addedLines, hone, hf]
    refine ⟨_, rfl, h.files_eq, by rw [hadd, Draft.add_nil], ?_, ?_, fun hne => ?_⟩
    · simp [hold, oldSide, hf]
    · simp [hnew, hone]
    · have := List.length_pos_iff.2 hne
      rw [hone] at hn ⊢
      have hlt : n + 1 < limit32 := by
        simp at hn
        omega
      rw [List.length_singleton, ← nextLine_of_lt hlt, ← hline (by simp [newSide, hf])]
  | removed =>
    have hone : newSide [e] = [] := by simp [newSide, hf]
    have hadd : addedLines n [e] = [] := by simp [addedLines, hone]
    refine ⟨_, rfl, h.files_eq, by rw [hadd, Draft.add_nil], ?_, ?_, fun hne => ?_⟩
    · simp [hold, oldSide, hf]
    · simpa [hone] using hnew
    · rw [hone]
      exact hline (by rwa [newSide_cons, hone])
  | added =>
    have hone : newSide [e] = [e] := by simp [newSide, hf]
    have hadd : addedLines n [e] = [n] := by simp [addedLines, hone, hf]
    have hcons : newSide (e :: es) ≠ [] := by simp [newSide, hf]
    refine ⟨_, rfl, h.files_eq, ?_, ?_, ?_, fun hne => ?_⟩
    · rw [hadd, hline hcons]
      rfl
    · simpa [oldSide, hf] using hold
    · simp [hnew, hone]
    · have := List.length_pos_iff.2 hne
      rw [hone] at hn ⊢
      rw [List.length_singleton, ← nextLine_of_lt (by simp at hn; omega), ← hline hcons]

/-- The remark that a file ends without a newline changes nothing. -/
theorem exists_readLine_remark (h : r.Owes files d n es) :
    ∃ r', r.readLine unendedRemark = .ok r' ∧ r'.Owes files d n es := by
  -- Behind the last line of a hunk the remark is read as a header, before that as content.
  cases es with
  | nil =>
    refine ⟨r.update id, h.drafts.readLine _, h.files_eq, ?_, rfl, rfl, fun hne => absurd rfl hne⟩
    rw [Reader.update, h.draft_eq]
    rfl
  | cons e es =>
    refine ⟨r, ?_, h⟩
    rw [Reader.readLine, h.draft_eq]
    simp only [h.isOpen, ↓reduceIte]
    exact congrArg Except.ok (by rw [← h.draft_eq])

end Reader.Owes

/-- The reader owes the rest of a hunk, and has the draft `d` once it is read. -/
def Reader.LeadsTo (files : List FileChange) (d : Draft) (es : List Edit) (r : Reader) : Prop :=
  ∃ d' n, r.Owes files d' n es ∧ n + (newSide es).length ≤ limit32 ∧ d'.add (addedLines n es) = d

/-- All lines of a hunk, after which nothing is owed. -/
theorem Reader.LeadsTo.exists_foldlM_edits {r : Reader} {files : List FileChange} {d : Draft}
    {es : List Edit} (h : LeadsTo files d es r) :
    ∃ r', ((es.flatMap Edit.lines).map dropReturn).foldlM Reader.readLine r = .ok r' ∧
      r'.Drafts files d := by
  have hedit : ∀ e es r s, LeadsTo files d (e :: es) r →
      ∃ r', r.readLine (e.fate.sign :: s) = .ok r' ∧ LeadsTo files d es r' := by
    rintro e es r s ⟨d', n, ho, hle, hd⟩
    obtain ⟨r', hr', ho'⟩ := ho.exists_readLine_edit hle s
    -- The lines added so far and those to come are the same together.
    rw [newSide_cons, List.length_append, ← Nat.add_assoc] at hle
    rw [addedLines_cons, Draft.add_append] at hd
    exact ⟨r', hr', _, _, ho', hle, hd⟩
  have hremark : ∀ es r, LeadsTo files d es r →
      ∃ r', r.readLine unendedRemark = .ok r' ∧ LeadsTo files d es r' := by
    rintro es r ⟨d', n, ho, hle, hd⟩
    obtain ⟨r', hr', ho'⟩ := ho.exists_readLine_remark
    exact ⟨r', hr', d', n, ho', hle, hd⟩
  obtain ⟨r', hr', d', n, ho, -, hd⟩ := Diff.exists_foldlM_edits hedit hremark h
  exact ⟨r', hr', hd ▸ ho.drafts⟩


theorem stretch_fits {before length : Nat} (h : before + length < limit32) :
    (stretch before length).Fits := by
  simp only [stretch, Span.Fits]
  split <;> omega

theorem dropReturn_header (h : FileHunk) (old new : Nat) :
    dropReturn (h.header old new) = hunkMark ++
      writeSpan h.oldTerse (stretch old h.oldLength) ++ " +".toList ++
        writeSpan h.newTerse (stretch new h.newLength) ++ " @@".toList ++
          dropReturn (writeHeading h.heading.1) :=
  dropReturn_append (by rw [List.getLast?_append]; simp) _

theorem readHeader_hunkMark (r : Reader) (rest : List Char) :
    r.readHeader (hunkMark ++ rest) = r.readHunkHeader (hunkMark ++ rest) := rfl

/-- The line that begins a hunk makes the reader owe the lines of the hunk. -/
theorem exists_readLine_header {r : Reader} {files : List FileChange} {d : Draft}
    (hr : r.Drafts files d) (h : FileHunk) {old new : Nat} (ho : old + h.oldLength < limit32)
    (hn : new + h.newLength < limit32) :
    ∃ r', r.readLine (dropReturn (h.header old new)) = .ok r' ∧
      r'.Owes files { d with spans := stretch old h.oldLength :: d.spans, inHunks := true }
        (new + 1) h.edits := by
  have hrange := hunkRange?_writeSpan h.oldTerse h.newTerse (stretch old h.oldLength)
    (stretch new h.newLength) (dropReturn (writeHeading h.heading.1))
  rw [← dropReturn_header, if_pos ⟨stretch_fits ho, stretch_fits hn⟩] at hrange
  have hread : r.readLine (dropReturn (h.header old new)) =
      r.readHunkHeader (dropReturn (h.header old new)) := by
    rw [hr.readLine, dropReturn_header]
    simp only [List.append_assoc]
    exact readHeader_hunkMark r _
  rw [hread, Reader.readHunkHeader, hrange, hr.draft_eq]
  refine ⟨_, rfl, hr.files_eq, rfl, rfl, rfl, fun hne => if_neg ?_⟩
  exact fun h0 => hne (List.length_eq_zero_iff.1 h0)

/-- A hunk, after `old` and `new` lines of the revisions. -/
theorem turns_hunk (d : Draft) (h : FileHunk) {old new : Nat} (ho : old + h.oldLength < limit32)
    (hn : new + h.newLength < limit32) :
    Turns d ((h.lines old new).map dropReturn)
      ({ d with spans := stretch old h.oldLength :: d.spans, inHunks := true }.add
        (addedLines (new + 1) h.edits)) := by
  intro r files hr
  obtain ⟨r', hr', howes⟩ := exists_readLine_header hr h ho hn
  have hn' : new + 1 + (newSide h.edits).length ≤ limit32 := by
    rw [FileHunk.newLength] at hn
    omega
  obtain ⟨r'', hr'', hd⟩ := Reader.LeadsTo.exists_foldlM_edits ⟨_, _, howes, hn', rfl⟩
  refine ⟨r'', ?_, hd⟩
  rw [FileHunk.lines, List.map_cons, List.foldlM_cons, hr']
  exact hr''

/-! ## All hunks of a file -/

section

variable {es : List Edit} (h : ∀ e ∈ es, e.fate = .kept)
include h

theorem oldSide_of_kept : oldSide es = es :=
  List.filter_eq_self.2 fun e he => by simp [h e he]

theorem newSide_of_kept : newSide es = es :=
  List.filter_eq_self.2 fun e he => by simp [h e he]

theorem addedLines_of_kept (n : Nat) : addedLines n es = [] := by
  induction es generalizing n with
  | nil => rfl
  | cons e es ih =>
    rw [List.forall_mem_cons] at h
    rw [addedLines_cons, ih h.2, List.append_nil]
    simp [addedLines, newSide, h.1]

end

theorem fate_of_mem_skippedEdits (h : FileHunk) : ∀ e ∈ h.skippedEdits, e.fate = .kept := by
  rintro e he
  obtain ⟨l, -, rfl⟩ := List.mem_map.1 he
  rfl

theorem length_skippedEdits (h : FileHunk) : h.skippedEdits.length = h.skipped.length :=
  List.length_map ..

theorem length_oldSide_part (h : FileHunk) :
    (oldSide h.part).length = h.skipped.length + h.oldLength := by
  rw [FileHunk.part, oldSide_append, oldSide_of_kept (fate_of_mem_skippedEdits h),
    List.length_append, length_skippedEdits, FileHunk.oldLength]

theorem length_newSide_part (h : FileHunk) :
    (newSide h.part).length = h.skipped.length + h.newLength := by
  rw [FileHunk.part, newSide_append, newSide_of_kept (fate_of_mem_skippedEdits h),
    List.length_append, length_skippedEdits, FileHunk.newLength]

/-- Lines that are left out are counted, but none of them is added. -/
theorem addedLines_part (n : Nat) (h : FileHunk) :
    addedLines n h.part = addedLines (n + h.skipped.length) h.edits := by
  rw [FileHunk.part, addedLines_append, addedLines_of_kept (fate_of_mem_skippedEdits h),
    List.nil_append, newSide_of_kept (fate_of_mem_skippedEdits h), length_skippedEdits]

/-- The draft once some hunks are read, after `old` and `new` lines of the revisions. -/
def Draft.addHunks (d : Draft) (old new : Nat) (hunks : List FileHunk) : Draft :=
  { d with
    added := (addedLines (new + 1) (script hunks)).reverse ++ d.added
    spans := (oldSpans old hunks).reverse ++ d.spans
    inHunks := d.inHunks || !hunks.isEmpty }

theorem Draft.addHunks_nil (d : Draft) (old new : Nat) : d.addHunks old new [] = d := by
  simp [Draft.addHunks, script, oldSpans, addedLines, newSide]

theorem Draft.addHunks_cons (d : Draft) (old new : Nat) (h : FileHunk) (hs : List FileHunk) :
    d.addHunks old new (h :: hs) =
      ({ d with
          spans := stretch (old + h.skipped.length) h.oldLength :: d.spans
          inHunks := true }.add (addedLines (new + h.skipped.length + 1) h.edits)).addHunks
        (old + h.skipped.length + h.oldLength) (new + h.skipped.length + h.newLength) hs := by
  have hadded : addedLines (new + 1) (script (h :: hs)) =
      addedLines (new + h.skipped.length + 1) h.edits ++
        addedLines (new + h.skipped.length + h.newLength + 1) (script hs) := by
    rw [script, List.flatMap_cons, addedLines_append, addedLines_part, length_newSide_part, script]
    congr 2 <;> omega
  simp [Draft.addHunks, Draft.add, hadded, oldSpans]

theorem turns_hunkLines (d : Draft) (hunks : List FileHunk) {old new : Nat}
    (ho : old + (oldSide (script hunks)).length < limit32)
    (hn : new + (newSide (script hunks)).length < limit32) :
    Turns d ((hunkLines old new hunks).map dropReturn) (d.addHunks old new hunks) := by
  -- The hunks before have moved both sides by their own lengths.
  induction hunks generalizing d old new with
  | nil =>
    rw [Draft.addHunks_nil]
    exact .nil d
  | cons h hs ih =>
    have hscript : script (h :: hs) = h.part ++ script hs := List.flatMap_cons
    rw [hscript, oldSide_append, List.length_append, length_oldSide_part] at ho
    rw [hscript, newSide_append, List.length_append, length_newSide_part] at hn
    rw [hunkLines, List.map_append, Draft.addHunks_cons]
    exact (turns_hunk d h (by omega) (by omega)).append (ih _ (by omega) (by omega))

end Lintscope.Diff

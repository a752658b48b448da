import Lintscope.Proofs.Diff.Counting
import Lintscope.Proofs.Diff.NamedPatch
import Lintscope.Proofs.Order.Filtered

/-!
# Diffs without the lines of version control

The lines that name the two sides of a file and its hunks are a diff of their
own. They say what the line that begins a file and the lines about its mode say
too, so a diff is read the same with these lines and without them
(`parse_plain_eq`).

There is one exception. What is read of a name loses the blanks at its end, and
of the line that begins a file only the second name does. Then the two halves of
the line do not agree, and what follows the last ` b/` is taken for the path,
also where it is a part of the name. For a file that is gone no later line
corrects this.
-/

namespace Lintscope.Diff

open Text Patch Quoting

/-! ## Names with blanks at their ends -/

namespace Quoting

/-- The path that is left of a name once the blanks at its end are trimmed. -/
def Name.trimmed? (n : Name) : Option String :=
  if trimEnd n.chars = [] then none else some (canonicalPath (trimEnd n.chars))

/-- The line that begins a file with this name gives what is left of the name: it
    does not end with a blank, or has no part that looks like the second half of
    that line. -/
def Name.Clear (n : Name) : Prop :=
  n.chars.getLast?.any isBlank = true → ¬" b/".toList <:+: trimEnd n.chars

instance (n : Name) : Decidable n.Clear := inferInstanceAs (Decidable (_ → _))

variable {n : Name}

theorem sidePath?_of_plain {d : Char} (hd : isPlain d = true) (hs : d ≠ '/')
    (hn : n.chars.all isPlain = true) {t : List Char} (ht : IsStamp t) :
    sidePath? [d, '/'] ([d, '/'] ++ n.chars ++ t) = n.trimmed? := by
  have hplain : ∀ c ∈ [d, '/'] ++ n.chars, isPlain c = true := by
    simp only [List.cons_append, List.nil_append, List.forall_mem_cons]
    exact ⟨hd, by decide, List.all_eq_true.1 hn⟩
  have hlast : ∀ c ∈ [d, '/'].getLast?, isBlank c = false := by
    rw [List.getLast?_cons_cons, List.getLast?_singleton]
    rintro c ⟨⟩
    decide
  have htrim : ∀ c ∈ [d, '/'] ++ trimEnd n.chars, isPlain c = true := fun c hc =>
    hplain c (((List.prefix_append_right_inj _).2 (isPrefix_trimEnd _)).subset hc)
  have hne : [d, '/'] ++ trimEnd n.chars ≠ nowhere := fun h => hs (List.cons.inj h).1
  rw [sidePath?, takeWhile_append_stamp (not_mem_of_isPlain hplain (by decide)) ht,
    trimEnd_append hlast]
  simp only [hne, unquote_of_isPlain htrim, dropLead_append, ↓reduceIte, Name.trimmed?]

/-- The halves of the line that begins a file do not agree if one of them is trimmed. -/
theorem samePath?_eq_none_of_blank (hb : n.chars.getLast?.any isBlank = true) :
    samePath? ("a/".toList ++ n.chars ++ " b/".toList ++ trimEnd n.chars) = none := by
  rw [Option.eq_none_iff_forall_ne_some]
  intro x h
  have hlt := length_trimEnd_lt hb
  have heq := eq_of_samePath? h
  simp only [List.append_assoc, List.append_cancel_left_eq] at heq
  have hlength := congrArg List.length heq
  simp only [List.length_append] at hlength
  obtain ⟨t, ht, hblank⟩ := exists_trimEnd_append n.chars
  have htlength := congrArg List.length ht
  rw [List.length_append] at htlength
  -- The second half would have to begin inside the blanks that are trimmed.
  rcases List.append_eq_append_iff.1 heq with ⟨u, hx, -⟩ | ⟨u, hu, hrest⟩
  · rw [hx, List.length_append] at hlength
    omega
  · have hulength := congrArg List.length hu
    rw [List.length_append] at hulength
    have hsuffix : u <:+ t :=
      List.suffix_of_suffix_length_le ⟨x, hu.symm⟩ ⟨_, ht.symm⟩ (by omega)
    match u, hrest with
    | [], _ =>
      rw [List.length_nil] at hulength
      omega
    | [c], hrest => simp at hrest
    | c :: d :: u, hrest =>
      have hd : 'b' = d := by
        simp only [String.reduceToList, List.cons_append, List.cons.injEq] at hrest
        exact hrest.2.1
      have := hblank d (hsuffix.subset (by simp))
      rw [← hd] at this
      exact absurd this (by decide)

theorem canonicalPath_trimEnd (hn : n.chars.all isPlain = true) :
    canonicalPath (trimEnd n.chars) = .ofList (trimEnd n.chars) := by
  have hsub := isPrefix_trimEnd n.chars
  rw [canonicalPath, canonicalChars_of_isPlain fun c hc => List.all_eq_true.1 hn c (hsub.subset hc)]
  intro s hs
  obtain ⟨t, ht⟩ := hsub
  exact n.no_step (s ++ t) (by rw [← ht, hs]; rfl)

/-- What is left of a name is no path exactly if all of it is blank. -/
theorem trimmed?_getD (hn : n.chars.all isPlain = true) :
    n.trimmed?.getD "" = .ofList (trimEnd n.chars) := by
  rw [Name.trimmed?]
  split
  · next h => rw [h]; rfl
  · exact canonicalPath_trimEnd hn

theorem Name.clear_of_trimmed?_eq_none (h : n.trimmed? = none) : n.Clear := by
  rw [trimmed?, ite_eq_left_iff] at h
  have hnil : trimEnd n.chars = [] := by
    by_contra hne
    cases h hne
  rw [Clear, hnil, List.infix_nil]
  exact fun _ => by decide

/-- The line that begins a file with a name without quotes gives what is left of
    the name exactly if the name is clear. -/
theorem filePath?_header_eq_trimmed_iff (hn : n.chars.all isPlain = true) :
    filePath? (header n n) = some (n.trimmed?.getD "") ↔ n.Clear := by
  rw [trimmed?_getD hn]
  by_cases hb : n.chars.getLast?.any isBlank = true
  · -- The path is what follows the last mark.
    have hpath : filePath? (header n n) =
        (cutLast? " b/".toList ("a/".toList ++ n.chars ++ " b/".toList ++ trimEnd n.chars)).map
          fun cut => canonicalPath cut.2 := by
      rw [filePath?_of_plain hn, quoted_of_plain hn, samePath?_eq_none_of_blank hb]
      cases cutLast? " b/".toList ("a/".toList ++ n.chars ++ " b/".toList ++ trimEnd n.chars) <;> rfl
    rw [hpath, ← canonicalPath_trimEnd hn]
    constructor
    · rintro h - ⟨u, v, huv⟩
      obtain ⟨⟨before, after⟩, hcut, heq⟩ := Option.map_eq_some_iff.1 h
      -- A mark in the name leaves less of it than there is.
      rw [← huv, ← List.append_assoc, ← List.append_assoc] at hcut
      have hle := length_le_of_cutLast? hcut
      have hlength := congrArg List.length huv
      rw [List.length_append, List.length_append] at hlength
      dsimp only at heq
      rw [canonicalPath_trimEnd hn, canonicalPath, String.ofList_inj] at heq
      have hafter := Path.length_canonicalChars_le after
      rw [heq, ← hlength] at hafter
      simp only [String.reduceToList, List.length_cons, List.length_nil] at hafter
      omega
    · intro hc
      have hmark : ¬(' ' :: "b/".toList) <:+: "b/".toList ++ trimEnd n.chars := by
        simpa [List.infix_cons_iff] using hc hb
      exact congrArg _ (cutLast?_append hmark ("a/".toList ++ n.chars))
  · have hf : n.Faithful := ⟨hn, Bool.eq_false_iff.2 hb⟩
    refine iff_of_true ?_ fun h => absurd h hb
    have htrim : trimEnd n.chars = n.chars :=
      trimEnd_of_getLast? hf.plainPath.isBlank_of_mem_getLast?
    rw [(filePath?_header_eq_listed_iff n).2 hf, listed_of_plain hn, htrim]

end Quoting

/-! ## What is written -/

namespace Patch

/-- Which revisions have a file. -/
inductive Presence where
  /-- The new one, by a mode. -/
  | added (mode : Line)
  /-- The old one, by a mode. -/
  | deleted (mode : Line)
  /-- Both, by two modes if these differ. -/
  | modified (modes : Option (Line × Line))

/-- Whether only the old revision has the file. -/
def Presence.isDeleted : Presence → Bool
  | deleted _ => true
  | added _ | modified _ => false

/-- What becomes of the file. -/
def Presence.move : Presence → Move
  | added mode => .added mode
  | deleted mode => .deleted mode
  | modified modes => .modified modes

/-- A file that stays where it is and whose text changes, with a name that is
    written without quotes. -/
structure TextPatch where
  /-- Its name. -/
  name : Name
  plain : name.chars.all isPlain = true := by decide
  /-- Which revisions have it. -/
  presence : Presence
  /-- What the index says of its content. -/
  index : Line
  /-- The hunks. -/
  hunks : List PlacedHunk
  hunks_ne_nil : hunks ≠ [] := by exact List.cons_ne_nil _ _
  /-- The time that is written behind the name of the old side, if any is. -/
  oldTime : Option Line := none
  /-- The time that is written behind the name of the new side, if any is. -/
  newTime : Option Line := none

/-- What is written behind the name of a side: a tab and a time, or nothing. -/
def stamp : Option Line → List Char
  | none => []
  | some time => '\t' :: time.1

namespace TextPatch

variable (c : TextPatch)

/-- The file as it is in a diff of version control, but for its text. -/
def named : NamedPatch := ⟨c.name, c.presence.move, .same⟩

/-- The lines about the file that stand before its hunks in a diff of version control. -/
def headers : List (List Char) :=
  (fileMark ++ header c.name c.name) :: (c.named.moveLines ++
    ["index ".toList ++ c.index.1, sideLine "--- ".toList c.named.oldSide,
      sideLine "+++ ".toList c.named.newSide])

/-- The lines that name the two sides of the file, and nothing else about it. -/
def sides : List (List Char) :=
  ["--- ".toList ++ (c.named.oldSide ++ stamp c.oldTime),
    "+++ ".toList ++ (c.named.newSide ++ stamp c.newTime)]

/-- The lines of the hunks. -/
def hunkLines : List (List Char) := c.hunks.flatMap PlacedHunk.lines

/-- The line that begins the file is right about its path, or a later line is: the
    file is not gone, or its name is clear. -/
def Clear : Prop := c.presence.isDeleted = true → c.name.Clear

instance : Decidable c.Clear := inferInstanceAs (Decidable (_ → _))

end TextPatch

/-- The diff that version control writes of some files. -/
def headed (changes : List TextPatch) : String :=
  .ofList (written (changes.flatMap fun c => c.headers ++ c.hunkLines))

/-- The diff of the same files with nothing but the names of their sides and their hunks. -/
def plain (changes : List TextPatch) : String :=
  .ofList (written (changes.flatMap fun c => c.sides ++ c.hunkLines))

end Patch

/-! ## Sides -/

namespace Patch.TextPatch

variable (c : TextPatch)

/-- The path of the old side, if there is one. -/
def oldPath? : Option String :=
  match c.presence with
  | .added _ => none
  | _ => c.name.trimmed?

/-- The path of the new side, if there is one. -/
def newPath? : Option String :=
  match c.presence with
  | .deleted _ => none
  | _ => c.name.trimmed?

theorem isStamp_stamp (time : Option Line) : IsStamp (stamp time) := by
  cases time with
  | none => exact .inl rfl
  | some time => exact .inr ⟨time.1, rfl⟩

theorem sidePath?_nowhere (side : List Char) {t : List Char} (ht : IsStamp t) :
    sidePath? side (nowhere ++ t) = none := by
  rw [sidePath?, takeWhile_append_stamp (by decide) ht]
  exact if_pos (by decide)

theorem sidePath?_oldSide {t : List Char} (ht : IsStamp t) :
    sidePath? "a/".toList (c.named.oldSide ++ t) = c.oldPath? := by
  obtain ⟨n, hn, presence, index, hunks, hne, oldTime, newTime⟩ := c
  cases presence with
  | added mode => exact sidePath?_nowhere _ ht
  | deleted mode | modified modes =>
    change sidePath? _ (quoted "a/".toList n.chars ++ t) = n.trimmed?
    rw [quoted_of_plain hn]
    exact sidePath?_of_plain (by decide) (by decide) hn ht

theorem sidePath?_newSide {t : List Char} (ht : IsStamp t) :
    sidePath? "b/".toList (c.named.newSide ++ t) = c.newPath? := by
  obtain ⟨n, hn, presence, index, hunks, hne, oldTime, newTime⟩ := c
  cases presence with
  | deleted mode => exact sidePath?_nowhere _ ht
  | added mode | modified modes =>
    change sidePath? _ (quoted "b/".toList n.chars ++ t) = n.trimmed?
    rw [quoted_of_plain hn]
    exact sidePath?_of_plain (by decide) (by decide) hn ht

/-! ## Drafts -/

/-- The draft that the sides make. -/
def plainDraft : Draft := .ofSides c.oldPath? c.newPath?

/-- The path that is read of the line that begins the file. -/
def headerPath : String := (filePath? (header c.name c.name)).getD ""

theorem filePath?_header : filePath? (header c.name c.name) = some c.headerPath := by
  obtain ⟨path, h⟩ := exists_filePath?_header c.name c.name
  rw [headerPath, h]
  rfl

/-- The draft that all headers make: if the new side has no path, the one of the line
    that begins the file stays. -/
def headedDraft : Draft := { c.plainDraft with path := c.newPath?.getD c.headerPath }

/-- The sides begin the file. -/
theorem exists_foldlM_sides {r : Reader} (hr : r.Between) :
    ∃ r', (c.sides.map dropReturn).foldlM Reader.readLine r = .ok r' ∧
      r'.Drafts r.finish c.plainDraft := by
  obtain ⟨r₁, hr₁, hd₁⟩ := hr.exists_readLine (c.named.oldSide ++ stamp c.oldTime)
  rw [c.sidePath?_oldSide (isStamp_stamp _)] at hd₁
  obtain ⟨r₂, hr₂, hd₂⟩ :=
    turns_anyNewSide c.oldPath? (c.named.newSide ++ stamp c.newTime) _ _ hd₁
  rw [c.sidePath?_newSide (isStamp_stamp _)] at hd₂
  refine ⟨r₂, ?_, hd₂⟩
  rw [sides, List.map_cons, List.foldlM_cons, hr₁]
  exact hr₂

/-- What the lines about the mode say of the file. -/
def status : Status :=
  match c.presence with
  | .added _ => .added
  | .deleted _ => .deleted
  | .modified _ => .modified

theorem turns_moveLines (path : String) :
    Turns { path } (c.named.moveLines.map dropReturn) { path, status := c.status } := by
  obtain ⟨n, hn, presence, index, hunks, hne, oldTime, newTime⟩ := c
  cases presence with
  | added mode => exact turns_newFile _ mode.1
  | deleted mode => exact turns_deletedFile _ mode.1
  | modified modes => exact turns_modeLines _ modes

theorem turns_sideLines (path : String) :
    Turns { path, status := c.status }
      ([sideLine "--- ".toList c.named.oldSide, sideLine "+++ ".toList c.named.newSide].map
        dropReturn)
      { c.plainDraft with path := c.newPath?.getD path } := by
  have hold := turns_nameOld (d := { path, status := c.status }) rfl c.named.isLine_oldSide
  rw [c.sidePath?_oldSide (isStamp_tab _)] at hold
  have hnew := turns_nameNew (Draft.nameOld { path, status := c.status } c.oldPath?)
    c.named.isLine_newSide
  rw [c.sidePath?_newSide (isStamp_tab _)] at hnew
  have hdraft : (Draft.nameOld { path, status := c.status } c.oldPath?).nameNew c.newPath? =
      { c.plainDraft with path := c.newPath?.getD path } := by
    obtain ⟨n, hn, presence, index, hunks, hne, oldTime, newTime⟩ := c
    cases presence <;> cases htrim : n.trimmed? <;>
      simp [oldPath?, newPath?, status, plainDraft, Draft.ofSides, Draft.nameOld, Draft.nameNew,
        htrim]
  exact hdraft ▸ hold.cons hnew

/-- The headers are read whatever was read before them. -/
theorem exists_foldlM_headers {r : Reader} (hr : r.cursor.isOpen = false) :
    ∃ r', (c.headers.map dropReturn).foldlM Reader.readLine r = .ok r' ∧
      r'.Drafts r.finish c.headedDraft := by
  have hheader : r.readLine (dropReturn (fileMark ++ header c.name c.name)) =
      .ok (r.begin { path := c.headerPath }) := by
    have hline := isLine_append (l := fileMark) ⟨by decide, by decide⟩
      (isLine_header c.name c.name)
    rw [dropReturn_of_isLine hline, Reader.readLine_of_closed hr, readHeader_fileMark,
      Reader.readFileHeader, c.filePath?_header]
  have hbegin : (r.begin { path := c.headerPath }).Drafts r.finish { path := c.headerPath } :=
    ⟨rfl, rfl, rfl⟩
  obtain ⟨r', hr', hd⟩ := (c.turns_moveLines c.headerPath).append
    (.cons (silent_index.turns (by decide) _ c.index.1) (c.turns_sideLines c.headerPath))
    _ _ hbegin
  refine ⟨r', ?_, hd⟩
  rw [headers, List.map_cons, List.map_append, List.foldlM_cons, hheader]
  exact hr'

theorem headerPath_eq_iff : c.headerPath = c.name.trimmed?.getD "" ↔ c.name.Clear := by
  rw [← filePath?_header_eq_trimmed_iff c.plain, c.filePath?_header, Option.some.injEq]

variable {c}

/-- If the line that begins the file says no more than the sides, nor do all headers. -/
theorem headedDraft_of_clear (hc : c.Clear) : c.headedDraft = c.plainDraft := by
  have hpath : c.newPath?.getD c.headerPath = c.newPath?.getD (c.oldPath?.getD "") := by
    cases hnew : c.newPath? with
    | some path => rfl
    | none =>
      -- The file is gone, or nothing is left of its name.
      have hclear : c.name.Clear ∧ c.oldPath?.getD "" = c.name.trimmed?.getD "" := by
        rw [newPath?] at hnew
        rw [oldPath?]
        split at hnew
        · next mode hp =>
          rw [hp]
          exact ⟨hc (by rw [hp]; rfl), rfl⟩
        · refine ⟨Name.clear_of_trimmed?_eq_none hnew, ?_⟩
          rw [hnew]
          split <;> rfl
      rw [Option.getD_none, Option.getD_none, hclear.2]
      exact c.headerPath_eq_iff.2 hclear.1
  rw [headedDraft, hpath]
  rfl

/-- A file that is gone, and has a name that is not clear, has another path in the
    line that begins it than its sides give. -/
theorem headedDraft_path_ne (hc : ¬c.Clear) :
    c.plainDraft.path ≠ "" ∧ c.headedDraft.path ≠ c.plainDraft.path := by
  obtain ⟨hdeleted, hname⟩ := Classical.not_imp.1 hc
  obtain ⟨mode, hp⟩ : ∃ mode, c.presence = .deleted mode := by
    cases hp : c.presence with
    | deleted mode => exact ⟨mode, rfl⟩
    | added mode | modified modes => rw [hp] at hdeleted; cases hdeleted
  have hplain : c.plainDraft.path = c.name.trimmed?.getD "" := by
    simp [plainDraft, Draft.ofSides, newPath?, oldPath?, hp]
  have hheaded : c.headedDraft.path = c.headerPath := by simp [headedDraft, newPath?, hp]
  rw [hplain, hheaded]
  refine ⟨fun h => ?_, fun h => hname (c.headerPath_eq_iff.1 h)⟩
  rw [trimmed?_getD c.plain, String.ofList_eq_empty_iff] at h
  exact hname (Name.clear_of_trimmed?_eq_none (if_pos h))

end Patch.TextPatch

/-! ## Files -/

/-- The file that a draft describes, if it has got a path. -/
def Draft.files (d : Draft) : List FileChange := if d.path = "" then [] else [d.file]

theorem Reader.Drafts.finish_eq {r : Reader} {files : List FileChange} {d : Draft}
    (h : r.Drafts files d) : r.finish = files ++ d.files := by
  rw [Reader.finish, h.draft_eq, h.files_eq, Draft.files]
  dsimp only
  split
  · exact (List.append_nil files).symm
  · rfl

namespace Patch.TextPatch

variable (c : TextPatch)

/-- What the diff of version control says of the file. -/
def headedFiles : List FileChange := (c.headedDraft.addPlaced c.hunks).files

/-- What the sides and the hunks say of the file. -/
def plainFiles : List FileChange := (c.plainDraft.addPlaced c.hunks).files

theorem length_headedFiles_le : c.headedFiles.length ≤ c.plainFiles.length := by
  by_cases hc : c.Clear
  · rw [headedFiles, plainFiles, headedDraft_of_clear hc]
  · have hpath : (c.plainDraft.addPlaced c.hunks).path ≠ "" := (headedDraft_path_ne hc).1
    rw [headedFiles, plainFiles, Draft.files, Draft.files, if_neg hpath]
    split <;> simp

theorem headedFiles_eq_iff : c.headedFiles = c.plainFiles ↔ c.Clear := by
  constructor
  · intro h
    by_contra hc
    obtain ⟨hpath, hne⟩ := headedDraft_path_ne hc
    change (c.plainDraft.addPlaced c.hunks).path ≠ "" at hpath
    rw [headedFiles, plainFiles, Draft.files, Draft.files, if_neg hpath] at h
    split at h
    · cases h
    · exact hne (congrArg FileChange.path (List.head_eq_of_cons_eq h))
  · intro hc
    rw [headedFiles, plainFiles, headedDraft_of_clear hc]

variable {c}

/-- Behind lines that make a draft of the file the hunks are read, if their numbers
    fit, and then the next file can begin. -/
theorem exists_foldlM_append_hunkLines (hf : ∀ h ∈ c.hunks, h.Fits) {r : Reader} {d : Draft}
    {ls : List (List Char)} (hls : ∃ r', (ls.map dropReturn).foldlM Reader.readLine r = .ok r' ∧
      r'.Drafts r.finish d) :
    ∃ r', ((ls ++ c.hunkLines).map dropReturn).foldlM Reader.readLine r = .ok r' ∧ r'.Between ∧
      r'.finish = r.finish ++ (d.addPlaced c.hunks).files := by
  obtain ⟨r₁, hr₁, hd₁⟩ := hls
  obtain ⟨r₂, hr₂, hd₂⟩ := turns_placed hf d r₁ _ hd₁
  refine ⟨r₂, ?_, ⟨hd₂.closed, ?_⟩, hd₂.finish_eq⟩
  · rw [List.map_append, List.foldlM_append, hr₁]
    exact hr₂
  · simp [hd₂.draft_eq, Draft.addPlaced, c.hunks_ne_nil]

/-- The file is read the same with its headers as with its sides alone, also if it
    cannot be read. If it can, the next file can begin. -/
theorem foldlM_plain_eq (hc : c.Clear) {r : Reader} (hr : r.Between) :
    ((c.sides ++ c.hunkLines).map dropReturn).foldlM Reader.readLine r =
        ((c.headers ++ c.hunkLines).map dropReturn).foldlM Reader.readLine r ∧
      ∀ r', ((c.headers ++ c.hunkLines).map dropReturn).foldlM Reader.readLine r = .ok r' →
        r'.Between := by
  obtain ⟨r₁, hr₁, hd₁⟩ := c.exists_foldlM_sides hr
  obtain ⟨r₂, hr₂, hd₂⟩ := c.exists_foldlM_headers hr.closed
  rw [headedDraft_of_clear hc] at hd₂
  rw [List.map_append, List.map_append, List.foldlM_append, List.foldlM_append, hr₁, hr₂]
  refine ⟨foldlM_placed_congr hd₁ hd₂ c.hunks_ne_nil, fun r' hr' => ?_⟩
  exact between_of_foldlM_placed hd₂.closed (by rw [hd₂.draft_eq]; rfl) c.hunks_ne_nil hr'

/-! ## Texts -/

theorem newline_not_mem_hunkLines (c : TextPatch) : ∀ l ∈ c.hunkLines, '\n' ∉ l :=
  List.forall_mem_flatMap.2 fun h _ => newline_not_mem_placed h

theorem newline_not_mem_moveLines (c : TextPatch) : ∀ l ∈ c.named.moveLines, '\n' ∉ l := by
  obtain ⟨n, hn, presence, index, hunks, hne, oldTime, newTime⟩ := c
  cases presence with
  | added mode => exact List.forall_mem_singleton.2 (by simp [mode.2])
  | deleted mode => exact List.forall_mem_singleton.2 (by simp [mode.2])
  | modified modes => exact newline_not_mem_modeLines

theorem newline_not_mem_headed (c : TextPatch) : ∀ l ∈ c.headers ++ c.hunkLines, '\n' ∉ l := by
  have hheader := isLine_append (l := fileMark) ⟨by decide, by decide⟩ (isLine_header c.name c.name)
  rw [headers, List.forall_mem_append, List.forall_mem_cons, List.forall_mem_append]
  refine ⟨⟨hheader.1, newline_not_mem_moveLines c, ?_⟩, newline_not_mem_hunkLines c⟩
  simp only [List.forall_mem_cons]
  refine ⟨by simp [c.index.2], ?_, ?_, nofun⟩
  · exact newline_not_mem_sideLine (by decide) c.named.isLine_oldSide.1
  · exact newline_not_mem_sideLine (by decide) c.named.isLine_newSide.1

theorem newline_not_mem_stamp (time : Option Line) : '\n' ∉ stamp time := by
  cases time with
  | none => exact nofun
  | some time => exact List.not_mem_cons_of_ne_of_not_mem (by decide) time.2

theorem newline_not_mem_plain (c : TextPatch) : ∀ l ∈ c.sides ++ c.hunkLines, '\n' ∉ l := by
  rw [sides, List.forall_mem_append, List.forall_mem_cons, List.forall_mem_singleton]
  refine ⟨⟨?_, ?_⟩, newline_not_mem_hunkLines c⟩
  · simp [c.named.isLine_oldSide.1, newline_not_mem_stamp]
  · simp [c.named.isLine_newSide.1, newline_not_mem_stamp]

end Patch.TextPatch

/-- The names of the sides and the hunks are read as the diff of version control is
    read, whatever the lines of the hunks say and whether or not their numbers fit,
    unless a file is gone whose name ends with a blank and has a part that looks like
    a side. If the numbers fit, both are diffs, and this is the only exception. -/
theorem parse_plain_eq (changes : List TextPatch) :
    ((∀ c ∈ changes, c.Clear) → parse (plain changes) = parse (headed changes)) ∧
      ((∀ c ∈ changes, ∀ h ∈ c.hunks, h.Fits) → ∃ files, parse (headed changes) = .ok files ∧
        (parse (plain changes) = .ok files ↔ ∀ c ∈ changes, c.Clear)) := by
  have hstart : ({} : Reader).Between := ⟨rfl, rfl⟩
  rw [plain, headed,
    parse_written (List.forall_mem_flatMap.2 fun c _ => TextPatch.newline_not_mem_plain c),
    parse_written (List.forall_mem_flatMap.2 fun c _ => TextPatch.newline_not_mem_headed c)]
  refine ⟨fun hc => congrArg _ ?_, fun hf => ?_⟩
  · rw [List.map_flatMap, List.map_flatMap]
    exact foldlM_flatMap_congr (fun c hmem _ hr => TextPatch.foldlM_plain_eq (hc c hmem) hr) hstart
  · obtain ⟨r, hr, hfinish⟩ := exists_foldlM_flatMap (fun c hmem _ hbetween =>
      TextPatch.exists_foldlM_append_hunkLines (hf c hmem)
        (c.exists_foldlM_headers hbetween.closed)) hstart
    obtain ⟨r', hr', hfinish'⟩ := exists_foldlM_flatMap (fun c hmem _ hbetween =>
      TextPatch.exists_foldlM_append_hunkLines (hf c hmem) (c.exists_foldlM_sides hbetween)) hstart
    refine ⟨changes.flatMap TextPatch.headedFiles, ?_, ?_⟩
    · rw [hr]
      exact congrArg Except.ok hfinish
    · rw [hr', ← forall₂_congr fun c _ => c.headedFiles_eq_iff,
        ← Filtered.flatMap_eq_flatMap_iff fun c _ => c.length_headedFiles_le, eq_comm]
      change Except.ok _ = Except.ok _ ↔ _
      rw [Except.ok.injEq, hfinish']
      rfl

theorem newline_not_mem_regular : '\n' ∉ "100644".toList := by decide

/-- The mode of a file that is neither a program nor a link. -/
def regular : Line := ⟨"100644".toList, newline_not_mem_regular⟩

theorem newline_not_mem_noHeading : '\n' ∉ ([] : List Char) := List.not_mem_nil

/-- A hunk at the start of a file, which has no heading. -/
def firstHunk (edits : List Edit) : PlacedHunk where
  old := 0
  new := 0
  hunk := { skipped := [], edits, heading := ⟨[], newline_not_mem_noHeading⟩ }

/-- A file with a name that looks like the line that begins a file, a new one, and one
    that is gone, whose name ends with a blank. Lines of the first look like sides. -/
def lookalikes : List TextPatch :=
  [{ name := { chars := "x b/x y.py".toList }
     presence := .modified none
     index := ⟨"3..4 100644".toList, by decide⟩
     hunks :=
      [firstHunk
        [⟨.removed, ⟨"-- a/z.py".toList, by decide⟩, false⟩,
          ⟨.added, ⟨"++ b/z.py".toList, by decide⟩, false⟩]]
     oldTime := some ⟨"2024-01-01 10:00:00".toList, by decide⟩ },
   { name := { chars := "new.py".toList }
     presence := .added regular
     index := ⟨"0..5".toList, by decide⟩
     hunks := [firstHunk [⟨.added, ⟨"y = 1".toList, by decide⟩, true⟩]] },
   { name := { chars := "old ".toList }
     presence := .deleted regular
     index := ⟨"6..0".toList, by decide⟩
     hunks := [firstHunk [⟨.removed, ⟨"y = 1".toList, by decide⟩, false⟩]]
     newTime := some ⟨"1970-01-01 00:00:00".toList, by decide⟩ }]

theorem parse_plain_eq_lookalikes :
    (∀ c ∈ lookalikes, c.Clear) ∧ (∀ c ∈ lookalikes, ∀ h ∈ c.hunks, h.Fits) ∧
      parse (plain lookalikes) = parse (headed lookalikes) ∧
        ∃ files, parse (headed lookalikes) = .ok files ∧ parse (plain lookalikes) = .ok files := by
  have hclear : ∀ c ∈ lookalikes, c.Clear := by decide
  have hfits : ∀ c ∈ lookalikes, ∀ h ∈ c.hunks, h.Fits := by decide
  obtain ⟨files, hheaded, hplain⟩ := (parse_plain_eq lookalikes).2 hfits
  exact ⟨hclear, hfits, (parse_plain_eq lookalikes).1 hclear, files, hheaded, hplain.2 hclear⟩

/-- A file that is gone, in a directory `x b` and with a blank at the end of its name. -/
def blankEnded : TextPatch where
  name := { chars := "x b/y ".toList }
  presence := .deleted regular
  index := ⟨"1111111..0000000".toList, by decide⟩
  hunks := [firstHunk [⟨.removed, ⟨"y = 1".toList, by decide⟩, false⟩]]

/-- Of the line that begins such a file only a part of the name is read as its path. -/
theorem parse_headed_blankEnded :
    parse (headed [blankEnded]) = .ok [⟨"y", .deleted, [], [⟨1, 1⟩]⟩] ∧
      parse (plain [blankEnded]) = .ok [⟨"x b/y", .deleted, [], [⟨1, 1⟩]⟩] := by
  constructor <;> decide +kernel

end Lintscope.Diff

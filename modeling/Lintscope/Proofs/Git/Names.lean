import Lintscope.Proofs.Diff.Index
import Lintscope.Proofs.Diff.NamedPatch
import Lintscope.Proofs.Git.Files

/-!
# Names in a diff and in the list of files

A run about what has changed looks at the files of the list that the diff
touches, so the two must name a file by the same path. They do exactly if the
name is faithful, and then the file is a candidate
(`Quoting.parse_eq_listed_iff`). A name in quotes is taken out of them in a diff
only, and a blank at the end is lost in a diff only; so a file with such a name
is passed over, although it has changed (`Quoting.files_quote`). Only the lines
about a move go wrong as the list does.
-/

namespace Lintscope.Diff.Quoting

open Text Patch

/-! ## Diffs of one file -/

/-- The lines about a file that stays where it is. -/
def stayLines (n : Name) : List (List Char) := [fileMark ++ header n n]

/-- The lines that name the sides of a file that is new. -/
def newLines (n : Name) : List (List Char) :=
  ["--- ".toList ++ nowhere, "+++ ".toList ++ side "b/".toList n]

/-- The lines that name the sides of a file that is gone. -/
def goneLines (n : Name) : List (List Char) :=
  ["--- ".toList ++ side "a/".toList n, "+++ ".toList ++ nowhere]

/-- The lines about a file that was moved. -/
def movedLines (m n : Name) : List (List Char) :=
  [fileMark ++ header m n, "rename from ".toList ++ quoted [] m.chars,
    "rename to ".toList ++ quoted [] n.chars]

/-- The diff that some lines make. -/
def diffOf (ls : List (List Char)) : String := .ofList (written ls)

theorem parse_diffOf {ls : List (List Char)} (h : ∀ l ∈ ls, IsLine l) :
    parse (diffOf ls) = Reader.finish <$> ls.foldlM Reader.readLine {} := by
  have hreturn : ls.map dropReturn = ls :=
    (List.map_congr_left fun l hl => dropReturn_of_isLine (h l hl)).trans (List.map_id' ls)
  rw [diffOf, parse_written fun l hl => (h l hl).1, hreturn]

/-- The files that are read if only one is spoken of. -/
def single (path : String) (status : Status) : List FileChange :=
  if path = "" then [] else [⟨path, status, [], []⟩]

theorem single_eq_iff {path : String} {status : Status} (n : Name) :
    single path status = [⟨listed n, status, [], []⟩] ↔ path = listed n := by
  rw [single]
  split
  · next h => exact iff_of_false nofun fun hp => listed_ne_empty n (hp.symm.trans h)
  · simp

theorem foldlM_cons_of_readHeader {r r' : Reader} {l : List Char} (hr : r.cursor.isOpen = false)
    (h : r.readHeader l = .ok r') (ls : List (List Char)) :
    (l :: ls).foldlM Reader.readLine r = ls.foldlM Reader.readLine r' := by
  rw [List.foldlM_cons, Reader.readLine_of_closed hr, h]
  rfl

theorem readHeader_header {r : Reader} {m n : Name} {path : String}
    (h : filePath? (header m n) = some path) :
    r.readHeader (fileMark ++ header m n) = .ok (r.begin { path }) := by
  rw [readHeader_fileMark, Reader.readFileHeader, h]

theorem parse_stayLines {n : Name} {path : String} (h : filePath? (header n n) = some path) :
    parse (diffOf (stayLines n)) = .ok (single path .modified) := by
  have hlines : ∀ l ∈ stayLines n, IsLine l :=
    List.forall_mem_singleton.2 (isLine_append ⟨by decide, by decide⟩ (isLine_header n n))
  rw [parse_diffOf hlines, stayLines, foldlM_cons_of_readHeader rfl (readHeader_header h)]
  rfl

theorem parse_newLines (n : Name) : parse (diffOf (newLines n)) =
    .ok (single ((sidePath? "b/".toList (side "b/".toList n)).getD "") .added) := by
  have hlines : ∀ l ∈ newLines n, IsLine l := by
    refine List.forall_mem_cons.2 ⟨⟨by decide, by decide⟩, List.forall_mem_singleton.2 ?_⟩
    exact isLine_append ⟨by decide, by decide⟩ (isLine_side (by simp) n)
  have hold : Reader.readHeader {} ("--- ".toList ++ nowhere) =
      .ok { draft := some { path := "", status := .added } } := rfl
  rw [parse_diffOf hlines, newLines, foldlM_cons_of_readHeader rfl hold,
    foldlM_cons_of_readHeader rfl (readHeader_newSide _ _)]
  cases sidePath? "b/".toList (side "b/".toList n) with
  | some path => rfl
  | none => rfl

theorem parse_goneLines (n : Name) : parse (diffOf (goneLines n)) =
    .ok (single ((sidePath? "a/".toList (side "a/".toList n)).getD "") .deleted) := by
  have hlines : ∀ l ∈ goneLines n, IsLine l := by
    refine List.forall_mem_cons.2 ⟨?_, List.forall_mem_singleton.2 ⟨by decide, by decide⟩⟩
    exact isLine_append ⟨by decide, by decide⟩ (isLine_side (by simp) n)
  -- The first of the lines begins the file, since there is none.
  have hold : Reader.readHeader {} ("--- ".toList ++ side "a/".toList n) =
      .ok (Reader.readOldSide {} (side "a/".toList n)) := rfl
  rw [parse_diffOf hlines, goneLines, List.foldlM_cons, Reader.readLine_of_closed rfl, hold,
    Reader.readOldSide]
  cases sidePath? "a/".toList (side "a/".toList n) with
  | some path => rfl
  | none => rfl

/-- The lines about the move correct what the line that begins the file says. -/
theorem parse_movedLines (m n : Name) : parse (diffOf (movedLines m n)) =
    .ok [⟨listed n, .renamed (listed m), [], []⟩] := by
  have hmoved : ∀ l ∈ movedLines m n, IsLine l := by
    refine List.forall_mem_cons.2 ⟨?_, List.forall_mem_cons.2 ⟨?_, List.forall_mem_singleton.2 ?_⟩⟩
    · exact isLine_append ⟨by decide, by decide⟩ (isLine_header m n)
    · exact isLine_append ⟨by decide, by decide⟩ (isLine_quoted (by simp) m.chars)
    · exact isLine_append ⟨by decide, by decide⟩ (isLine_quoted (by simp) n.chars)
  obtain ⟨path, hpath⟩ := exists_filePath?_header m n
  rw [parse_diffOf hmoved, movedLines, foldlM_cons_of_readHeader rfl (readHeader_header hpath),
    foldlM_cons_of_readHeader rfl (readHeader_renameFrom _ m),
    foldlM_cons_of_readHeader rfl (readHeader_renameTo _ n)]
  exact congrArg Except.ok ((single_eq_iff n).2 rfl)

theorem parse_stayLines_iff (n : Name) :
    parse (diffOf (stayLines n)) = .ok [⟨listed n, .modified, [], []⟩] ↔ n.Faithful := by
  obtain ⟨path, hpath⟩ := exists_filePath?_header n n
  rw [← filePath?_header_eq_listed_iff, parse_stayLines hpath, hpath, Option.some.injEq,
    Except.ok.injEq, single_eq_iff]

theorem getD_eq_listed_iff {path : Option String} {n : Name} :
    path.getD "" = listed n ↔ path = some (listed n) := by
  cases path with
  | none => exact iff_of_false (fun h => listed_ne_empty n h.symm) nofun
  | some path => simp

theorem parse_newLines_iff (n : Name) :
    parse (diffOf (newLines n)) = .ok [⟨listed n, .added, [], []⟩] ↔ n.Faithful := by
  rw [parse_newLines, Except.ok.injEq, single_eq_iff, getD_eq_listed_iff]
  exact sidePath?_side_eq_listed_iff (by decide) (by decide) n

theorem parse_goneLines_iff (n : Name) :
    parse (diffOf (goneLines n)) = .ok [⟨listed n, .deleted, [], []⟩] ↔ n.Faithful := by
  rw [parse_goneLines, Except.ok.injEq, single_eq_iff, getD_eq_listed_iff]
  exact sidePath?_side_eq_listed_iff (by decide) (by decide) n

/-! ## Candidates -/

/-- Version control answers that a file is listed, and that the file is touched by
    the diff and remains, and the file is there. -/
structure Touched (w : World) (r : Run) (old : String) (new : Option String) (n : Name) : Prop where
  isFile : w.isFile (Path.join r.root (.ofList n.chars)) = true
  isListed : ∃ tracked others, Git.answer w r.root Git.trackedArgs = .ok tracked ∧
    Git.answer w r.root Git.othersArgs = .ok others ∧
      .ofList (quoted [] n.chars) ∈ tracked.lines ++ others.lines
  isChanged : ∃ (diff : Git.Answer) (patches : List NamedPatch),
    Git.answer w r.root (Git.diffArgs old new) = .ok diff ∧
    lines diff.stdout.toList = (patches.flatMap NamedPatch.lines).map dropReturn ∧
      (∀ p ∈ patches, p.Fits) ∧ ∃ p ∈ patches, p.name = n ∧ p.Remains

section

variable {w : World} {r : Run} {old : String} {new : Option String} {n : Name}

/-- A file with a plain name is among the files under the path that the list gives. -/
theorem exists_files (hn : n.chars.all isPlain = true) (ht : Touched w r old new n) :
    ∃ files, (Git.files w r.root).result = .ok files ∧ listed n ∈ files := by
  obtain ⟨tracked, others, htracked, hothers, hmem⟩ := ht.isListed
  refine ⟨Git.filesOf w r.root (tracked.lines ++ others.lines), ?_, ?_⟩
  · rw [(Git.gives_files w r.root).result_eq, htracked, hothers]
    rfl
  · rw [Git.filesOf, Git.mem_distinct, List.mem_filter]
    exact ⟨List.mem_map_of_mem hmem, listed_of_plain hn ▸ ht.isFile⟩

/-- The diff can be read, and its index has a file with a faithful name. -/
theorem exists_index (hn : n.Faithful) (ht : Touched w r old new n) :
    ∃ i, (Git.index w r.root old new).result = .ok i ∧ i.isSelectable (listed n) = true := by
  obtain ⟨diff, patches, hdiff, hlines, hfits, p, hp, rfl, hremains⟩ := ht.isChanged
  obtain ⟨changes, hparse, htold⟩ := exists_parse hfits hlines
  obtain ⟨f, hf, hpath, hstatus⟩ := htold p hp hremains hn
  refine ⟨Index.ofFiles changes, ?_, ?_⟩
  · have hofDiff : Index.ofDiff diff.stdout = .ok (Index.ofFiles changes) := by
      rw [Index.ofDiff, hparse]
      rfl
    rw [(Git.gives_index w r.root old new).result_eq, hdiff]
    exact mapError_eq_ok_iff.2 hofDiff
  · rw [← hpath]
    exact Index.isSelectable_ofFiles hf (canonical_of_parse hparse f hf).path hstatus

end

/-- The path of a file, as it is read from a diff that is only about that file,
    is the one that the list of files gives for its name exactly if the name is
    faithful, be the file one that stays where it is, a new one, or one that is
    gone. If it was moved, both paths are those of the list for all names. Hence
    every file with a faithful name that is there and listed, and that the diff
    touches and leaves there, is a candidate, whatever the other names are. -/
theorem parse_eq_listed_iff (n : Name) :
    (parse (diffOf (stayLines n)) = .ok [⟨listed n, .modified, [], []⟩] ↔ n.Faithful) ∧
    (parse (diffOf (newLines n)) = .ok [⟨listed n, .added, [], []⟩] ↔ n.Faithful) ∧
    (parse (diffOf (goneLines n)) = .ok [⟨listed n, .deleted, [], []⟩] ↔ n.Faithful) ∧
    (∀ m, parse (diffOf (movedLines m n)) = .ok [⟨listed n, .renamed (listed m), [], []⟩]) ∧
    ∀ w r old new, n.Faithful → r.request = .changes old new → Touched w r old new n →
      ∃ i files, (r.index w).result = .ok (some i, []) ∧
        (Git.files w r.root).result = .ok files ∧
          .ofList n.chars ∈ Run.candidates (some i) files := by
  refine ⟨parse_stayLines_iff n, parse_newLines_iff n, parse_goneLines_iff n,
    fun m => parse_movedLines m n, ?_⟩
  intro w r old new hn hr ht
  obtain ⟨i, hindex, hselectable⟩ := exists_index hn ht
  obtain ⟨files, hfiles, hmem⟩ := exists_files hn.1 ht
  refine ⟨i, files, r.result_index_changes w hr hindex, hfiles, ?_⟩
  rw [← listed_of_plain hn.1]
  exact List.mem_filter.2 ⟨hmem, hselectable⟩

/-- A diff with a new file that is empty. -/
def newPatch (n : Name) : NamedPatch := ⟨n, .added ⟨"100755".toList, by decide⟩, .same⟩

/-- A repository with one file, that is listed and new. -/
def newWorld (n : Name) : World where
  tree := ⟨[(World.names (.ofList n.chars), .file [])]⟩
  program? _ := some fun args _ =>
    .ends (.code 0) (Utf8.encode <|
      if "diff" ∈ args then written (newPatch n).lines
      else if "--cached" ∈ args then quoted [] n.chars ++ ['\n']
      else []) []

/-- A run about what has changed in that repository. -/
def newRun : Run where
  root := "/"
  commonFilter := .all
  failOn := .error
  tasks := []
  request := .changes "main" none
  jobs := 1

/-- A name with blanks, one of them before a directory that could stand for a side. -/
def spacedName : Name where
  chars := "a b/c d.py".toList

theorem parse_eq_listed_iff_spaced :
    spacedName.Faithful ∧ newRun.request = .changes "main" none ∧
      Touched (newWorld spacedName) newRun "main" none spacedName ∧
        ∃ i files, (newRun.index (newWorld spacedName)).result = .ok (some i, []) ∧
          (Git.files (newWorld spacedName) newRun.root).result = .ok files ∧
            .ofList spacedName.chars ∈ Run.candidates (some i) files := by
  have hfaithful : spacedName.Faithful := by decide
  have htouched : Touched (newWorld spacedName) newRun "main" none spacedName := by
    refine ⟨by decide +kernel, ⟨_, _, rfl, rfl, by decide +kernel⟩, ?_⟩
    refine ⟨_, [newPatch spacedName], rfl, by decide +kernel, ?_, ?_⟩
    · exact List.forall_mem_singleton.2 ⟨by decide, by decide⟩
    · refine ⟨_, List.mem_cons_self, rfl, ?_⟩
      rintro mode ⟨⟩
  obtain ⟨-, -, -, -, hcandidate⟩ := parse_eq_listed_iff spacedName
  exact ⟨hfaithful, rfl, htouched, hcandidate _ newRun "main" none hfaithful rfl htouched⟩

/-- A name with a quote in it. -/
def quoteName : Name where
  chars := "a\"b.py".toList

/-- A file with a quote in its name is read from a diff by that name, but the list
    of files gives it in quotes. So it is there, and the diff says that it is new,
    but it is not among the files. -/
theorem files_quote :
    parse (diffOf (stayLines quoteName)) = .ok [⟨"a\"b.py", .modified, [], []⟩] ∧
      listed quoteName = "\"a/\"b.py\"" ∧
        (newWorld quoteName).isFile (Path.join "/" "a\"b.py") = true ∧
          (Git.index (newWorld quoteName) "/" "main" none).result = .ok ⟨[], ["a\"b.py"], []⟩ ∧
            (Git.files (newWorld quoteName) "/").result = .ok [] := by
  refine ⟨?_, ?_, ?_, ?_, ?_⟩ <;> decide +kernel

end Lintscope.Diff.Quoting

import Lintscope.Proofs.Diff.RoundTrip
import Lintscope.Proofs.Except

/-!
# Diffs one behind the other

A line that begins a file begins all anew, in whatever state the reader is: the
file before it is finished, and a hunk that still owes lines is given up. So a
diff behind another one reads as it reads alone, and what is wrong with the
first comes before what is wrong with the second (`parse_append`).

The files that have been read are never looked at again, so that reading does
the same whatever was read before (`Reader.readLine_after`).
-/

namespace Lintscope.Diff

open Text Patch

namespace Reader

/-- The reader with further files read before all others. -/
def after (fs : List FileChange) (r : Reader) : Reader := { r with files := fs ++ r.files }

variable (fs : List FileChange) (r : Reader)

/-! ## Steps -/

theorem finish_after : (r.after fs).finish = fs ++ r.finish := by
  rcases hd : r.draft with _ | d
  · simp [finish, after, hd]
  · by_cases hp : d.path = "" <;> simp [finish, after, hd, hp]

theorem begin_after (d : Draft) : (r.after fs).begin d = (r.begin d).after fs := by
  rw [begin, finish_after]
  rfl

theorem readFileHeader_after (line rest : List Char) :
    (r.after fs).readFileHeader line rest = after fs <$> r.readFileHeader line rest := by
  rw [readFileHeader, readFileHeader]
  cases filePath? rest with
  | none => rfl
  | some path => exact congrArg Except.ok (begin_after fs r { path })

theorem readOldSide_after (rest : List Char) :
    (r.after fs).readOldSide rest = (r.readOldSide rest).after fs := by
  have hdraft : (r.after fs).draft = r.draft := rfl
  rw [readOldSide, readOldSide, hdraft, begin_after]
  -- The line may begin a file, and it may tell that the old side is nowhere.
  split <;> split <;> rfl

theorem readNewSide_after (rest : List Char) :
    (r.after fs).readNewSide rest = (r.readNewSide rest).after fs := by
  rw [readNewSide, readNewSide]
  split <;> rfl

theorem readHunkHeader_after (line : List Char) :
    (r.after fs).readHunkHeader line = after fs <$> r.readHunkHeader line := by
  have hdraft : (r.after fs).draft = r.draft := rfl
  rw [readHunkHeader, readHunkHeader, hdraft]
  split <;> rfl

theorem readHeader_after (line : List Char) :
    (r.after fs).readHeader line = after fs <$> r.readHeader line := by
  rw [readHeader, readHeader]
  -- One case for each kind of header, in the order in which they are tried.
  split
  · exact readFileHeader_after fs r line _
  split
  · exact congrArg Except.ok (readOldSide_after fs r _)
  split
  · exact congrArg Except.ok (readNewSide_after fs r _)
  split
  · exact readHunkHeader_after fs r line
  split
  · rfl
  split
  · rfl
  split
  · rfl
  split <;> rfl

/-- What a line does to the reader does not depend on the files read before. -/
theorem readLine_after (line : List Char) :
    (r.after fs).readLine line = after fs <$> r.readLine line := by
  have hdraft : (r.after fs).draft = r.draft := rfl
  have hcursor : (r.after fs).cursor = r.cursor := rfl
  rw [readLine, readLine, hdraft, hcursor]
  -- A line is content of a hunk that owes lines, or else a header.
  split
  · split
    · split
      · rfl
      · exact readHeader_after fs r line
    · exact readHeader_after fs r line
  · exact readHeader_after fs r line

theorem foldlM_after (ls : List (List Char)) :
    ls.foldlM readLine (r.after fs) = after fs <$> ls.foldlM readLine r :=
  foldlM_map (readLine_after fs) ls r

/-! ## A new file -/

/-- No line that begins a file is content, also where a hunk owes lines. -/
theorem readLine_fileMark (rest : List Char) :
    r.readLine (fileMark ++ rest) = r.readFileHeader (fileMark ++ rest) rest := by
  rw [← readHeader_fileMark, readLine]
  split
  · next d _ =>
    have hcontent : readContent? r.cursor d (fileMark ++ rest) = none := rfl
    rw [hcontent, ite_self]
  · rfl

/-- A line that begins a file keeps nothing of the reader but its files. -/
theorem readFileHeader_eq_after (line rest : List Char) :
    r.readFileHeader line rest = after r.finish <$> ({} : Reader).readFileHeader line rest := by
  rw [readFileHeader, readFileHeader]
  cases filePath? rest with
  | none => rfl
  | some path => simp [begin, after, finish]

/-- Lines of which the first begins a file are read as by a new reader. -/
theorem foldlM_cons_fileMark (rest : List Char) (ls : List (List Char)) :
    ((fileMark ++ rest) :: ls).foldlM readLine r =
      after r.finish <$> ((fileMark ++ rest) :: ls).foldlM readLine {} := by
  rw [List.foldlM_cons, List.foldlM_cons, readLine_fileMark, readLine_fileMark,
    readFileHeader_eq_after]
  cases ({} : Reader).readFileHeader (fileMark ++ rest) rest with
  | error e => rfl
  | ok r' => exact foldlM_after r.finish r' ls

end Reader

/-- The lines of a text that starts as the line that begins a file are none, or
    the first of them begins a file. -/
theorem foldlM_lines_of_fileMark {s : List Char} (hs : s = [] ∨ ∃ t, s = fileMark ++ t)
    (r : Reader) :
    Reader.finish <$> (lines s).foldlM Reader.readLine r =
      (r.finish ++ ·) <$> Reader.finish <$> (lines s).foldlM Reader.readLine {} := by
  rcases hs with rfl | ⟨t, rfl⟩
  · exact congrArg Except.ok (List.append_nil r.finish).symm
  · have hne : fileMark ≠ [] := by decide
    have hreturn : fileMark.getLast? ≠ some '\r' := by decide
    obtain ⟨rest, ls, hlines⟩ := exists_lines_append hne (by decide) hreturn t
    rw [hlines, Reader.foldlM_cons_fileMark]
    cases ((fileMark ++ rest) :: ls).foldlM Reader.readLine {} with
    | error e => rfl
    | ok r' => exact congrArg Except.ok (Reader.finish_after r.finish r')

/-- A text that is empty or ends with a newline, and behind it a text that is
    empty or starts as the line that begins a file, are read one after the other:
    if the first is no diff, that is what is wrong with both together, and the
    same holds of the second; else the files of the first come before those of
    the second. The first may break off anywhere, also inside a hunk. -/
theorem parse_append {d₁ d₂ : String} (h₁ : d₁ = "" ∨ ∃ s, d₁ = s ++ "\n")
    (h₂ : d₂ = "" ∨ ∃ s, d₂ = "diff --git " ++ s) :
    parse (d₁ ++ d₂) =
      match parse d₁, parse d₂ with
      | .error e, _ => .error e
      | .ok _, .error e => .error e
      | .ok fs, .ok gs => .ok (fs ++ gs) := by
  have hlines : lines (d₁ ++ d₂).toList = lines d₁.toList ++ lines d₂.toList := by
    rw [String.toList_append]
    rcases h₁ with rfl | ⟨s, rfl⟩
    · rfl
    · rw [String.toList_append]
      exact lines_append_newline s.toList d₂.toList
  have hmark : d₂.toList = [] ∨ ∃ t, d₂.toList = fileMark ++ t := by
    rcases h₂ with rfl | ⟨s, rfl⟩
    · exact .inl rfl
    · exact .inr ⟨s.toList, String.toList_append⟩
  rw [parse, parse, parse, hlines, List.foldlM_append]
  cases (lines d₁.toList).foldlM Reader.readLine {} with
  | error e => rfl
  | ok r =>
    refine (foldlM_lines_of_fileMark hmark r).trans ?_
    cases (lines d₂.toList).foldlM Reader.readLine {} <;> rfl

/-- A diff that breaks off in a hunk of three lines, after one of them. -/
def brokenOff : String := "diff --git a/a.py b/a.py\n@@ -1,3 +1,3 @@\n-x\n"

/-- A diff of a new file. -/
def newcomer : String := "diff --git a/b.py b/b.py\nnew file mode 100644\n--- /dev/null\n+++ b/b.py\n"

theorem parse_append_brokenOff :
    (brokenOff = "" ∨ ∃ s, brokenOff = s ++ "\n") ∧
      (newcomer = "" ∨ ∃ s, newcomer = "diff --git " ++ s) ∧
        parse (brokenOff ++ newcomer) =
          .ok [⟨"a.py", .modified, [], [⟨1, 3⟩]⟩, ⟨"b.py", .added, [], []⟩] := by
  have h₁ : brokenOff = "" ∨ ∃ s, brokenOff = s ++ "\n" :=
    .inr ⟨"diff --git a/a.py b/a.py\n@@ -1,3 +1,3 @@\n-x", rfl⟩
  have h₂ : newcomer = "" ∨ ∃ s, newcomer = "diff --git " ++ s :=
    .inr ⟨"a/b.py b/b.py\nnew file mode 100644\n--- /dev/null\n+++ b/b.py\n", rfl⟩
  have hp₁ : parse brokenOff = .ok [⟨"a.py", .modified, [], [⟨1, 3⟩]⟩] := by decide +kernel
  have hp₂ : parse newcomer = .ok [⟨"b.py", .added, [], []⟩] := by decide +kernel
  refine ⟨h₁, h₂, ?_⟩
  rw [parse_append h₁ h₂, hp₁, hp₂]
  rfl

end Lintscope.Diff

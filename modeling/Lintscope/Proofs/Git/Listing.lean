import Lintscope.Proofs.Git.Files
import Lintscope.Proofs.Text.Cut
import Lintscope.Proofs.World

/-!
# How the files of a repository are listed

If version control answers both times, the list of files is a function of the
lines that it has printed and of the file tree: the canonical forms of the lines
that name a file, each once, in the order in which they are first printed
(`Git.files_of_ends`). Lines that are blank, repeated, or about a file that is
gone make no difference, nor does it matter where the blank lines stand
(`Git.files_of_prints`).
-/

namespace Lintscope

namespace Git

/-! ## The first of each kind -/

theorem distinct_concat (names : List String) (name : String) :
    distinct (names ++ [name]) =
      if name ∈ names then distinct names else distinct names ++ [name] := by
  rw [distinct, List.foldl_append, ← distinct, List.foldl_cons, List.foldl_nil]
  simp only [mem_distinct]

theorem distinct_filter (p : String → Bool) (names : List String) :
    distinct (names.filter p) = (distinct names).filter p := by
  induction names using List.reverseRecOn with
  | nil => rfl
  | append_singleton names name ih =>
    rw [List.filter_append, distinct_concat]
    cases hp : p name with
    | true =>
      rw [List.filter_cons_of_pos hp, List.filter_nil, distinct_concat, ih]
      by_cases hmem : name ∈ names <;> simp [hmem, hp]
    | false =>
      rw [List.filter_cons_of_neg (by simp [hp]), List.filter_nil, List.append_nil, ih]
      by_cases hmem : name ∈ names <;> simp [hmem, hp]

/-- The names that are kept come in the order of their first places. -/
theorem pairwise_idxOf_distinct (names : List String) :
    (distinct names).Pairwise fun a b => names.idxOf a < names.idxOf b := by
  induction names using List.reverseRecOn with
  | nil => exact List.Pairwise.nil
  | append_singleton names name ih =>
    have hfirst : ∀ a ∈ distinct names, (names ++ [name]).idxOf a = names.idxOf a :=
      fun a ha => List.idxOf_append_of_mem (mem_distinct.1 ha)
    have hlead : (distinct names).Pairwise fun a b =>
        (names ++ [name]).idxOf a < (names ++ [name]).idxOf b := by
      refine ih.imp_of_mem fun {a b} ha hb hlt => ?_
      rwa [hfirst a ha, hfirst b hb]
    rw [distinct_concat]
    split
    · exact hlead
    · next hnew =>
      refine List.pairwise_append.2 ⟨hlead, List.pairwise_singleton _ _, fun a ha b hb => ?_⟩
      obtain rfl := List.mem_singleton.1 hb
      rw [hfirst a ha, List.idxOf_append_of_notMem hnew]
      have hlt : names.idxOf a < names.length := List.idxOf_lt_length_of_mem (mem_distinct.1 ha)
      exact Nat.lt_of_lt_of_le hlt (Nat.le_add_right _ _)

/-! ## The list -/

/-- Some files are those that printed lines name: a canonical path is among them
    exactly if some line spells it and a file is there, no path is twice among
    them, and they come in the order of the first lines that spell them. A path
    that is relative and does not go up leads below the place of the directory. -/
structure Lists (w : World) (directory : String) (place printed files : List String) : Prop where
  mem_iff : ∀ path, path ∈ files ↔
    w.isFile (Path.join directory path) = true ∧ ∃ line ∈ printed, Path.canonical line = path
  nodup : files.Nodup
  ordered : files.Pairwise fun a b =>
    (printed.map Path.canonical).idxOf a < (printed.map Path.canonical).idxOf b
  below : ∀ path ∈ files, Text.startsWith ['/'] path.toList = false → ".." ∉ World.names path →
    ∃ below item, w.find w.workplace (Path.join directory path) = .ok (place ++ below, item)

section

variable {w : World} {directory : String} {place : List String}

theorem lists_filesOf (hplace : w.find w.workplace directory = .ok (place, .directory))
    (printed : List String) : Lists w directory place printed (filesOf w directory printed) where
  mem_iff path := by
    rw [filesOf, mem_distinct, List.mem_filter, List.mem_map, and_comm]
  nodup := nodup_distinct _
  ordered := by
    rw [filesOf, distinct_filter]
    exact (pairwise_idxOf_distinct _).filter _
  below path hpath hrelative hup := by
    rw [filesOf, mem_distinct, List.mem_filter] at hpath
    obtain ⟨r, hr, -⟩ := World.exists_find_of_isFile hpath.2
    obtain ⟨below, hbelow⟩ := World.prefix_of_find_join hplace hrelative hup hr
    exact ⟨below, r.2, by rw [hr, hbelow]⟩

/-- Only what a directory is there for can be called in it. -/
theorem exists_find_of_launched {args : List String} {b : World.Behaviour}
    (h : (launched w directory args).result = .ok b) :
    ∃ place, w.find w.workplace directory = .ok (place, .directory) := by
  change w.call directory _ = .ok b at h
  rw [World.call] at h
  split at h
  · cases h
  · split at h
    · cases h
    · next place hplace => exact ⟨place, hplace⟩
    · cases h

end

section

variable {w : World} {directory : String} {cached others err err' : List UInt8}
  (hcached : (launched w directory trackedArgs).result = .ok (.ends (.code 0) cached err))
  (hothers : (launched w directory othersArgs).result = .ok (.ends (.code 0) others err'))
include hcached hothers

theorem result_files_of_ends : (Git.files w directory).result = .ok (filesOf w directory
    ((Answer.ofOutputs cached err).lines ++ (Answer.ofOutputs others err').lines)) := by
  rw [(gives_files w directory).result_eq, answer, answer, hcached, hothers]
  rfl

end

/-- A repository below the top, with a file that is printed under two spellings
    and several times. -/
def mergingWorld : World where
  tree := ⟨[(["r", "a.py"], .file []), (["r", "lib", "b.py"], .file []), (["c.py"], .file [])]⟩
  program? _ := some fun args _ =>
    .ends (.code 0) (Utf8.encode <|
      if "--cached" ∈ args then "lib\\b.py\n\n./a.py\na.py\ngone.py\na.py\n\n".toList
      else "./././lib/b.py\r\nlib\na.py".toList) []

example : (Git.files mergingWorld "/r").result = .ok ["lib/b.py", "a.py"] := by decide +kernel

/-! ## Blank lines -/

/-- A directory is no file, also when its path has a slash at its end. -/
theorem isFile_join_empty {w : World} {directory : String} {place : List String}
    (hplace : w.find w.workplace directory = .ok (place, .directory)) :
    w.isFile (Path.join directory "") = false := by
  rw [← Bool.not_eq_true]
  intro h
  obtain ⟨r, hr, hfile⟩ := World.exists_find_of_isFile h
  have hnames : World.names "" = [""] := by decide
  rw [World.find_join_eq_ok_iff hplace rfl, hnames, World.Tree.follow_cons_eq_ok_iff,
    World.Tree.follow_nil_eq_ok_iff, World.Tree.next, if_pos (.inl rfl)] at hr
  exact hfile (Option.some.inj (hr.2.1.symm.trans hr.1))

/-- Files are listed in a directory, so the path of that directory is none of theirs. -/
theorem ne_empty_of_mem_files {w : World} {directory : String} {files : List String}
    (h : (Git.files w directory).result = .ok files) : ∀ name ∈ files, name ≠ "" := by
  rw [(gives_files w directory).result_eq, bind_eq_ok_iff] at h
  obtain ⟨tracked, htracked, h⟩ := h
  obtain ⟨others, -, h⟩ := bind_eq_ok_iff.1 h
  cases h
  obtain ⟨b, hb⟩ : ∃ b, (launched w directory trackedArgs).result = .ok b := by
    rw [answer] at htracked
    split at htracked
    · cases htracked
    · exact ⟨_, ‹_›⟩
    · exact ⟨_, ‹_›⟩
  obtain ⟨place, hplace⟩ := exists_find_of_launched hb
  rintro name hname rfl
  have hfile := ((lists_filesOf hplace _).mem_iff "").1 hname
  exact Bool.false_ne_true ((isFile_join_empty hplace).symm.trans hfile.1)

/-- A program prints some lines: it ends each of them, and no other character
    can be taken for a part of the end. -/
def Prints (out : List UInt8) (ls : List (List Char)) : Prop :=
  Utf8.decodeLossy out = Text.written ls ∧ ∀ l ∈ ls, '\n' ∉ l ∧ l.getLast? ≠ some '\r'

/-- Of the lines that are printed only blank ones at the end are lost. -/
theorem exists_lines_append_replicate {out : List UInt8} {ls : List (List Char)}
    (h : Prints out ls) (err : List UInt8) : ∃ k,
      ls.map String.ofList = (Answer.ofOutputs out err).lines ++ List.replicate k "" := by
  obtain ⟨hout, hls⟩ := h
  simp only [Answer.lines, Answer.ofOutputs, hout, String.toList_ofList]
  clear hout
  induction ls using List.reverseRecOn with
  | nil => exact ⟨0, rfl⟩
  | append_singleton ls l ih =>
    rw [List.forall_mem_append, List.forall_mem_singleton] at hls
    obtain ⟨hls, hnewline, hreturn⟩ := hls
    have hcut : Text.dropEndWhile endsLine (Text.written (ls ++ [l])) =
        Text.dropEndWhile endsLine (Text.written ls ++ l) := by
      rw [Text.written, List.flatMap_append, ← Text.written, List.flatMap_singleton,
        ← List.append_assoc, Text.dropEndWhile_concat, if_pos (by decide)]
    rw [hcut]
    rcases List.eq_nil_or_concat l with rfl | ⟨s, c, rfl⟩
    · obtain ⟨k, hk⟩ := ih hls
      refine ⟨k + 1, ?_⟩
      rw [List.append_nil, List.map_append, hk, List.replicate_succ', List.append_assoc]
      rfl
    · rw [List.concat_eq_append] at hnewline hreturn ⊢
      have hc : endsLine c = false := by
        have hne : c ≠ '\n' := fun heq => hnewline (by simp [heq])
        have hne' : c ≠ '\r' := fun heq => hreturn (by simp [heq])
        simp [endsLine, hne, hne']
      have hsame : ls.map Text.dropReturn = ls :=
        (List.map_congr_left fun l hl => Text.dropReturn_of_getLast? (hls l hl).2).trans
          (List.map_id' ls)
      refine ⟨0, ?_⟩
      rw [← List.append_assoc, Text.dropEndWhile_concat, hc, if_neg Bool.false_ne_true,
        List.append_assoc, Text.lines_written_append fun l hl => (hls l hl).1, hsame,
        Text.lines_of_newline_not_mem (by simp) hnewline]
      simp

/-- The blank lines make no difference, wherever they are: also those at the end
    of the first output, which are not there any more when it is read. -/
theorem files_of_prints {w : World} {directory : String} {cached others err err' : List UInt8}
    {tracked new : List (List Char)}
    (hcached : (launched w directory trackedArgs).result = .ok (.ends (.code 0) cached err))
    (hothers : (launched w directory othersArgs).result = .ok (.ends (.code 0) others err'))
    (htracked : Prints cached tracked) (hnew : Prints others new) :
    (Git.files w directory).result =
      .ok (filesOf w directory ((tracked ++ new).map String.ofList)) := by
  obtain ⟨place, hplace⟩ := exists_find_of_launched hcached
  obtain ⟨k, hk⟩ := exists_lines_append_replicate htracked err
  obtain ⟨k', hk'⟩ := exists_lines_append_replicate hnew err'
  have hblank : ∀ n, ((List.replicate n "").map Path.canonical).filter
      (fun path => w.isFile (Path.join directory path)) = [] := by
    intro n
    have hcanonical : Path.canonical "" = "" := by decide
    rw [List.map_replicate, hcanonical, List.filter_replicate_of_neg]
    rw [isFile_join_empty hplace]
    exact Bool.false_ne_true
  rw [result_files_of_ends hcached hothers, filesOf, filesOf, List.map_append (f := String.ofList),
    hk, hk']
  simp only [List.map_append, List.filter_append, hblank, List.append_nil]

end Git

end Lintscope

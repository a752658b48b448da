import Lintscope.Proofs.Settings.Part

/-!
# Selections

A selection fails if it names a task that there is not, whatever part it takes. Else it
holds the tasks that meet what it asks for, in the order of the settings, and the parts
of a count share them out (`Part.Shares`): no task is left out and none is done twice,
and the parts are as long as one another, but for one task (`Selection.shares_of`).
-/

namespace Lintscope

/-! ## Parts -/

namespace Part

/-- Some lists, one for each part of a count, share out the items of a list. -/
structure Shares {α : Type} (count : Nat) (lists : Part → List α) (items : List α) : Prop where
  /-- Each list has every item that is a number of counts behind its first one. -/
  item : ∀ p : Part, p.count = count → ∀ n, (lists p)[n]? = items[p.place n]?
  /-- Each place is the place of one item in one of the lists. -/
  place : ∀ k, ∃! a : Part × Nat, a.1.count = count ∧ a.1.place a.2 = k
  /-- Each list has its items in their order. -/
  sublist : ∀ p : Part, p.count = count → (lists p).Sublist items
  /-- All lists together have each item as often as it is there. -/
  perm : ((all count).flatMap lists).Perm items
  /-- No list is longer than another one by more than an item. -/
  length_le : ∀ p q : Part, p.count = count → q.count = count →
    (lists p).length ≤ (lists q).length + 1

/-- What the parts of a count hold is shared out among them. -/
theorem shares {α : Type} {count : Nat} (h : 0 < count) (items : List α) :
    Shares count (fun p => p.of items) items where
  item p _ := p.getElem?_of items
  place := existsUnique_place h
  sublist p _ := p.sublist_of items
  perm := perm_flatMap_of h items
  length_le _ _ hp hq := length_of_le (hp.trans hq.symm) items

/-- There is a part for each index from one up to the count. -/
theorem exists_make_iff {index count : Nat} :
    (∃ p, make index count = .ok p) ↔ 0 < index ∧ index ≤ count := by
  rw [make]
  split
  · next h => exact iff_of_true ⟨_, rfl⟩ h
  · next h =>
    refine iff_of_false ?_ h
    rintro ⟨p, hp⟩
    cases hp

end Part

/-! ## Selections -/

namespace Selection

variable {s : Selection} {tasks : List Task}

/-- A selection fails if it names a task that is not there. -/
theorem exists_of_eq_error_iff :
    (∃ e, s.of tasks = .error e) ↔ ∃ name ∈ s.names, name ∉ tasks.map Task.id := by
  constructor
  · rintro ⟨e, he⟩
    by_contra hnone
    push Not at hnone
    rw [of_eq_ok hnone] at he
    cases he
  · rintro ⟨name, hname, hnot⟩
    cases hfind : s.names.find? (· ∉ tasks.map Task.id) with
    | none => exact absurd (decide_eq_true hnot) (List.find?_eq_none.1 hfind name hname)
    | some first => exact ⟨_, by rw [of, hfind]⟩

/-- It fails in the same way whatever part it takes. -/
theorem of_part_eq_error {e : Error} (h : s.of tasks = .error e) (part : Option Part) :
    { s with part }.of tasks = .error e := by
  cases hfind : s.names.find? (· ∉ tasks.map Task.id) with
  | none =>
    rw [of, hfind] at h
    cases h
  | some name =>
    rw [of, hfind] at h
    simpa only [of, hfind] using h

theorem admits_iff {t : Task} :
    s.admits t = true ↔ (s.names = [] ∨ t.id ∈ s.names) ∧ (∀ l ∈ s.language, t.language = l) ∧
      ∀ y ∈ s.style, t.style = y := by
  have hall : ∀ {α : Type} [DecidableEq α] (o : Option α) (a : α),
      o.all (· = a) = true ↔ ∀ b ∈ o, a = b := by
    intro α _ o a
    cases o <;> simp [eq_comm]
  rw [admits, Bool.and_eq_true, Bool.and_eq_true, Bool.or_eq_true, List.isEmpty_iff,
    decide_eq_true_iff, hall, hall, and_assoc]

/-- It does not matter how often and in what order names are given. -/
theorem admits_congr {s' : Selection} (hnames : ∀ name, name ∈ s'.names ↔ name ∈ s.names)
    (hlanguage : s'.language = s.language) (hstyle : s'.style = s.style) :
    s'.admits = s.admits := by
  funext t
  have hnil : s'.names = [] ↔ s.names = [] := by
    simp only [List.eq_nil_iff_forall_not_mem, hnames]
  rw [Bool.eq_iff_iff, admits_iff, admits_iff, hnil, hnames, hlanguage, hstyle]

/-- A selection without a part fails if it names a task that is not there, and so it does
    with any part. Else it holds the tasks that meet what it asks for, however often and
    in whatever order it names them, and with the parts of a count it shares them out.
    There is a part for each index from one up to the count; so no part has a count or an
    index of zero, and it holds every place that is a number of counts behind its first. -/
theorem shares_of (s : Selection) (tasks : List Task) {count : Nat} (hcount : 0 < count) :
    ((∃ e, { s with part := none }.of tasks = .error e) ↔
      ∃ name ∈ s.names, name ∉ tasks.map Task.id) ∧
    (∀ e, { s with part := none }.of tasks = .error e →
      ∀ p, { s with part := some p }.of tasks = .error e) ∧
    (∀ chosen, { s with part := none }.of tasks = .ok chosen →
      chosen = tasks.filter (fun t => (s.names = [] ∨ t.id ∈ s.names) ∧
        (∀ l ∈ s.language, t.language = l) ∧ ∀ y ∈ s.style, t.style = y) ∧
      (∀ names, (∀ name, name ∈ names ↔ name ∈ s.names) →
        { s with names, part := none }.of tasks = .ok chosen) ∧
      ∃ lists : Part → List Task,
        (∀ p, { s with part := some p }.of tasks = .ok (lists p)) ∧
          Part.Shares count lists chosen) ∧
    (∀ index total, (∃ p, Part.make index total = .ok p) ↔ 0 < index ∧ index ≤ total) ∧
    ∀ p : Part, ((∃ index total, Part.make index total = .ok p) ∨ ∃ text, Part.parse text = .ok p) →
      0 < p.count ∧ 0 < p.index ∧
        ∀ k, p.holds k = true ↔ ∃ n, k + 1 = p.index + n * p.count := by
  refine ⟨exists_of_eq_error_iff, fun e he p => of_part_eq_error he (some p),
    fun chosen hchosen => ?_, fun _ _ => Part.exists_make_iff,
    fun p _ => ⟨p.pos.trans_le p.le, p.pos, fun _ => p.holds_iff⟩⟩
  -- What is selected names no task that is not there, so it selects by the criteria alone.
  have hnames : ∀ name ∈ s.names, name ∈ tasks.map Task.id := by
    by_contra hnot
    push Not at hnot
    obtain ⟨e, he⟩ := exists_of_eq_error_iff (s := { s with part := none }).2 hnot
    rw [hchosen] at he
    cases he
  have hfilter : chosen = tasks.filter s.admits :=
    Except.ok.inj (hchosen.symm.trans (of_eq_ok (s := { s with part := none }) hnames))
  refine ⟨?_, fun names hsame => ?_, fun p => p.of chosen, fun p => ?_, Part.shares hcount chosen⟩
  · rw [hfilter]
    exact List.filter_congr fun t _ => by rw [Bool.eq_iff_iff, admits_iff, decide_eq_true_iff]
  · rw [of_eq_ok fun name hname => hnames name ((hsame name).1 hname), hfilter]
    exact congrArg (Except.ok <| tasks.filter ·) (admits_congr hsame rfl rfl)
  · rw [hfilter]
    exact of_eq_ok (s := { s with part := some p }) hnames

/-- Three linters as they are by default. -/
def threeTasks : List Task :=
  [⟨"flake8", Linter.flake8.filter, none, .flake8 none⟩,
    ⟨"cpplint", Linter.cpplint.filter, none, .cpplint {}⟩,
    ⟨"pylint", Linter.pylint.filter, none, .pylint none⟩]

/-- Two of them, one of which is named twice. -/
def namedSelection : Selection := { names := ["pylint", "flake8", "pylint"] }

/-- Four parts share out two tasks. -/
theorem shares_of_named :
    ∃ chosen lists, namedSelection.of threeTasks = .ok chosen ∧ Part.Shares 4 lists chosen ∧
      chosen.map Task.id = ["flake8", "pylint"] ∧
        (Part.all 4).map (fun p => (lists p).map Task.id) = [["flake8"], ["pylint"], [], []] := by
  have hnames : ∀ name ∈ namedSelection.names, name ∈ threeTasks.map Task.id := by decide
  have hchosen := of_eq_ok (s := namedSelection) hnames
  obtain ⟨-, -, hshares, -, -⟩ := shares_of namedSelection threeTasks (Nat.succ_pos 3)
  obtain ⟨-, -, lists, hlists, hshared⟩ := hshares _ hchosen
  refine ⟨_, lists, hchosen, hshared, by decide +kernel, ?_⟩
  have hpart (p : Part) : lists p = p.of (threeTasks.filter namedSelection.admits) :=
    Except.ok.inj ((hlists p).symm.trans
      (of_eq_ok (s := { namedSelection with part := some p }) hnames))
  simp only [hpart]
  decide +kernel

end Selection

end Lintscope

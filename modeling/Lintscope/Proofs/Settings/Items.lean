import Lintscope.Proofs.Settings.Options
import Lintscope.Proofs.Settings.Part
import Lintscope.Proofs.Yaml.Reading

/-!
# Settings that are accepted

If a text is read as settings, then each item of its list of linters has become one
task, in the same order, and nothing that an item says is passed over: what the task is
follows from the entries of the item (`Task.Follows`), and these are options of its
linter, the rules for its files and its time limit. The settings as a whole have a
task, no two tasks go by the same name, and some linter may work
(`Settings.tasks_of_parse`).
-/

namespace Lintscope

open Yaml (Value Document Node Reading)

/-! ## Items -/

/-- An item of the list of linters names one of them, by itself or as the key of its
    options, which may be left out. -/
def Yaml.Value.Names (item : Value) (id : String) (entries : List (Value × Value)) : Prop :=
  (item = .text id ∧ entries = []) ∨
    ∃ key, key.text? = some id ∧
      ((item = .mapping [(key, .null)] ∧ entries = []) ∨ item = .mapping [(key, .mapping entries)])

namespace Task

open Settings

/-- What a task with a custom linter has to do with the entries that it is given by. -/
structure IsCustom (t : Task) (o : CustomOptions) (entries : List (Value × Value)) : Prop where
  /-- The task goes by the name that is given, without the blanks around it. -/
  id : ∃ v, Value.HasEntry entries "name" v ∧ v.text? = some o.name ∧
    t.id.toList = Text.trim o.name.toList
  /-- The name is a word. -/
  word : t.id ≠ "" ∧ ∀ c ∈ t.id.toList, Text.isBlank c = false
  /-- No linter goes by the name. -/
  free : ∀ l : Linter, t.id ≠ l.id
  /-- The command is the given one, and names a program. -/
  command : ∃ v, Value.HasEntry entries "command" v ∧ v.text? = some o.command ∧
    ∃ command, Shell.Command.parse o.command = .ok command
  /-- The pattern is the given one, and names the two groups that it must. -/
  pattern : ∃ v text, Value.HasEntry entries "pattern" v ∧ v.text? = some text ∧
    OutputPattern.parse text = .ok o.pattern ∧
      "path" ∈ o.pattern.regex.names ∧ "text" ∈ o.pattern.regex.names

/-- What a task has to do with the linter that an item names and the entries that it
    gives. -/
structure Follows (t : Task) (l : Linter) (entries : List (Value × Value)) : Prop where
  /-- The linter is the one that is named. -/
  linter : t.linter = l
  /-- Each key is the name of something that can be set. -/
  keys : ∀ e ∈ entries, ∃ name ∈ "filefilter" :: "timeout_seconds" :: l.optionNames,
    e.1.text? = some name
  /-- Nothing is set twice. -/
  nodup : (entries.map (·.1.text?)).Nodup
  /-- The filter is that of the given rules, or of the rules of the linter. -/
  filter : (∃ v rules, Value.HasEntry entries "filefilter" v ∧ v.IsTexts rules ∧
      Filter.parse rules = .ok t.filter) ∨
    (∀ v, ¬Value.HasEntry entries "filefilter" v) ∧ Filter.parse l.rules = .ok t.filter
  /-- The limit is the given one, at least one second, or there is none. -/
  timeout : (∃ v seconds, Value.HasEntry entries "timeout_seconds" v ∧
      v.untagged = .integer (seconds : Nat) ∧ 1 ≤ seconds ∧ t.timeout = some seconds) ∨
    (∀ v, Value.HasEntry entries "timeout_seconds" v → v = .null) ∧ t.timeout = none
  /-- A task goes by the name of its linter, unless that is a custom one. -/
  id : (∀ o, t.options ≠ .custom o) → t.id = l.id
  /-- A custom linter has options of its own. -/
  custom : ∀ o, t.options = .custom o → t.IsCustom o entries

theorem names_of_splitItem {item options : Value} {id : String}
    (h : splitItem item = .ok (id, options)) {entries : List (Value × Value)}
    (hoptions : options = .null ∧ entries = [] ∨ options = .mapping entries) :
    item.Names id entries := by
  rw [splitItem.eq_def] at h
  split at h
  · cases h
    rcases hoptions with ⟨-, rfl⟩ | hoptions
    · exact .inl ⟨rfl, rfl⟩
    · cases hoptions
  · next key _ =>
    split at h
    · next hkey =>
      cases h
      refine .inr ⟨key, hkey, ?_⟩
      rcases hoptions with ⟨rfl, rfl⟩ | rfl
      · exact .inl ⟨rfl, rfl⟩
      · exact .inr rfl
    · cases h
  · cases h

theorem filter_of_readFilter {l : Linter} {v : Value} {f : Filter}
    (h : readFilter l (some v) = .ok f) : ∃ rules, v.IsTexts rules ∧ Filter.parse rules = .ok f := by
  obtain ⟨rules, hrules, h⟩ := bind_eq_ok_iff.1 h
  exact ⟨rules, isTexts_of_list (mapError_eq_ok_iff.1 hrules), mapError_eq_ok_iff.1 h⟩

theorem untagged_of_natural64 {v : Value} {n : Nat} (h : natural64 v = .ok n) :
    v.untagged = .integer n := by
  obtain ⟨m, hm, rfl⟩ := map_eq_ok_iff.1 h
  rw [number] at hm
  split at hm
  · next heq =>
    split at hm
    · next hbounds =>
      cases hm
      rw [heq, Int.toNat_of_nonneg hbounds.1]
    · cases hm
  · cases hm

theorem timeout_of_readTimeout {v : Value} {timeout : Option Nat}
    (h : readTimeout (some v) = .ok timeout) :
    (∃ seconds : Nat, v.untagged = .integer seconds ∧ 1 ≤ seconds ∧ timeout = some seconds) ∨
      v = .null ∧ timeout = none := by
  rw [readTimeout.eq_def] at h
  split at h
  · next heq => cases heq
  · next heq =>
    cases heq
    cases h
    exact .inr ⟨rfl, rfl⟩
  · next v' _ heq =>
    cases heq
    obtain ⟨seconds, hseconds, h⟩ := bind_eq_ok_iff.1 h
    split at h
    · cases h
    · next hpos =>
      cases h
      exact .inl ⟨seconds, untagged_of_natural64 (mapError_eq_ok_iff.1 hseconds),
        Nat.one_le_iff_ne_zero.2 hpos, rfl⟩

theorem id_of_readName {l : Linter} {o : Options} {id : String} (h : readName l o = .ok id)
    (ho : ∀ o', o ≠ .custom o') : id = l.id := by
  cases o with
  | custom o' => exact absurd rfl (ho o')
  | _ =>
    cases h
    rfl

theorem word_of_readName {l : Linter} {o : CustomOptions} {id : String}
    (h : readName l (.custom o) = .ok id) :
    id.toList = Text.trim o.name.toList ∧ (id ≠ "" ∧ ∀ c ∈ id.toList, Text.isBlank c = false) ∧
      (∀ l : Linter, id ≠ l.id) ∧ ∃ command, Shell.Command.parse o.command = .ok command := by
  rw [readName] at h
  dsimp only at h
  split at h
  · cases h
  next hword =>
  split at h
  · cases h
  next hfree =>
  obtain ⟨command, hcommand, h⟩ := bind_eq_ok_iff.1 h
  cases h
  rw [not_or] at hword
  refine ⟨String.toList_ofList, ⟨?_, ?_⟩, ?_, command, mapError_eq_ok_iff.1 hcommand⟩
  · intro hempty
    have hlist := congrArg String.toList hempty
    rw [String.toList_ofList] at hlist
    exact hword.1 (List.isEmpty_iff.2 hlist)
  · intro c hc
    rw [String.toList_ofList] at hc
    exact Bool.eq_false_iff.2 fun hblank => hword.2 (List.any_eq_true.2 ⟨c, hc, hblank⟩)
  · rintro l hl
    rw [hl, Linter.ofId?_id] at hfree
    exact hfree rfl

section

variable {l : Linter} {entries : List (Value × Value)}

theorem filter_of_given {given : Option Value} {f : Filter}
    (hgiven : ∀ v, Value.HasEntry entries "filefilter" v ↔ given = some v)
    (h : readFilter l given = .ok f) :
    (∃ v rules, Value.HasEntry entries "filefilter" v ∧ v.IsTexts rules ∧
        Filter.parse rules = .ok f) ∨
      (∀ v, ¬Value.HasEntry entries "filefilter" v) ∧ Filter.parse l.rules = .ok f := by
  cases given with
  | none =>
    cases h
    refine .inr ⟨fun v hv => ?_, l.parse_rules⟩
    cases (hgiven v).1 hv
  | some v =>
    obtain ⟨rules, hrules, hparse⟩ := filter_of_readFilter h
    exact .inl ⟨v, rules, (hgiven v).2 rfl, hrules, hparse⟩

theorem timeout_of_given {given : Option Value} {timeout : Option Nat}
    (hgiven : ∀ v, Value.HasEntry entries "timeout_seconds" v ↔ given = some v)
    (h : readTimeout given = .ok timeout) :
    (∃ v seconds, Value.HasEntry entries "timeout_seconds" v ∧
        v.untagged = .integer (seconds : Nat) ∧ 1 ≤ seconds ∧ timeout = some seconds) ∨
      (∀ v, Value.HasEntry entries "timeout_seconds" v → v = .null) ∧ timeout = none := by
  cases given with
  | none =>
    cases h
    refine .inr ⟨fun v hv => ?_, rfl⟩
    cases (hgiven v).1 hv
  | some v =>
    rcases timeout_of_readTimeout h with ⟨seconds, hv, hpos, rfl⟩ | ⟨rfl, rfl⟩
    · exact .inl ⟨v, seconds, (hgiven v).2 rfl, hv, hpos, rfl⟩
    · exact .inr ⟨fun v hv => (Option.some.inj ((hgiven v).1 hv)).symm, rfl⟩

/-- What is left of the entries once the rules and the limit are taken out. -/
theorem hasEntry_of_rest {other : String} (hfilter : other ≠ "filefilter")
    (htimeout : other ≠ "timeout_seconds") {v : Value}
    (h : Value.HasEntry
      (Value.takeEntry "timeout_seconds" (Value.takeEntry "filefilter" entries).2).2 other v) :
    Value.HasEntry entries other v :=
  (Value.hasEntry_takeEntry hfilter v).1 ((Value.hasEntry_takeEntry htimeout v).1 h)

/-- What the entries say of a task is what the task is. -/
theorem follows_of_ofEntries {t : Task} (h : ofEntries l entries = .ok t) :
    t.Follows l entries := by
  rw [ofEntries] at h
  dsimp only at h
  obtain ⟨filter, hfilter, h⟩ := bind_eq_ok_iff.1 h
  obtain ⟨timeout, htimeout, h⟩ := bind_eq_ok_iff.1 h
  obtain ⟨options, hoptions, h⟩ := bind_eq_ok_iff.1 h
  obtain ⟨name, hname, h⟩ := bind_eq_ok_iff.1 h
  cases h
  have hfirst : "timeout_seconds" ∉ l.optionNames := by cases l <;> decide
  have hsecond : "filefilter" ∉ "timeout_seconds" :: l.optionNames := by cases l <;> decide
  have hrest := exists_name_of_readOptions hoptions
  have hmiddle := Value.keys_of_takeEntry hrest
  have hkeys := Value.keys_of_takeEntry hmiddle
  have hnodup := Value.nodup_of_takeEntry hsecond hmiddle
    (Value.nodup_of_takeEntry hfirst hrest (nodup_of_readOptions hoptions))
  have hlimits (v : Value) : Value.HasEntry entries "timeout_seconds" v ↔
      (Value.takeEntry "timeout_seconds" (Value.takeEntry "filefilter" entries).2).1 = some v :=
    (Value.hasEntry_takeEntry (by decide) v).symm.trans
      (Value.hasEntry_iff_takeEntry hfirst hrest v)
  refine ⟨linter_of_readOptions hoptions, hkeys, hnodup,
    filter_of_given (Value.hasEntry_iff_takeEntry hsecond hmiddle) hfilter,
    timeout_of_given hlimits htimeout, id_of_readName hname, ?_⟩
  rintro o rfl
  obtain rfl : Linter.custom = l := linter_of_readOptions hoptions
  have hgiven := givenBy_of_readOptions hoptions
  obtain ⟨hid, hword, hfree, hcommand⟩ := word_of_readName hname
  obtain ⟨v, hv, htext⟩ := hgiven.name _ rfl
  obtain ⟨v', hv', htext'⟩ := hgiven.command _ rfl
  obtain ⟨v'', text, hv'', htext'', hparse⟩ := hgiven.pattern _ rfl
  have hnames := o.pattern.required_names
  rw [OutputPattern.required, List.forall_mem_cons, List.forall_mem_singleton] at hnames
  exact {
    id := ⟨v, hasEntry_of_rest (by decide) (by decide) hv, htext, hid⟩
    word := hword
    free := hfree
    command := ⟨v', hasEntry_of_rest (by decide) (by decide) hv', htext', hcommand⟩
    pattern := ⟨v'', text, hasEntry_of_rest (by decide) (by decide) hv'', htext'', hparse, hnames⟩ }

end

/-- What an item says of its task is what the task is. -/
theorem follows_of_ofValue {item : Value} {t : Task} (h : ofValue item = .ok t) :
    ∃ l entries, item.Names l.id entries ∧ t.Follows l entries := by
  obtain ⟨⟨id, options⟩, hsplit, h⟩ := bind_eq_ok_iff.1 h
  dsimp only at h
  split at h
  · next l hl =>
    obtain rfl := Linter.id_of_ofId? hl
    split at h
    · exact ⟨l, [], names_of_splitItem hsplit (.inl ⟨rfl, rfl⟩),
        follows_of_ofEntries (mapError_eq_ok_iff.1 h)⟩
    · next entries =>
      exact ⟨l, entries, names_of_splitItem hsplit (.inr rfl),
        follows_of_ofEntries (mapError_eq_ok_iff.1 h)⟩
    · cases h
  · cases h

end Task

/-! ## Settings -/

namespace Settings

open Yaml (Site)
open Yaml.Reading (Yields)

variable {d : Document}

/-- A node of a document means a value. -/
def Means (d : Document) (node : Node) (v : Value) : Prop :=
  ∃ depth path, Yields d (Reading.value depth path node : Reading Refusal Value) v

/-- A document is a mapping that has a list of items under a name. -/
def Lists (d : Document) (name : String) (items : List Value) : Prop :=
  ∃ node head nodes, d.HasEntry d.root name node ∧ d.Resolves node (.sequence head nodes) ∧
    List.Forall₂ (Means d) nodes items

theorem exists_between {α β γ : Type} {p : α → β → Prop} {q : β → γ → Prop} {as : List α}
    {cs : List γ} (h : List.Forall₂ (fun a c => ∃ b, p a b ∧ q b c) as cs) :
    ∃ bs, List.Forall₂ p as bs ∧ List.Forall₂ q bs cs := by
  induction h with
  | nil => exact ⟨[], .nil, .nil⟩
  | cons hac _ ih =>
    obtain ⟨b, hp, hq⟩ := hac
    obtain ⟨bs, hps, hqs⟩ := ih
    exact ⟨b :: bs, .cons hp hps, .cons hq hqs⟩

theorem ofValue_of_readTask {site : Site} {t : Task} (h : Yields d (readTask site) t) :
    ∃ item, Means d site.node item ∧ Task.ofValue item = .ok t := by
  obtain ⟨item, hitem, h⟩ := h.bind
  split at h
  · next t' ht =>
    rw [h.pure]
    exact ⟨item, ⟨_, _, hitem⟩, ht⟩
  · exact h.throw.elim

/-- Each task of a list of linters comes from the item in its place. -/
theorem items_of_list {site : Site} {tasks : List Task}
    (h : Yields d (Reading.list readTask site) tasks) :
    tasks = [] ∨ ∃ head nodes items, d.Resolves site.node (.sequence head nodes) ∧
      List.Forall₂ (Means d) nodes items ∧
        List.Forall₂ (fun item t => Task.ofValue item = .ok t) items tasks := by
  rcases h.list with rfl | ⟨head, nodes, hnode, htasks⟩
  · exact .inl rfl
  · have heach : List.Forall₂ (fun node t => ∃ item, Means d node item ∧
        Task.ofValue item = .ok t) nodes tasks := htasks.imp fun node t ht => by
      obtain ⟨path, depth, ht⟩ := ht
      have hitem := ofValue_of_readTask ht
      exact hitem
    obtain ⟨items, hitems, htasks⟩ := exists_between heach
    exact .inr ⟨head, nodes, items, hnode, hitems, htasks⟩

/-- The tasks of a draft come from the list of linters of a document. -/
def Draft.GivenBy (d : Document) (draft : Draft) : Prop :=
  ∀ tasks ∈ draft.tasks, tasks = [] ∨ ∃ items, Lists d "linters" items ∧
    List.Forall₂ (fun item t => Task.ofValue item = .ok t) items tasks

theorem givenBy_of_readField {name : String} {site : Site} {draft draft' : Draft}
    (hentry : d.HasEntry d.root name site.node) (hdraft : draft.GivenBy d)
    (h : Yields d (readField name site draft) draft') : draft'.GivenBy d := by
  rw [readField.eq_def] at h
  split at h
  · obtain ⟨-, -, h⟩ := h.bind
    obtain ⟨filter, -, h⟩ := h.bind
    rw [h.pure]
    exact hdraft
  · obtain ⟨-, -, h⟩ := h.bind
    obtain ⟨severity, -, h⟩ := h.bind
    rw [h.pure]
    exact hdraft
  · obtain ⟨-, -, h⟩ := h.bind
    obtain ⟨jobs, -, h⟩ := h.bind
    rw [h.pure]
    exact hdraft
  · obtain ⟨-, -, h⟩ := h.bind
    obtain ⟨tasks, htasks, h⟩ := h.bind
    rw [h.pure]
    intro tasks' htasks'
    cases htasks'
    refine (items_of_list htasks).imp_right ?_
    rintro ⟨head, nodes, items, hnode, hitems, hall⟩
    exact ⟨items, ⟨site.node, head, nodes, hentry, hnode, hitems⟩, hall⟩
  · obtain ⟨-, -, h⟩ := h.bind
    rw [h.pure]
    exact hdraft

theorem items_of_read {text : String} {s : Settings} (h : read text = .ok s) :
    s.tasks = [] ∨ ∃ items, Lists (Document.ofText text) "linters" items ∧
      List.Forall₂ (fun item t => Task.ofValue item = .ok t) items s.tasks := by
  obtain ⟨draft, hdraft, rfl⟩ := map_eq_ok_iff.1 h
  have hgiven : draft.GivenBy (Document.ofText text) := by
    have hstart : Draft.GivenBy (Document.ofText text) {} := by
      intro tasks htasks
      cases htasks
    refine (Reading.yields_of_run hdraft).record hstart
      fun name node hentry path depth b b' hb hread => ?_
    have hentry' : (Document.ofText text).HasEntry (Document.ofText text).root name
      (Site.mk node path depth).node := hentry
    exact givenBy_of_readField hentry' hb hread
  cases htasks : draft.tasks with
  | none => exact .inl (by rw [Draft.finish, htasks]; rfl)
  | some tasks =>
    have hfinish : draft.finish.tasks = tasks := by rw [Draft.finish, htasks]; rfl
    rw [hfinish]
    exact hgiven tasks htasks

theorem will_do_of_check {s s' : Settings} (h : s.check = .ok s') :
    s.jobs ≠ some 0 ∧ s.tasks ≠ [] := by
  rw [check] at h
  split at h
  · cases h
  next hjobs =>
  split at h
  · cases h
  next htasks => exact ⟨hjobs, fun hnil => htasks (List.isEmpty_iff.2 hnil)⟩

/-- Let a text be read as settings. Then there is something to do, some linter may work,
    and no two tasks go by the same name. Each item of the list of linters that the text
    has names a linter, and the task in its place is what the entries of the item say,
    none of which is without effect. -/
theorem tasks_of_parse {text : String} {s : Settings} (h : parse text = .ok s) :
    s.tasks ≠ [] ∧ (∀ jobs ∈ s.jobs, 0 < jobs) ∧ (s.tasks.map Task.id).Nodup ∧
      ∃ items, Lists (Document.ofText text) "linters" items ∧
        List.Forall₂ (fun item t => ∃ l entries, item.Names l.id entries ∧ t.Follows l entries)
          items s.tasks := by
  have hnodup := nodup_ids h
  obtain ⟨s', hread, hcheck⟩ := bind_eq_ok_iff.1 h
  obtain ⟨hjobs, htasks⟩ := will_do_of_check hcheck
  obtain ⟨rfl, -⟩ := eq_of_check hcheck
  refine ⟨htasks, fun jobs hmem => Nat.pos_of_ne_zero ?_, hnodup, ?_⟩
  · rintro rfl
    exact hjobs hmem
  · obtain ⟨items, hitems, hall⟩ :=
      (items_of_read (mapError_eq_ok_iff.1 hread)).resolve_left htasks
    exact ⟨items, hitems, hall.imp fun item t ht => Task.follows_of_ofValue ht⟩

/-- A text that names a linter with a time limit and rules, and one without. -/
def limitedText : String :=
  "linters:\n- flake8:\n    timeout_seconds: 60\n    filefilter: ['+ *.py']\n- whitespace\n"

/-- The settings in that text. -/
def limitedSettings : Settings := (parse limitedText).toOption.getD {}

/-- There are two items, and two tasks. -/
theorem tasks_of_parse_limited :
    parse limitedText = .ok limitedSettings ∧
      limitedSettings.tasks.map (fun t => (t.id, t.timeout)) =
          [("flake8", some 60), ("whitespace", none)] ∧
        ∃ items, Lists (Document.ofText limitedText) "linters" items ∧ items.length = 2 := by
  have hsome : (parse limitedText).toOption.isSome = true := by decide +kernel
  have hparse : parse limitedText = .ok limitedSettings := by
    rw [limitedSettings]
    cases h : parse limitedText with
    | ok s => rfl
    | error e =>
      rw [h] at hsome
      cases hsome
  have htasks : limitedSettings.tasks.map (fun t => (t.id, t.timeout)) =
      [("flake8", some 60), ("whitespace", none)] := by decide +kernel
  obtain ⟨-, -, -, items, hitems, hall⟩ := tasks_of_parse hparse
  have hlength := congrArg List.length htasks
  rw [List.length_map] at hlength
  exact ⟨hparse, htasks, items, hitems, hall.length_eq.trans hlength⟩

end Settings

end Lintscope

import Lintscope.Proofs.Except
import Lintscope.Settings.Task
import Mathlib.Data.List.Perm.Basic

/-!
# Options that are accepted

A record is read from the entries of a mapping if each key is the name of a field, and
no two keys are names of one field (`Settings.exists_field_of_record`,
`Settings.nodup_of_record`). So the options of a linter are those in its table
(`Linter.optionNames`), and none of them is passed over or overwritten
(`Settings.exists_name_of_readOptions`).
-/

namespace Lintscope

open Yaml (Value)

namespace Linter

/-- The names of the options of a linter. -/
def optionNames : Linter → List String
  | flake8 | pycodestyle | pydocstyle | yamllint => ["config"]
  | pylint => ["rcfile"]
  | black => ["config", "target_version"]
  | autopep8 => ["config", "line-range", "line_range"]
  | imports => ["packages"]
  | cppcheck => ["language", "standard", "suppress", "include"]
  | cpplint => ["script", "linelength", "filter"]
  | doxygen | rstLint => []
  | whitespace => ["tabwidth"]
  | header => ["header", "comment", "shebang", "extra"]
  | custom => ["name", "command", "pattern", "ok_exit_codes", "stream", "language", "style"]

theorem id_of_ofId? {id : String} {l : Linter} (h : ofId? id = some l) : l.id = id := by
  simpa using List.find?_some h

end Linter

/-! ## Values -/

namespace Yaml.Value

/-- The entries of a mapping have a value under a name, tags of the name aside. -/
def HasEntry (entries : List (Value × Value)) (name : String) (v : Value) : Prop :=
  ∃ key, key.text? = some name ∧ (key, v) ∈ entries

/-- A value is a list of texts; the empty value is one without items. -/
def IsTexts (v : Value) (texts : List String) : Prop :=
  (∃ items, v.untagged = .sequence items ∧
      List.Forall₂ (fun item s => item.text? = some s) items texts) ∨
    v.untagged = .null ∧ texts = []

theorem same_text_iff {v : Value} {s : String} : v.same (.text s) = true ↔ v = .text s := by
  cases v <;> simp [same]

/-- A list is made of one of its elements and of the others, the last of which takes its
    place. -/
theorem perm_of_lastInPlace {α : Type} {l : List α} {i : Nat} (hi : i < l.length) :
    l.Perm (l[i] :: if i + 1 = l.length then l.take (l.length - 1)
      else (l.take (l.length - 1)).take i ++ l.drop (l.length - 1) ++
        (l.take (l.length - 1)).drop (i + 1)) := by
  split
  · next hlast =>
    have hlength : l.length - 1 = i := by omega
    have hdrop : l.drop i = [l[i]] := by
      rw [List.drop_eq_getElem_cons hi, List.drop_eq_nil_of_le (by omega)]
    have happend := List.take_append_drop i l
    rw [hdrop] at happend
    rw [hlength]
    exact (List.Perm.of_eq happend.symm).trans (List.perm_append_singleton _ _)
  · next hlast =>
    have hfront : i < (l.take (l.length - 1)).length := by
      rw [List.length_take]
      omega
    have hget : (l.take (l.length - 1))[i] = l[i] := List.getElem_take
    have hsplit : l = (l.take (l.length - 1)).take i ++
        (l[i] :: (l.take (l.length - 1)).drop (i + 1)) ++ l.drop (l.length - 1) := by
      rw [← hget, ← List.drop_eq_getElem_cons hfront, List.take_append_drop,
        List.take_append_drop]
    refine (List.Perm.of_eq hsplit).trans ?_
    rw [List.append_assoc]
    refine List.perm_middle.trans (.cons _ ?_)
    rw [List.append_assoc]
    exact .append_left _ List.perm_append_comm

/-- An entry is taken out, or there is none under the name. -/
theorem takeEntry_cases (name : String) (entries : List (Value × Value)) :
    (takeEntry name entries = (none, entries) ∧ ∀ e ∈ entries, e.1 ≠ .text name) ∨
      ∃ v kept, takeEntry name entries = (some v, kept) ∧
        entries.Perm ((.text name, v) :: kept) := by
  rw [takeEntry]
  split
  · next hi =>
    refine .inl ⟨rfl, fun e he heq => ?_⟩
    have hsame := List.findIdx?_eq_none_iff.1 hi e he
    exact Bool.false_ne_true (hsame.symm.trans (same_text_iff.2 heq))
  · next i hi =>
    right
    obtain ⟨hlt, hsame, -⟩ := List.findIdx?_eq_some_iff_getElem.1 hi
    have hkey : entries[i].1 = .text name := same_text_iff.1 hsame
    dsimp only
    rw [List.getElem?_eq_getElem hlt]
    refine ⟨entries[i].2, _, rfl, ?_⟩
    rw [← hkey]
    exact perm_of_lastInPlace hlt

section

variable {name : String} {entries : List (Value × Value)}

/-- Entries under other names stay. -/
theorem hasEntry_takeEntry {other : String} (hne : other ≠ name) (v : Value) :
    HasEntry (takeEntry name entries).2 other v ↔ HasEntry entries other v := by
  rcases takeEntry_cases name entries with ⟨htake, -⟩ | ⟨w, kept, htake, hperm⟩
  · rw [htake]
  · rw [htake]
    refine exists_congr fun key => and_congr_right fun htext => ?_
    rw [hperm.mem_iff, List.mem_cons, or_iff_right]
    rintro heq
    cases heq
    exact hne (Option.some.inj htext).symm

section

variable {others : List String} (hname : name ∉ others)
  (hkeys : ∀ e ∈ (takeEntry name entries).2, ∃ other ∈ others, e.1.text? = some other)
include hname hkeys

theorem text?_ne_of_mem_takeEntry :
    ∀ e ∈ (takeEntry name entries).2, e.1.text? ≠ some name := by
  intro e he heq
  obtain ⟨other, hother, htext⟩ := hkeys e he
  exact hname (Option.some.inj (htext.symm.trans heq) ▸ hother)

/-- If none of the kept entries goes by the name of the one that is taken out, then that
    is the only one. -/
theorem hasEntry_iff_takeEntry (v : Value) :
    HasEntry entries name v ↔ (takeEntry name entries).1 = some v := by
  have hkept := text?_ne_of_mem_takeEntry hname hkeys
  rcases takeEntry_cases name entries with ⟨htake, -⟩ | ⟨w, kept, htake, hperm⟩
  · rw [htake] at hkept ⊢
    refine iff_of_false ?_ nofun
    rintro ⟨key, htext, hmem⟩
    exact hkept _ hmem htext
  · rw [htake] at hkept ⊢
    constructor
    · rintro ⟨key, htext, hmem⟩
      rcases List.mem_cons.1 (hperm.mem_iff.1 hmem) with heq | hmem
      · cases heq
        rfl
      · exact absurd htext (hkept _ hmem)
    · intro heq
      cases heq
      exact ⟨.text name, rfl, hperm.mem_iff.2 List.mem_cons_self⟩

omit hname in
theorem keys_of_takeEntry :
    ∀ e ∈ entries, ∃ other ∈ name :: others, e.1.text? = some other := by
  have hmore : ∀ e ∈ (takeEntry name entries).2, ∃ other ∈ name :: others,
      e.1.text? = some other := by
    intro e he
    obtain ⟨other, hother, htext⟩ := hkeys e he
    exact ⟨other, List.mem_cons_of_mem name hother, htext⟩
  rcases takeEntry_cases name entries with ⟨htake, -⟩ | ⟨w, kept, htake, hperm⟩
  · rwa [htake] at hmore
  · rw [htake] at hmore
    intro e he
    rcases List.mem_cons.1 (hperm.mem_iff.1 he) with rfl | he
    · exact ⟨name, List.mem_cons_self, rfl⟩
    · exact hmore e he

theorem nodup_of_takeEntry (hnodup : ((takeEntry name entries).2.map (·.1.text?)).Nodup) :
    (entries.map (·.1.text?)).Nodup := by
  have hkept := text?_ne_of_mem_takeEntry hname hkeys
  rcases takeEntry_cases name entries with ⟨htake, -⟩ | ⟨w, kept, htake, hperm⟩
  · rwa [htake] at hnodup
  · rw [htake] at hnodup hkept
    rw [(hperm.map _).nodup_iff, List.map_cons, List.nodup_cons]
    refine ⟨fun hmem => ?_, hnodup⟩
    obtain ⟨e, he, htext⟩ := List.mem_map.1 hmem
    exact hkept e he htext

end

end

end Yaml.Value

namespace Settings

variable {α σ ε : Type}

theorem text_eq_ok_iff {expected s : String} {v : Value} :
    text expected v = .ok s ↔ v.text? = some s := by
  rw [text, Value.text?]
  split <;> simp_all

theorem isTexts_of_list {v : Value} {texts : List String} (h : list string v = .ok texts) :
    v.IsTexts texts := by
  obtain ⟨items, hitems, h⟩ := bind_eq_ok_iff.1 h
  have htexts := (forall₂_of_mapM_eq_ok h).imp fun item s hs => text_eq_ok_iff.1 hs
  rw [Settings.items] at hitems
  split at hitems
  · next heq =>
    cases hitems
    exact .inl ⟨_, heq, htexts⟩
  · next heq =>
    cases hitems
    cases htexts
    exact .inr ⟨heq, rfl⟩
  · cases hitems

/-! ## Records -/

section

variable {wrong : Mismatch → ε} {fields : List (Field ε σ)} {entries : List (Value × Value)}

theorem recordEntry_eq_ok {state state' : σ × List String} {e : Value × Value}
    (h : recordEntry wrong fields state e = .ok state') :
    ∃ name field, e.1.text? = some name ∧ fields.find? (·.name = name) = some field ∧
      field.mainName ∉ state.2 ∧ field.set e.2 state.1 = .ok state'.1 ∧
        state'.2 = field.mainName :: state.2 := by
  obtain ⟨name, hname, h⟩ := bind_eq_ok_iff.1 h
  split at h
  · next field hfield =>
    split at h
    · cases h
    · next hnew =>
      obtain ⟨s, hset, h⟩ := bind_eq_ok_iff.1 h
      cases h
      exact ⟨name, field, text_eq_ok_iff.1 (mapError_eq_ok_iff.1 hname), hfield, hnew, hset, rfl⟩
  · cases h

/-- Each entry is under the name of a field that none of those before it had. -/
theorem pairwise_of_foldlM {state state' : σ × List String}
    (h : entries.foldlM (recordEntry wrong fields) state = .ok state') :
    entries.Pairwise (fun e e' => e.1.text? ≠ e'.1.text?) ∧
      ∀ e ∈ entries, ∃ name field, e.1.text? = some name ∧
        fields.find? (·.name = name) = some field ∧ field.mainName ∉ state.2 := by
  induction entries generalizing state with
  | nil => exact ⟨.nil, nofun⟩
  | cons e entries ih =>
    obtain ⟨next, he, h⟩ := foldlM_cons_eq_ok_iff.1 h
    obtain ⟨name, field, hname, hfield, hnew, -, hknown⟩ := recordEntry_eq_ok he
    obtain ⟨hpairwise, hentries⟩ := ih h
    rw [hknown] at hentries
    refine ⟨List.pairwise_cons.2 ⟨fun e' he' heq => ?_, hpairwise⟩,
      List.forall_mem_cons.2 ⟨⟨name, field, hname, hfield, hnew⟩, fun e' he' => ?_⟩⟩
    · -- The same name would lead to the same field, which is known by now.
      obtain ⟨name', field', hname', hfield', hnew'⟩ := hentries e' he'
      obtain rfl : name = name' := Option.some.inj (hname.symm.trans (heq.trans hname'))
      obtain rfl : field = field' := Option.some.inj (hfield.symm.trans hfield')
      exact hnew' List.mem_cons_self
    · obtain ⟨name', field', hname', hfield', hnew'⟩ := hentries e' he'
      exact ⟨name', field', hname', hfield', fun hmem => hnew' (List.mem_cons_of_mem _ hmem)⟩

section

variable {start s : σ} (h : record wrong fields start entries = .ok s)
include h

theorem foldlM_of_record :
    ∃ known, entries.foldlM (recordEntry wrong fields) (start, []) = .ok (s, known) := by
  obtain ⟨state, hfold, rfl⟩ := map_eq_ok_iff.1 h
  exact ⟨state.2, hfold⟩

/-- Each key of a record is the name of a field. -/
theorem exists_field_of_record :
    ∀ e ∈ entries, ∃ name ∈ fields.map Field.name, e.1.text? = some name := by
  obtain ⟨known, hfold⟩ := foldlM_of_record h
  intro e he
  obtain ⟨name, field, hname, hfield, -⟩ := (pairwise_of_foldlM hfold).2 e he
  refine ⟨name, List.mem_map.2 ⟨field, List.mem_of_find?_eq_some hfield, ?_⟩, hname⟩
  simpa using List.find?_some hfield

/-- No two keys of a record are the same name. -/
theorem nodup_of_record : (entries.map (·.1.text?)).Nodup := by
  obtain ⟨known, hfold⟩ := foldlM_of_record h
  exact List.pairwise_map.2 (pairwise_of_foldlM hfold).1

/-- What the value of each field keeps, the record keeps. -/
theorem record_keeps {p : σ → Prop} (hstart : p start)
    (step : ∀ field ∈ fields, ∀ v, Value.HasEntry entries field.name v → ∀ s s', p s →
      field.set v s = .ok s' → p s') : p s := by
  obtain ⟨known, hfold⟩ := foldlM_of_record h
  refine foldlM_keeps_of_mem (p := fun state => p state.1) ?_ hstart hfold
  intro e he state state' hstate heq
  obtain ⟨name, field, hname, hfield, -, hset, -⟩ := recordEntry_eq_ok heq
  have hfound : field.name = name := by simpa using List.find?_some hfield
  exact step field (List.mem_of_find?_eq_some hfield) e.2 ⟨e.1, hfound ▸ hname, he⟩ _ _ hstate hset

end

end

/-! ## Options -/

section

variable {l : Linter} {entries : List (Value × Value)} {o : Options}
  (h : readOptions l entries = .ok o)
include h

/-- The options of a linter are read as a record with its fields. -/
theorem exists_record_of_readOptions :
    o.linter = l ∧ ∃ (σ : Type) (fields : List (OptionField σ)) (start s : σ),
      record .mismatch fields start entries = .ok s ∧ fields.map Field.name = l.optionNames := by
  cases l with
  | doxygen | rstLint =>
    obtain ⟨s, hs, h⟩ := bind_eq_ok_iff.1 h
    cases h
    exact ⟨rfl, _, _, _, s, hs, rfl⟩
  | custom =>
    obtain ⟨s, hs, h⟩ := bind_eq_ok_iff.1 h
    obtain ⟨o, -, h⟩ := bind_eq_ok_iff.1 h
    cases h
    exact ⟨rfl, _, _, _, s, hs, rfl⟩
  | flake8 | pycodestyle | pydocstyle | pylint | black | autopep8 | imports | yamllint | cppcheck
  | cpplint | whitespace | header =>
    obtain ⟨s, hs, rfl⟩ := map_eq_ok_iff.1 h
    exact ⟨rfl, _, _, _, s, hs, rfl⟩

theorem linter_of_readOptions : o.linter = l := (exists_record_of_readOptions h).1

/-- Each key is the name of an option of the linter. -/
theorem exists_name_of_readOptions :
    ∀ e ∈ entries, ∃ name ∈ l.optionNames, e.1.text? = some name := by
  obtain ⟨-, σ, fields, start, s, hs, hnames⟩ := exists_record_of_readOptions h
  exact hnames ▸ exists_field_of_record hs

theorem nodup_of_readOptions : (entries.map (·.1.text?)).Nodup := by
  obtain ⟨-, σ, fields, start, s, hs, -⟩ := exists_record_of_readOptions h
  exact nodup_of_record hs

end

/-! ## Custom linters -/

theorem set_field_eq_ok {name : String} {read : Reader α} {update : α → σ → σ} {v : Value}
    {s s' : σ} (h : (field name read update).set v s = .ok s') :
    ∃ a, read v = .ok a ∧ s' = update a s := by
  obtain ⟨a, ha, h⟩ := bind_eq_ok_iff.1 h
  cases h
  exact ⟨a, mapError_eq_ok_iff.1 ha, rfl⟩

/-- What a draft of a custom linter has of the options that it must have is in the
    entries. -/
structure CustomDraft.GivenBy (entries : List (Value × Value)) (d : CustomDraft) : Prop where
  name : ∀ name ∈ d.name, ∃ v, Value.HasEntry entries "name" v ∧ v.text? = some name
  command : ∀ command ∈ d.command,
    ∃ v, Value.HasEntry entries "command" v ∧ v.text? = some command
  pattern : ∀ pattern ∈ d.pattern, ∃ v text, Value.HasEntry entries "pattern" v ∧
    v.text? = some text ∧ OutputPattern.parse text = .ok pattern

theorem CustomDraft.given_of_finish {d : CustomDraft} {o : CustomOptions}
    (h : d.finish = .ok o) :
    d.name = some o.name ∧ d.command = some o.command ∧ d.pattern = some o.pattern := by
  obtain ⟨_ | name, _ | command, _ | pattern⟩ := d
  all_goals
    cases h
  exact ⟨rfl, rfl, rfl⟩

/-- What each field sets is in the entries. -/
theorem givenBy_of_set {entries : List (Value × Value)} {f : OptionField CustomDraft}
    (hf : f ∈ customFields) {v : Value} (hv : Value.HasEntry entries f.name v)
    {d d' : CustomDraft} (hd : d.GivenBy entries) (h : f.set v d = .ok d') :
    d'.GivenBy entries := by
  simp only [customFields, List.mem_cons, List.not_mem_nil, or_false] at hf
  rcases hf with rfl | rfl | rfl | hf
  · obtain ⟨a, ha, rfl⟩ := set_field_eq_ok h
    exact { hd with name := fun name hname => ⟨v, hv, by cases hname; exact text_eq_ok_iff.1 ha⟩ }
  · obtain ⟨a, ha, rfl⟩ := set_field_eq_ok h
    exact { hd with
      command := fun command hcommand => ⟨v, hv, by cases hcommand; exact text_eq_ok_iff.1 ha⟩ }
  · obtain ⟨text, htext, h⟩ := bind_eq_ok_iff.1 h
    obtain ⟨pattern, hpattern, h⟩ := bind_eq_ok_iff.1 h
    cases h
    refine { hd with pattern := fun pattern' hpattern' => ⟨v, text, hv, ?_⟩ }
    cases hpattern'
    exact ⟨text_eq_ok_iff.1 (mapError_eq_ok_iff.1 htext), mapError_eq_ok_iff.1 hpattern⟩
  · -- The other fields set none of these.
    rcases hf with rfl | rfl | rfl | rfl
    all_goals
      obtain ⟨a, -, rfl⟩ := set_field_eq_ok h
      exact ⟨hd.name, hd.command, hd.pattern⟩

/-- The name, the command and the pattern of a custom linter are in the entries. -/
theorem givenBy_of_readOptions {l : Linter} {entries : List (Value × Value)} {o : CustomOptions}
    (h : readOptions l entries = .ok (.custom o)) :
    CustomDraft.GivenBy entries
      { name := some o.name, command := some o.command, pattern := some o.pattern } := by
  obtain rfl : Linter.custom = l := linter_of_readOptions h
  obtain ⟨d, hd, h⟩ := bind_eq_ok_iff.1 h
  obtain ⟨o', ho', h⟩ := bind_eq_ok_iff.1 h
  cases h
  have hgiven : d.GivenBy entries :=
    record_keeps hd ⟨nofun, nofun, nofun⟩ fun f hf v hv _ _ => givenBy_of_set hf hv
  obtain ⟨hname, hcommand, hpattern⟩ := CustomDraft.given_of_finish ho'
  exact ⟨hname ▸ hgiven.name, hcommand ▸ hgiven.command, hpattern ▸ hgiven.pattern⟩

end Settings

end Lintscope

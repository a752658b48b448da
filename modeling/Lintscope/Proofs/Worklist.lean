import Lintscope.Proofs.Order.Filtered
import Lintscope.Worklist
import Mathlib.Data.List.Induction

/-!
# Two filters, one after the other

A filter keeps a path if the first of its rules that describes it says so
(`Filter.keeps_iff`). A linter gets the files that the common filter and its own one both
keep, in the order of the repository and as often as they are listed there. So its list
knows nothing of the other linters, and what the common filter leaves out is lost for all
of them (`lookup_worklists`).
-/

namespace Lintscope

namespace Filter

variable {f : Filter} {path : String}

/-- The first rule of a filter that describes a path keeps it. -/
def Includes (f : Filter) (path : String) : Prop :=
  ∃ before rule after, f.rules = before ++ rule :: after ∧
    (∀ r ∈ before, r.describes (Path.canonical path) = false) ∧
      rule.describes (Path.canonical path) = true ∧ rule.verdict = .keep

theorem keeps_iff : f.keeps path = true ↔ f.Includes path := by
  rw [keeps, decide_eq_true_iff, verdict]
  constructor
  · intro h
    cases hfind : f.rules.find? (·.describes (Path.canonical path)) with
    | none =>
      rw [hfind] at h
      cases h
    | some rule =>
      rw [hfind] at h
      obtain ⟨hrule, before, after, hrules, hbefore⟩ := List.find?_eq_some_iff_append.1 hfind
      exact ⟨before, rule, after, hrules, by simpa using hbefore, hrule, h⟩
  · rintro ⟨before, rule, after, hrules, hbefore, hrule, hkeep⟩
    have hfind : f.rules.find? (·.describes (Path.canonical path)) = some rule :=
      List.find?_eq_some_iff_append.2 ⟨hrule, before, after, hrules, by simpa using hbefore⟩
    rw [hfind]
    exact hkeep

instance : Decidable (f.Includes path) := decidable_of_iff _ keeps_iff

end Filter

variable {files : List String} {common : Filter} {linters : List (String × Filter)}

theorem worklist_eq (files : List String) (common own : Filter) :
    worklist files common own =
      files.filter fun file => common.Includes file ∧ own.Includes file := by
  rw [worklist, List.filter_filter]
  refine List.filter_congr fun file _ => ?_
  rw [Bool.eq_iff_iff, Bool.and_eq_true, Filter.keeps_iff, Filter.keeps_iff, decide_eq_true_iff,
    and_comm]

/-- Under names that are all different, no worklist stands in for another. -/
theorem worklists_eq_map (h : (linters.map Prod.fst).Nodup) :
    worklists files common linters =
      linters.map fun (name, own) => (name, worklist files common own) := by
  induction linters using List.reverseRecOn with
  | nil => rfl
  | append_singleton linters linter ih =>
    obtain ⟨name, own⟩ := linter
    rw [List.map_append, List.nodup_append] at h
    have hnew : ∀ l ∈ linters, l.1 ≠ name := fun l hl =>
      h.2.2 l.1 (List.mem_map_of_mem hl) name (List.mem_singleton_self name)
    rw [worklists, List.foldl_append, ← worklists, ih h.1, List.map_append]
    refine congrArg (· ++ _) (List.filter_eq_self.2 fun a ha => ?_)
    obtain ⟨l, hl, rfl⟩ := List.mem_map.1 ha
    exact decide_eq_true (hnew l hl)

/-- The list that is put down under the name of a linter is that of the linter. -/
theorem lookup_worklists_of_mem (h : (linters.map Prod.fst).Nodup) {name : String} {own : Filter}
    (hmem : (name, own) ∈ linters) :
    (worklists files common linters).lookup name = some (worklist files common own) := by
  obtain ⟨before, after, rfl⟩ := List.append_of_mem hmem
  rw [worklists_eq_map h, List.map_append, List.map_cons]
  rw [List.map_append, List.nodup_append] at h
  refine List.lookup_eq_some_iff.2 ⟨_, _, rfl, List.forall_mem_map.2 fun l hl => ?_⟩
  exact bne_iff_ne.2 fun heq => h.2.2 l.1 (List.mem_map_of_mem hl) name (by simp) heq.symm

theorem map_fst_worklists (h : (linters.map Prod.fst).Nodup) :
    (worklists files common linters).map Prod.fst = linters.map Prod.fst := by
  rw [worklists_eq_map h, List.map_map]
  rfl

theorem worklist_filter (p : String → Bool) (files : List String) (common own : Filter) :
    worklist (files.filter p) common own = (worklist files common own).filter p := by
  rw [worklist, worklist, Filtered.filter_filter_comm p own.keeps,
    Filtered.filter_filter_comm p common.keeps]

/-- A map of lists: under each name of a linter, and under no other, there is the list of the
    files that both filters include, as often as they are listed and in that order. Nothing
    is in a list that the common filter leaves out; the list is the same among whatever
    other linters; and files that are left out beforehand are what the lists lack then. -/
theorem lookup_worklists (files : List String) (common : Filter)
    (hids : (linters.map Prod.fst).Nodup) :
    (worklists files common linters).map Prod.fst = linters.map Prod.fst ∧
      (∀ name own, (name, own) ∈ linters →
        (worklists files common linters).lookup name =
          some (files.filter fun file => common.Includes file ∧ own.Includes file)) ∧
      (∀ name list, (worklists files common linters).lookup name = some list →
        ∀ file ∈ list, common.Includes file) ∧
      (∀ name own others, (others.map Prod.fst).Nodup → (name, own) ∈ linters →
        (name, own) ∈ others →
          (worklists files common others).lookup name =
            (worklists files common linters).lookup name) ∧
      ∀ p : String → Bool, worklists (files.filter p) common linters =
        (worklists files common linters).map fun (name, list) => (name, list.filter p) := by
  refine ⟨map_fst_worklists hids, fun name own hmem => ?_, fun name list hlist file hfile => ?_,
    fun name own others hothers hmem hmem' => ?_, fun p => ?_⟩
  · rw [lookup_worklists_of_mem hids hmem, worklist_eq]
  · rw [worklists_eq_map hids, List.lookup_eq_some_iff] at hlist
    obtain ⟨before, after, hsplit, -⟩ := hlist
    have hmem : (name, list) ∈ before ++ (name, list) :: after :=
      List.mem_append_right before List.mem_cons_self
    rw [← hsplit] at hmem
    obtain ⟨⟨name', own⟩, -, heq⟩ := List.mem_map.1 hmem
    obtain ⟨rfl, rfl⟩ := Prod.mk.inj heq
    rw [worklist_eq, List.mem_filter, decide_eq_true_iff] at hfile
    exact hfile.2.1
  · rw [lookup_worklists_of_mem hothers hmem', lookup_worklists_of_mem hids hmem]
  · rw [worklists_eq_map hids, worklists_eq_map hids, List.map_map]
    exact List.map_congr_left fun l _ => Prod.ext rfl (worklist_filter p files common l.2)

/-- The filter that some rules write, if they have no fault. -/
def Filter.ofRules (rules : List String) : Filter := (Filter.parse rules).toOption.getD ⟨[]⟩

/-- One linter wants the files of others back, and another one wants none. -/
theorem lookup_worklists_vendor :
    let files := ["vendor/lib.py", "src/a.py", "src/b.c", "src/a.py"]
    let common := Filter.ofRules ["- vendor/*", "+ *"]
    let linters := [("pylint", Filter.ofRules ["+ vendor/*", "- *.c", "+ *"]), ("black", ⟨[]⟩)]
    (linters.map Prod.fst).Nodup ∧
      (worklists files common linters).lookup "pylint" = some ["src/a.py", "src/a.py"] ∧
        (worklists files common linters).lookup "black" = some [] := by
  intro files common linters
  have hids : (linters.map Prod.fst).Nodup := by decide
  obtain ⟨-, hlookup, -⟩ := lookup_worklists files common hids
  refine ⟨hids, (hlookup _ _ List.mem_cons_self).trans ?_,
    (hlookup _ _ (List.mem_cons_of_mem _ List.mem_cons_self)).trans ?_⟩
  · decide +kernel
  · decide +kernel

end Lintscope

import Lintscope.Proofs.Except
import Lintscope.Yaml.Reading
import Mathlib.Data.List.Forall2

/-!
# Readings that succeed

What can be said of a document that was read without a complaint: for each way of
putting readings together, what the parts have come to (`Reading.Yields`). A list was
read item by item (`Reading.Yields.list`), and a record entry by entry, each under the
name that its key is (`Reading.Yields.record`).
-/

namespace Lintscope.Yaml

variable {ε α β : Type}

/-! ## Documents -/

namespace Document

variable (d : Document)

/-- A node stands for another one if it is an alias for it, and else for itself. -/
def Resolves (node target : Node) : Prop :=
  match node with
  | .alias _ anchor => d.node? anchor = some target
  | _ => target = node

/-- A node is a mapping that has a value under a name. -/
def HasEntry (node : Node) (name : String) (value : Node) : Prop :=
  ∃ head entries key keyHead style, d.Resolves node (.mapping head entries) ∧
    (key, value) ∈ entries ∧ d.Resolves key (.scalar keyHead name style)

end Document

/-! ## Readings -/

namespace Reading

/-- A reading of a document comes to something, after some number of aliases. -/
def Yields (d : Document) (x : Reading ε α) (a : α) : Prop :=
  ∃ n n', StateT.run (ReaderT.run x d) n = .ok (a, n')

namespace Yields

variable {d : Document} {site : Site}

theorem bind {x : Reading ε α} {f : α → Reading ε β} {b : β} (h : Yields d (x >>= f) b) :
    ∃ a, Yields d x a ∧ Yields d (f a) b := by
  obtain ⟨n, n', h⟩ := h
  obtain ⟨⟨a, m⟩, ha, hb⟩ := bind_eq_ok_iff.1 h
  exact ⟨a, ⟨n, m, ha⟩, ⟨m, n', hb⟩⟩

theorem pure {a b : α} (h : Yields d (Pure.pure a : Reading ε α) b) : b = a := by
  obtain ⟨n, n', h⟩ := h
  cases h
  rfl

theorem throw {e : Error ε} {a : α} (h : Yields d (throw e : Reading ε α) a) : False := by
  obtain ⟨n, n', h⟩ := h
  cases h

theorem map {x : Reading ε α} {f : α → β} {b : β} (h : Yields d (f <$> x) b) :
    ∃ a, Yields d x a ∧ b = f a := by
  obtain ⟨a, ha, hb⟩ := bind (x := x) (f := fun a => Pure.pure (f a)) h
  exact ⟨a, ha, pure hb⟩

theorem within {path : Path} {place : Place} {x : Reading ε α} {a : α}
    (h : Yields d (within path place x) a) : Yields d x a := by
  obtain ⟨n, n', h⟩ := h
  refine ⟨n, n', ?_⟩
  change tryCatch (StateT.run (ReaderT.run x d) n) _ = _ at h
  cases hx : StateT.run (ReaderT.run x d) n with
  | ok v =>
    rw [hx] at h
    exact h
  | error e =>
    -- A complaint may get a place, but it stays a complaint.
    rw [hx] at h
    rcases e with _ | _ | _ | _ | _ | ⟨c, _ | spot⟩ <;> cases h

theorem enter {place : Place} {read : Nat → Reading ε α} {a : α}
    (h : Yields d (enter site place read) a) : ∃ depth, Yields d (read depth) a := by
  rw [Reading.enter] at h
  split at h
  · exact h.throw.elim
  · exact ⟨_, h⟩

/-- Following an alias leads to the node that it stands for. -/
theorem follow {site' : Site} (h : Yields d (follow site : Reading ε Site) site') :
    d.Resolves site.node site'.node := by
  rw [Reading.follow] at h
  split at h
  · next heq =>
    obtain ⟨d', hd, h⟩ := bind h
    obtain rfl : d' = d := by
      obtain ⟨n, n', hd⟩ := hd
      cases hd
      rfl
    obtain ⟨n, -, h⟩ := bind h
    dsimp only at h
    split at h
    · obtain ⟨_, h, -⟩ := bind h
      exact h.throw.elim
    · split at h
      · next node hnode =>
        rw [pure h, heq]
        exact hnode
      · exact h.throw.elim
  · next hne =>
    rw [pure h, Document.Resolves]
    exact hne

theorem mapM {f : α → Reading ε β} {l : List α} {bs : List β} (h : Yields d (l.mapM f) bs) :
    List.Forall₂ (fun a b => Yields d (f a) b) l bs := by
  induction l generalizing bs with
  | nil =>
    rw [List.mapM_nil] at h
    rw [pure h]
    exact .nil
  | cons a l ih =>
    rw [List.mapM_cons] at h
    obtain ⟨b, hb, h⟩ := bind h
    obtain ⟨bs', hbs, h⟩ := bind h
    rw [pure h]
    exact .cons hb (ih hbs)

/-- What every step keeps, all steps keep. -/
theorem foldlM {f : β → α → Reading ε β} {keeps : β → Prop} {l : List α}
    (step : ∀ a ∈ l, ∀ b b', keeps b → Yields d (f b a) b' → keeps b') {b b' : β} (hb : keeps b)
    (h : Yields d (l.foldlM f b) b') : keeps b' := by
  induction l generalizing b with
  | nil =>
    rw [List.foldlM_nil] at h
    rw [pure h]
    exact hb
  | cons a l ih =>
    rw [List.foldlM_cons] at h
    rw [List.forall_mem_cons] at step
    obtain ⟨c, hc, h⟩ := bind h
    exact ih step.2 (step.1 b c hb hc) h

theorem text {expected s : String} (h : Yields d (text expected site : Reading ε String) s) :
    ∃ head style, d.Resolves site.node (.scalar head s style) := by
  rw [Reading.text] at h
  obtain ⟨site', hsite, h⟩ := bind h
  have hnode := hsite.follow
  split at h
  · exact h.throw.elim
  · next head s' style heq =>
    rw [heq] at hnode
    rw [pure h]
    exact ⟨head, style, hnode⟩
  · exact h.within.throw.elim
  · exact h.within.throw.elim
  · exact h.throw.elim
  · exact h.throw.elim

theorem wrongScalar {head : Head} {s expected : String} {style : Style} {a : α}
    (h : Yields d (wrongScalar head s style expected : Reading ε α) a) : False := by
  rw [Reading.wrongScalar] at h
  split at h <;> exact h.throw

theorem noCollection {expected : String} {a : α}
    (h : Yields d (noCollection expected site : Reading ε α) a) : False := by
  rw [Reading.noCollection] at h
  split at h
  · exact h.throw
  · exact h.within.wrongScalar
  · exact h.within.throw
  · exact h.within.throw
  · exact h.throw
  · exact h.throw

/-- A list is absent, or each of its items was read. -/
theorem list {item : Site → Reading ε α} {as : List α} (h : Yields d (list item site) as) :
    as = [] ∨ ∃ head nodes, d.Resolves site.node (.sequence head nodes) ∧
      List.Forall₂ (fun node a => ∃ path depth, Yields d (item ⟨node, path, depth⟩) a) nodes as := by
  rw [Reading.list] at h
  obtain ⟨site', hsite, h⟩ := bind h
  have hnode := hsite.follow
  split at h
  · exact .inl (pure h)
  · split at h
    · next head nodes heq =>
      rw [heq] at hnode
      obtain ⟨depth, h⟩ := enter (within h)
      refine .inr ⟨head, nodes, hnode, ?_⟩
      have hitems : List.Forall₂ (fun p a => ∃ path depth, Yields d (item ⟨p.1, path, depth⟩) a)
          nodes.zipIdx as := (mapM h).imp fun p a hp => ⟨_, _, hp⟩
      rw [← List.zipIdx_map_fst 0 nodes]
      exact List.forall₂_map_left_iff.2 hitems
    · exact h.noCollection.elim

/-- A record keeps what each of its entries keeps. -/
theorem record {expected : String} {field : String → Site → α → Reading ε α} {start a : α}
    {keeps : α → Prop} (hstart : keeps start)
    (step : ∀ name node, d.HasEntry site.node name node → ∀ path depth b b', keeps b →
      Yields d (field name ⟨node, path, depth⟩ b) b' → keeps b')
    (h : Yields d (record expected field start site) a) : keeps a := by
  rw [Reading.record] at h
  obtain ⟨site', hsite, h⟩ := bind h
  have hnode := hsite.follow
  split at h
  · rw [pure h]
    exact hstart
  · split at h
    · next head entries heq =>
      rw [heq] at hnode
      obtain ⟨depth, h⟩ := enter (within h)
      refine foldlM (fun entry hentry b b' hb h => ?_) hstart h
      obtain ⟨name, hname, h⟩ := bind h
      obtain ⟨keyHead, style, hkey⟩ := text hname
      exact step name _ ⟨head, entries, _, keyHead, style, hnode, hentry, hkey⟩ _ _ b b' hb h
    · exact h.noCollection.elim

end Yields

/-- What a text is read as is what its document is read as, from the root. -/
theorem yields_of_run {read : Site → Reading ε α} {text : String} {a : α}
    (h : run read text = .ok a) :
    Yields (Document.ofText text) (read { node := (Document.ofText text).root }) a := by
  obtain ⟨⟨a', n⟩, ha, h⟩ := bind_eq_ok_iff.1 h
  dsimp only at h
  split at h
  · cases h
  · split at h
    · cases h
    · cases h
      exact ⟨0, n, ha⟩

end Reading

end Lintscope.Yaml

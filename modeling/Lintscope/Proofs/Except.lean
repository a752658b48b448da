import Mathlib.Data.List.Forall2

/-!
# Work that succeeds

Work that may fail succeeds if all of its parts do.
-/

namespace Lintscope

variable {ε α β : Type}

theorem bind_eq_ok_iff {a : Except ε α} {f : α → Except ε β} {b : β} :
    a >>= f = .ok b ↔ ∃ v, a = .ok v ∧ f v = .ok b := by
  cases a with
  | ok v => exact ⟨fun h => ⟨v, rfl, h⟩, fun ⟨_, hv, h⟩ => Except.ok.inj hv ▸ h⟩
  | error e => exact ⟨nofun, nofun⟩

theorem bind_eq_error_iff {a : Except ε α} {f : α → Except ε β} {e : ε} :
    a >>= f = .error e ↔ a = .error e ∨ ∃ v, a = .ok v ∧ f v = .error e := by
  cases a with
  | ok v =>
    refine ⟨fun h => .inr ⟨v, rfl, h⟩, ?_⟩
    rintro (h | ⟨_, hv, h⟩)
    · cases h
    · exact Except.ok.inj hv ▸ h
  | error e' =>
    refine ⟨fun h => .inl (congrArg _ (Except.error.inj h)), ?_⟩
    rintro (h | ⟨_, hv, -⟩)
    · exact congrArg _ (Except.error.inj h)
    · cases hv

theorem mapError_eq_ok_iff {δ : Type} {a : Except ε α} {f : ε → δ} {v : α} :
    a.mapError f = .ok v ↔ a = .ok v := by
  cases a with
  | ok w => exact ⟨fun h => congrArg _ (Except.ok.inj h), fun h => congrArg _ (Except.ok.inj h)⟩
  | error e => exact ⟨nofun, nofun⟩

theorem map_eq_ok_iff {a : Except ε α} {f : α → β} {b : β} :
    f <$> a = .ok b ↔ ∃ v, a = .ok v ∧ f v = b := by
  cases a with
  | ok v => exact ⟨fun h => ⟨v, rfl, Except.ok.inj h⟩, fun ⟨_, hv, h⟩ => Except.ok.inj hv ▸ h ▸ rfl⟩
  | error e => exact ⟨nofun, nofun⟩

theorem exists_of_isOk {a : Except ε α} (h : a.isOk = true) : ∃ v, a = .ok v := by
  cases a with
  | ok v => exact ⟨v, rfl⟩
  | error e => cases h

theorem isOk_map (f : α → β) (a : Except ε α) : (f <$> a).isOk = a.isOk := by
  cases a <;> rfl

theorem isOk_bind_congr {a : Except ε α} {δ : Type} {f : α → Except ε β} {g : α → Except ε δ}
    (h : ∀ v, a = .ok v → (f v).isOk = (g v).isOk) : (a >>= f).isOk = (a >>= g).isOk := by
  cases a with
  | ok v => exact h v rfl
  | error e => rfl

theorem foldlM_cons_eq_ok_iff {f : β → α → Except ε β} {a : α} {l : List α} {b b' : β} :
    (a :: l).foldlM f b = .ok b' ↔ ∃ c, f b a = .ok c ∧ l.foldlM f c = .ok b' := by
  rw [List.foldlM_cons, bind_eq_ok_iff]

/-- What every step that is done keeps, all steps keep. -/
theorem foldlM_keeps_of_mem {f : β → α → Except ε β} {p : β → Prop} {l : List α}
    (step : ∀ a ∈ l, ∀ b b', p b → f b a = .ok b' → p b') {b b' : β} (hb : p b)
    (h : l.foldlM f b = .ok b') : p b' := by
  induction l generalizing b with
  | nil =>
    cases h
    exact hb
  | cons a l ih =>
    rw [List.forall_mem_cons] at step
    obtain ⟨c, hc, h⟩ := foldlM_cons_eq_ok_iff.1 h
    exact ih step.2 (step.1 b c hb hc) h

/-- What every step keeps, all steps keep. -/
theorem foldlM_keeps {f : β → α → Except ε β} {keeps : β → Prop}
    (step : ∀ b a b', keeps b → f b a = .ok b' → keeps b') {l : List α} {b b' : β} (hb : keeps b)
    (h : l.foldlM f b = .ok b') : keeps b' :=
  foldlM_keeps_of_mem (fun a _ b b' => step b a b') hb h

/-- What commutes with every step commutes with all steps. -/
theorem foldlM_map {f : β → α → Except ε β} {g : β → β} (h : ∀ b a, f (g b) a = g <$> f b a)
    (l : List α) (b : β) : l.foldlM f (g b) = g <$> l.foldlM f b := by
  induction l generalizing b with
  | nil => rfl
  | cons a l ih =>
    rw [List.foldlM_cons, List.foldlM_cons, h]
    cases f b a with
    | error e => rfl
    | ok c => exact ih c

/-- What is done the same way item by item, from wherever the items before have left
    off, is done the same way in the whole. -/
theorem foldlM_flatMap_congr {γ : Type} {step : β → γ → Except ε β} {stands : β → Prop}
    {f g : α → List γ} {l : List α}
    (h : ∀ a ∈ l, ∀ b, stands b → (f a).foldlM step b = (g a).foldlM step b ∧
      ∀ b', (g a).foldlM step b = .ok b' → stands b') {b : β} (hb : stands b) :
    (l.flatMap f).foldlM step b = (l.flatMap g).foldlM step b := by
  induction l generalizing b with
  | nil => rfl
  | cons a l ih =>
    rw [List.forall_mem_cons] at h
    obtain ⟨heq, hstands⟩ := h.1 b hb
    rw [List.flatMap_cons, List.flatMap_cons, List.foldlM_append, List.foldlM_append, heq]
    cases hg : (g a).foldlM step b with
    | error e => rfl
    | ok c => exact ih h.2 (hstands c hg)

/-- Each element comes to what stands in its place. -/
theorem forall₂_of_mapM_eq_ok {f : α → Except ε β} {l : List α} {bs : List β}
    (h : l.mapM f = .ok bs) : List.Forall₂ (fun a b => f a = .ok b) l bs := by
  induction l generalizing bs with
  | nil =>
    cases h
    exact .nil
  | cons a l ih =>
    rw [List.mapM_cons] at h
    obtain ⟨b, hb, h⟩ := bind_eq_ok_iff.1 h
    obtain ⟨bs', hbs, h⟩ := bind_eq_ok_iff.1 h
    cases h
    exact .cons hb (ih hbs)

theorem exists_of_mem_of_mapM_eq_ok {f : α → Except ε β} {l : List α} {bs : List β}
    (h : l.mapM f = .ok bs) : ∀ b ∈ bs, ∃ a ∈ l, f a = .ok b := by
  have hall := forall₂_of_mapM_eq_ok h
  clear h
  induction hall with
  | nil => nofun
  | cons hab _ ih =>
    refine List.forall_mem_cons.2 ⟨⟨_, List.mem_cons_self, hab⟩, fun b hb => ?_⟩
    obtain ⟨a, ha, hab⟩ := ih b hb
    exact ⟨a, List.mem_cons_of_mem _ ha, hab⟩

/-- Only from nothing comes nothing. -/
theorem mapM_eq_ok_nil_iff {f : α → Except ε β} {l : List α} : l.mapM f = .ok [] ↔ l = [] := by
  cases l with
  | nil => exact ⟨fun _ => rfl, fun _ => rfl⟩
  | cons a l =>
    refine ⟨fun h => ?_, nofun⟩
    rw [List.mapM_cons, bind_eq_ok_iff] at h
    obtain ⟨b, -, h⟩ := h
    obtain ⟨bs, -, h⟩ := bind_eq_ok_iff.1 h
    cases h

/-- The reason for the whole is that of an element. -/
theorem exists_of_mapM_eq_error {f : α → Except ε β} {l : List α} {e : ε}
    (h : l.mapM f = .error e) : ∃ a ∈ l, f a = .error e := by
  induction l with
  | nil => cases h
  | cons a l ih =>
    rw [List.mapM_cons, bind_eq_error_iff] at h
    rcases h with ha | ⟨b, -, h⟩
    · exact ⟨a, List.mem_cons_self, ha⟩
    · rcases bind_eq_error_iff.1 h with hl | ⟨bs, -, hbs⟩
      · obtain ⟨c, hc, he⟩ := ih hl
        exact ⟨c, List.mem_cons_of_mem a hc, he⟩
      · cases hbs

theorem exists_mapM_eq_error {f : α → Except ε β} {l : List α} {a : α} {e : ε} (ha : a ∈ l)
    (h : f a = .error e) : ∃ e', l.mapM f = .error e' := by
  induction l with
  | nil => cases ha
  | cons c l ih =>
    rw [List.mapM_cons]
    cases hc : f c with
    | error e' => exact ⟨e', rfl⟩
    | ok b =>
      rcases List.mem_cons.1 ha with rfl | ha
      · cases h.symm.trans hc
      · obtain ⟨e', hl⟩ := ih ha
        exact ⟨e', by rw [hl]; rfl⟩

/-- If elements give one and the same reason, the whole gives it if one of them does. -/
theorem mapM_eq_error_iff {f : α → Except ε β} {l : List α} {e e' : ε} {p : α → Prop}
    (h : ∀ a e', f a = .error e' ↔ e' = e ∧ p a) :
    l.mapM f = .error e' ↔ e' = e ∧ ∃ a ∈ l, p a := by
  constructor
  · intro hl
    obtain ⟨a, ha, he⟩ := exists_of_mapM_eq_error hl
    obtain ⟨rfl, hp⟩ := (h a e').1 he
    exact ⟨rfl, a, ha, hp⟩
  · rintro ⟨rfl, a, ha, hp⟩
    obtain ⟨e, hl⟩ := exists_mapM_eq_error ha ((h a e').2 ⟨rfl, hp⟩)
    obtain ⟨b, -, hb⟩ := exists_of_mapM_eq_error hl
    rw [hl, ((h b e).1 hb).1]

end Lintscope

import Lintscope.Proofs.Except
import Lintscope.Run

/-!
# What comes of work that calls programs

A piece of work never looks at the launches that were made before it: it puts
its own behind them. So what comes of it and what it launches do not depend on
when it is done (`Calling.Gives`), and each way of putting work together has a
rule that tells both.

* `Calling.Gives.bind`: one piece of work after another;
* `Calling.Gives.attempt`: work that is given a chance;
* `Calling.Gives.mapM`: work on all elements of a list.
-/

namespace Lintscope.Calling

variable {ε δ α β : Type}

/-- What comes of a piece of work before which nothing was launched. -/
def result (x : Calling ε α) : Except ε α := (x.run.run []).1

/-- What comes of a piece of work, and what it launches, at any time. -/
def Gives (x : Calling ε α) (a : Except ε α) (ls : List World.Launch) : Prop :=
  ∀ log, x.run.run log = (a, log ++ ls)

/-- What is launched after a piece of work; nothing if the work failed. -/
def follow (a : Except ε α) (next : α → List World.Launch) : List World.Launch :=
  match a with
  | .ok v => next v
  | .error _ => []

theorem follow_nil (a : Except ε α) : follow a (fun _ => []) = [] := by
  cases a <;> rfl

theorem follow_mapError (a : Except ε α) (f : ε → δ) (next : α → List World.Launch) :
    follow (a.mapError f) next = follow a next := by
  cases a <;> rfl

namespace Gives

variable {x : Calling ε α} {a : Except ε α} {ls : List World.Launch}

theorem result_eq (h : x.Gives a ls) : x.result = a := congrArg Prod.fst (h [])

/-- What comes of the work is what would come of it at first. -/
theorem gives_result (h : x.Gives a ls) : x.Gives x.result ls := by
  rw [h.result_eq]
  exact h

theorem fst_run (h : x.Gives a ls) (log : List World.Launch) : (x.run.run log).1 = x.result := by
  rw [h log, h.result_eq]

theorem pure (v : α) : Gives (Pure.pure v : Calling ε α) (.ok v) [] := fun log =>
  congrArg (Except.ok v, ·) (List.append_nil log).symm

theorem throw (e : ε) : Gives (throw e : Calling ε α) (.error e) [] := fun log =>
  congrArg (Except.error e, ·) (List.append_nil log).symm

theorem ofExcept (a : Except ε α) : Gives (MonadExcept.ofExcept a : Calling ε α) a [] := by
  cases a with
  | ok v => exact pure v
  | error e => exact throw e

theorem launch (w : World) (directory : String) (call : World.Call) :
    Gives (Calling.launch w directory call : Calling ε World.Launch)
      (.ok (w.launch directory call)) [w.launch directory call] :=
  fun _ => rfl

theorem bind (hx : x.Gives a ls) {f : α → Calling ε β} {g : α → Except ε β}
    {next : α → List World.Launch} (hf : ∀ v, a = .ok v → (f v).Gives (g v) (next v)) :
    (x >>= f).Gives (a >>= g) (ls ++ follow a next) := by
  intro log
  have hbind : (x >>= f).run.run log = match x.run.run log with
      | (.ok v, log) => (f v).run.run log
      | (.error e, log) => (.error e, log) := by
    change (match x.run.run log with
      | (b, log) => (ExceptT.bindCont f b).run log) = _
    rcases x.run.run log with ⟨v | e, log'⟩ <;> rfl
  rw [hbind, hx log]
  cases a with
  | error e => exact congrArg (Except.error e, ·) (by rw [follow, List.append_nil])
  | ok v =>
    rw [follow, ← List.append_assoc]
    exact hf v rfl (log ++ ls)

/-- What follows the work launches nothing. -/
theorem bind_silent (hx : x.Gives a ls) {f : α → Calling ε β} {g : α → Except ε β}
    (hf : ∀ v, a = .ok v → (f v).Gives (g v) []) : (x >>= f).Gives (a >>= g) ls := by
  have h := hx.bind hf
  rwa [follow_nil, List.append_nil] at h

/-- The work succeeds, and what follows launches nothing. -/
theorem bind_ok {v : α} (hx : x.Gives (.ok v) ls) {f : α → Calling ε β} {b : Except ε β}
    (hf : (f v).Gives b []) : (x >>= f).Gives b ls :=
  hx.bind_silent (g := fun _ => b) fun _ hv => Except.ok.inj hv ▸ hf

/-- A chance always comes to something: what comes of the work. -/
theorem attempt (h : x.Gives a ls) : (x.attempt : Calling δ (Except ε α)).Gives (.ok a) ls := by
  intro log
  change ((Except.ok (x.run.run log).1 : Except δ (Except ε α)), (x.run.run log).2) = _
  rw [h log]

theorem adapt (h : x.Gives a ls) (f : ε → δ) :
    Gives (ExceptT.adapt f x : Calling δ α) (a.mapError f) ls := by
  intro log
  change ((x.run.run log).1.mapError f, (x.run.run log).2) = _
  rw [h log]

theorem mapM {f : β → Calling ε α} {g : β → α} {next : β → List World.Launch}
    (h : ∀ b, (f b).Gives (.ok (g b)) (next b)) (bs : List β) :
    (bs.mapM f).Gives (.ok (bs.map g)) (bs.flatMap next) := by
  induction bs with
  | nil => exact pure []
  | cons b bs ih =>
    rw [List.mapM_cons]
    exact (h b).bind fun v _ => ih.bind_silent fun vs _ => pure (v :: vs)

end Gives

end Lintscope.Calling

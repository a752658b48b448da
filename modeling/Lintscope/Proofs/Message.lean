import Lintscope.Message
import Lintscope.Proofs.Path
import Lintscope.Tool.Failure

/-!
# Messages in normal form

A message about a file is normal if its path is canonical, its line and its column, if it has them,
count from one, and its code, if it has one, is not empty (`Message.IsNormal`). A message starts
normal (`Message.IsNormal.about`), and stays so whatever is put in.
-/

namespace Lintscope.Message

/-- A message about a file in normal form. -/
structure IsNormal (m : Message) : Prop where
  path : ∃ path, m.path = some path ∧ Path.IsCanonical path
  line : ∀ n ∈ m.line, 1 ≤ n
  column : ∀ n ∈ m.column, 1 ≤ n
  code : ∀ s ∈ m.code, s ≠ ""

/-- If work succeeds, it makes normal messages only. -/
def AllNormal (work : Except Failure (List Message)) : Prop :=
  ∀ ms, work = .ok ms → ∀ m ∈ ms, m.IsNormal

theorem one_le_of_mem_positive? {n : Option Nat} : ∀ k ∈ positive? n, 1 ≤ k := by
  intro k hk
  exact of_decide_eq_true (Option.filter_eq_some_iff.1 hk).2

namespace IsNormal

theorem about (path : String) (line : Option Nat) (text : String) :
    (Message.about path line text).IsNormal where
  path := ⟨_, rfl, Path.isCanonical_canonical path⟩
  line := one_le_of_mem_positive?
  column := nofun
  code := nofun

variable {m : Message} (h : m.IsNormal)
include h

theorem withColumn (column : Option Nat) : (m.withColumn column).IsNormal :=
  { h with column := one_le_of_mem_positive? }

theorem withLineEnd (lineEnd : Option Nat) : (m.withLineEnd lineEnd).IsNormal := { h with }

theorem withSeverity (severity : Severity) : (m.withSeverity severity).IsNormal := { h with }

theorem withText (text : String) : (m.withText text).IsNormal := { h with }

theorem withCode (code : String) : (m.withCode code).IsNormal := by
  refine { h with code := fun s hs => ?_ }
  rw [Message.withCode] at hs
  split at hs
  · cases hs
  · next hne => exact Option.some.inj hs ▸ hne

end IsNormal

end Lintscope.Message

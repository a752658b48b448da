import Lintscope.Filter
import Lintscope.Proofs.Glob.Checking

/-!
# Patterns that are accepted

A pattern may have any brackets, marks, braces and stars. What a rule does not
accept is a pattern that is empty, or that has a set with a range whose last
character is below its first, but for one slip: a set with a lone caret
(`Filter.Rule.refuses_iff`), which has no range at all
(`Filter.Rule.ofPattern_caret`).
-/

namespace Lintscope.Filter.Rule

open Glob Shell

/-- A pattern as it is read. -/
def canonical (pattern : String) : String := Path.canonical (.ofList (Text.trim pattern.toList))

/-- The parts of a pattern as it is read. -/
def partsOf (pattern : String) : List Shell.Part := parts (canonical pattern).toList

variable {v : Verdict} {pattern : String}

theorem ofPattern_eq_error_iff_of_ne (h : canonical pattern ≠ "") {e : RuleError} :
    ofPattern v pattern = .error e ↔
      ∃ reason, tokens (canonical pattern) = .error reason ∧
        e = .badPattern (canonical pattern) reason := by
  rw [ofPattern, ← canonical, if_neg h]
  generalize canonical pattern = c
  split
  · next ts hts => simp [hts]
  · next reason hreason => simp [hreason, eq_comm]

/-- A pattern without a lone caret is refused for being empty, or for the first of
    its ranges that descends, and for nothing else. -/
theorem ofPattern_eq_error_iff (hcaret : Shell.Part.loneCaret ∉ partsOf pattern) {e : RuleError} :
    ofPattern v pattern = .error e ↔ canonical pattern = "" ∧ e = .noPattern ∨
      canonical pattern ≠ "" ∧
        ∃ r, ((partsOf pattern).flatMap Shell.Part.ranges).find? (Descends ·) = some r ∧
          e = .badPattern (canonical pattern) (.descendingRange r.1 r.2) := by
  by_cases h : canonical pattern = ""
  · rw [ofPattern, ← canonical, if_pos h]
    simp [h, eq_comm]
  · rw [ofPattern_eq_error_iff_of_ne h, tokens, or_iff_right fun hempty => h hempty.1,
      and_iff_right h]
    simp only [(checks_parse hcaret).eq_error_iff]
    constructor
    · rintro ⟨_, ⟨r, hr, rfl⟩, rfl⟩
      exact ⟨r, hr, rfl⟩
    · rintro ⟨r, hr, rfl⟩
      exact ⟨_, ⟨r, hr, rfl⟩, rfl⟩

/-- What is refused: a pattern that is empty, and one with a set with a range whose
    last character is below its first; if no set has a lone caret, nothing else
    is. If one has, and no other closing bracket follows, this is refused too. -/
theorem refuses_iff (v : Verdict) (pattern : String) :
    (Shell.Part.loneCaret ∉ partsOf pattern →
      ((∃ e, ofPattern v pattern = .error e) ↔
        canonical pattern = "" ∨ ∃ p ∈ partsOf pattern, ∃ r ∈ p.ranges, r.2 < r.1)) ∧
    ∀ before after, partsOf pattern = before ++ Shell.Part.loneCaret :: after →
      Shell.Part.loneCaret ∉ before → (∀ p ∈ after, ']' ∉ p.glob) →
        ∃ reason, ofPattern v pattern = .error (.badPattern (canonical pattern) reason) := by
  constructor
  · intro hcaret
    have hdescends :
        (∃ r, ((partsOf pattern).flatMap Shell.Part.ranges).find? (Descends ·) = some r) ↔
          ∃ p ∈ partsOf pattern, ∃ r ∈ p.ranges, r.2 < r.1 := by
      rw [exists_find?_descends_iff]
      simp only [List.mem_flatMap]
      constructor
      · rintro ⟨r, ⟨p, hp, hr⟩, hlt⟩
        exact ⟨p, hp, r, hr, hlt⟩
      · rintro ⟨p, hp, r, hr, hlt⟩
        exact ⟨r, ⟨p, hp, hr⟩, hlt⟩
    rw [← hdescends]
    simp only [ofPattern_eq_error_iff hcaret]
    by_cases hempty : canonical pattern = ""
    · simp [hempty]
    · simp only [hempty, false_and, false_or, ne_eq, not_false_eq_true, true_and]
      exact ⟨fun ⟨_, r, hr, _⟩ => ⟨r, hr⟩, fun ⟨r, hr⟩ => ⟨_, r, hr, rfl⟩⟩
  · intro before after hparts hbefore hafter
    have hne : canonical pattern ≠ "" := by
      intro h
      have hnil : partsOf pattern = [] := by
        rw [partsOf, h]
        exact parts.eq_1
      rw [hnil] at hparts
      simp at hparts
    obtain ⟨reason, hreason⟩ := exists_parse_eq_error hparts hbefore hafter
    exact ⟨reason, (ofPattern_eq_error_iff_of_ne hne).2 ⟨reason, hreason, rfl⟩⟩

/-- Sets that begin with marks and brackets, braces, stars and an open bracket, and
    what is refused: a range that another one continues, and a lone caret. -/
theorem refuses_iff_marks :
    (¬∃ e, ofPattern .keep " [!]-^][^-A]\x7b**\x7d[^ " = .error e) ∧
      (∃ e, ofPattern .keep "[]b-d-a]" = .error e) ∧
        ∃ reason, ofPattern .keep "*[!^][^]/?" = .error (.badPattern "*[!^][^]/?" reason) := by
  refine ⟨?_, ?_, ?_⟩
  · rw [(refuses_iff .keep _).1 (by decide +kernel)]
    decide +kernel
  · rw [(refuses_iff .keep _).1 (by decide +kernel)]
    decide +kernel
  · have hcanonical : canonical "*[!^][^]/?" = "*[!^][^]/?" := by decide +kernel
    have h := (refuses_iff .keep "*[!^][^]/?").2 [.star, .set true ['^']] [.char '/', .any]
      (by decide +kernel) (by decide) (by decide)
    rwa [hcanonical] at h

/-- A set with a lone caret has no range at all, and is refused. -/
theorem ofPattern_caret :
    partsOf "[^]" = [Shell.Part.loneCaret] ∧ Shell.Part.loneCaret.ranges = [] ∧
      canonical "[^]" = "[^]" ∧
        ofPattern .keep "[^]" = .error (.badPattern "[^]" .unclosedSet) := by
  refine ⟨by decide +kernel, rfl, by decide +kernel, ?_⟩
  rfl

end Lintscope.Filter.Rule

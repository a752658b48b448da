/-!
# Cutting texts

A text is cut at the first or the last place where a separator stands, into
what comes before and what comes after it.
-/

namespace Lintscope.Text

/-- What follows `lead` in a list that starts with it. -/
def dropLead? {α : Type} [DecidableEq α] : List α → List α → Option (List α)
  | [], s => some s
  | _ :: _, [] => none
  | a :: lead, c :: s => if a = c then dropLead? lead s else none

/-- What precedes `tail` in a text that ends with it. -/
def dropTail? (tail s : List Char) : Option (List Char) :=
  (dropLead? tail.reverse s.reverse).map List.reverse

/-- The text without `lead`, if it starts with it. -/
def dropLead (lead s : List Char) : List Char := (dropLead? lead s).getD s

/-- Whether a text starts with `lead`. -/
def startsWith (lead s : List Char) : Bool := (dropLead? lead s).isSome

/-- Whether a text ends with `tail`. -/
def endsWith (tail s : List Char) : Bool := (dropTail? tail s).isSome

/-- What stands before and after the first `sep` in a text. -/
def cut? (sep : List Char) (s : List Char) : Option (List Char × List Char) :=
  match dropLead? sep s with
  | some rest => some ([], rest)
  | none =>
    match s with
    | [] => none
    | c :: s => (cut? sep s).map fun (before, after) => (c :: before, after)

/-- What stands before and after the last `sep` in a text. -/
def cutLast? (sep : List Char) : List Char → Option (List Char × List Char)
  | [] => (dropLead? sep []).map ([], ·)
  | c :: s =>
    match cutLast? sep s with
    | some (before, after) => some (c :: before, after)
    | none => (dropLead? sep (c :: s)).map ([], ·)

/-- Whether `part` stands somewhere in a text. -/
def contains (part s : List Char) : Bool := (cut? part s).isSome

/-- The maximal runs of characters of a text that do not satisfy `sep`. -/
def wordsBy (sep : Char → Bool) : List Char → List (List Char)
  | [] => []
  | c :: s =>
    if sep c then wordsBy sep s
    else
      match s with
      | [] => [[c]]
      | d :: _ =>
        if sep d then [c] :: wordsBy sep s
        else
          match wordsBy sep s with
          | [] => [[c]]
          | w :: ws => (c :: w) :: ws

/-- Texts put together with `sep` between them. -/
def join (sep : List Char) (parts : List (List Char)) : List Char :=
  sep.intercalate parts

theorem dropLead?_eq_some_iff {α : Type} [DecidableEq α] {lead s rest : List α} :
    dropLead? lead s = some rest ↔ s = lead ++ rest := by
  fun_induction dropLead? lead s with
  | case1 s => simp [eq_comm]
  | case2 => simp
  | case3 lead c s ih => simpa using ih
  | case4 a lead c s hne => simp [Ne.symm hne]

theorem append_of_cut? {sep s before after : List Char} (h : cut? sep s = some (before, after)) :
    s = before ++ sep ++ after := by
  induction s generalizing before with
  | nil =>
    unfold cut? at h
    split at h
    · next rest hp =>
      simp only [Option.some.injEq, Prod.mk.injEq] at h
      obtain ⟨rfl, rfl⟩ := h
      simpa using dropLead?_eq_some_iff.mp hp
    · simp at h
  | cons c s ih =>
    unfold cut? at h
    split at h
    · next rest hp =>
      simp only [Option.some.injEq, Prod.mk.injEq] at h
      obtain ⟨rfl, rfl⟩ := h
      simpa using dropLead?_eq_some_iff.mp hp
    · simp only [Option.map_eq_some_iff, Prod.mk.injEq, Prod.exists] at h
      obtain ⟨b, a, hb, rfl, rfl⟩ := h
      simpa using ih hb

end Lintscope.Text

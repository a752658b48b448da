import Lintscope.Text.Blank
import Lintscope.Text.Cut
import Lintscope.Text.Numeral

/-!
# Parts

Part `N/M` of a list holds every `M`-th item, beginning with the `N`-th.
-/

namespace Lintscope

open Text

/-- Every `count`-th item of a list, beginning with the `index`-th. -/
structure Part where
  /-- The place of the first item, counted from one. -/
  index : Nat
  /-- The number of parts. -/
  count : Nat
  /-- Places count from one. -/
  pos : 0 < index
  /-- There is no part beyond the last. -/
  le : index ≤ count
  deriving DecidableEq, Repr

namespace Part

/-- Why there is no such part. -/
inductive Error where
  /-- The place is not one of the parts. -/
  | outOfRange (index count : Nat)
  /-- The text is not of the form `N/M`. -/
  | malformed (text : String)
  deriving DecidableEq, Repr

/-- What is wrong with a part. -/
def Error.message : Error → String
  | outOfRange index count =>
    "invalid part " ++ toString index ++ "/" ++ toString count ++
      ": the first number must be in the range [1, " ++ toString (max count 1) ++ "]"
  | malformed text => "invalid part '" ++ text ++ "': expected N/M, e.g. 1/3"

/-- The part with an index and a count. -/
def make (index count : Nat) : Except Error Part :=
  if h : 0 < index ∧ index ≤ count then .ok ⟨index, count, h.1, h.2⟩
  else .error (.outOfRange index count)

/-- The part that a text describes. -/
def parse (text : String) : Except Error Part :=
  let number? (s : List Char) := natOfNumeral? limit64 (trim s)
  match cut? ['/'] text.toList with
  | none => .error (.malformed text)
  | some (index, count) =>
    match number? index, number? count with
    | some index, some count => make index count
    | _, _ => .error (.malformed text)

variable {α : Type} (p : Part)

/-- Whether the part holds the item at a place, counted from zero. -/
def holds (place : Nat) : Bool := place % p.count = p.index - 1

/-- The items of a list that the part holds. -/
def of (items : List α) : List α :=
  (items.zipIdx.filter fun (_, place) => p.holds place).map Prod.fst

end Part

end Lintscope

/-!
# Ascending lists

A finite set over a linear order as the list of its members in strictly
ascending order, so that two sets with the same members are equal.
-/

namespace Lintscope.Ascending

variable {α : Type} [LT α] [DecidableLT α]

/-- The list with `x` put at its place, unless it is there. -/
def insert (x : α) : List α → List α
  | [] => [x]
  | y :: ys => if x < y then x :: y :: ys else if y < x then y :: insert x ys else y :: ys

/-- The members of a list in strictly ascending order. -/
def ofList (xs : List α) : List α := xs.foldr insert []

end Lintscope.Ascending

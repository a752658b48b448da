/-!
# Shell patterns

In a shell pattern `*`, `?` and closed brackets are special and nothing else
is: braces and a bracket that is never closed stand for themselves. The glob
of a shell pattern is the pattern with these characters set in brackets.
-/

namespace Lintscope.Glob.Shell

/-- The text after the bracket that closes a set, where `s` is what follows
    its opening; a bracket right after the opening is a member. -/
def afterMembers? (s : List Char) : Option (List Char) :=
  let body := match s with
    | '!' :: s => s
    | s => s
  let body := match body with
    | ']' :: s => s
    | s => s
  match body.dropWhile (· != ']') with
  | [] => none
  | _ :: rest => some rest

/-- The glob of a pattern; `copy` of its characters belong to a set and are
    taken as they are. -/
def globFrom (copy : Nat) : List Char → List Char
  | [] => []
  | c :: s =>
    if 0 < copy then c :: globFrom (copy - 1) s
    else if c = '{' ∨ c = '}' then '[' :: c :: ']' :: globFrom 0 s
    else if c = '[' then
      match afterMembers? s with
      | some rest => '[' :: globFrom (s.length - rest.length) s
      | none => '[' :: '[' :: ']' :: globFrom 0 s
    else c :: globFrom 0 s

/-- The glob of a shell pattern. -/
def glob (pattern : List Char) : List Char := globFrom 0 pattern

end Lintscope.Glob.Shell

import Lintscope.Diff.Index
import Lintscope.Message

/-!
# Scope

A message is *in scope* when it concerns changed code. Without an index every
message is; with one, a message about a file is as its path and its lines say,
and a message about a file that is gone is of no use to anybody.
-/

namespace Lintscope

/-- Whether a range of lines holds one of these lines. -/
def touches (range : Nat × Nat) (lines : List Nat) : Bool :=
  lines.any fun line => range.1 ≤ line && line ≤ range.2

/-- Whether a message about a path in the index is in scope; none if its file
    is gone. -/
def Diff.Index.covers? (i : Diff.Index) (path : String) (m : Message) : Option Bool :=
  match i.lookup path with
  | .deleted => none
  | .new => some true
  | .untouched => some false
  | .changed lines =>
    match m.lineRange with
    | none => some true
    | some range => some (touches range lines)

/-- Whether a message is in scope; none if it must be dropped. -/
def inScope? (index : Option Diff.Index) (m : Message) : Option Bool :=
  match index, m.path with
  | some i, some path => i.covers? path m
  | _, _ => some true

end Lintscope

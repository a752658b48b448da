import Lintscope.Filter

/-!
# Worklists

The files that each linter is to look at: those of a pool that pass the common
filter and then the linter's own. The order of the pool stays.
-/

namespace Lintscope

/-- The files that pass two filters, one after the other. -/
def worklist (files : List String) (common own : Filter) : List String :=
  (files.filter common.keeps).filter own.keeps

/-- The worklists of linters, each with the name of its linter. A name that
    comes again stands for its last filter. -/
def worklists (files : List String) (common : Filter) (linters : List (String × Filter)) :
    List (String × List String) :=
  linters.foldl (fun lists (name, own) =>
    lists.filter (·.1 ≠ name) ++ [(name, worklist files common own)]) []

end Lintscope

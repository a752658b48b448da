import Lintscope.Glob.Shell
import Lintscope.Glob.Table
import Lintscope.Path
import Lintscope.Text.Blank

/-!
# Filters

A filter is a list of rules, each with a verdict and a shell pattern. The
first rule whose pattern describes a path decides whether the path is kept; a
path that no rule describes is not.
-/

namespace Lintscope

/-- What a rule does with the paths that it describes. -/
inductive Verdict where
  /-- The path is kept. -/
  | keep
  /-- The path is left out. -/
  | skip
  deriving DecidableEq, Repr

/-- The sign that a rule with a verdict starts with. -/
def Verdict.sign : Verdict → Char
  | keep => '+'
  | skip => '-'

namespace Filter

/-- Why a text is no rule. -/
inductive RuleError where
  /-- The rule starts with another character than a sign. -/
  | noSign (found : Char) (rule : String)
  /-- The rule is blank. -/
  | empty
  /-- There is no pattern behind the sign. -/
  | noPattern
  /-- The pattern is not a glob. -/
  | badPattern (pattern : String) (reason : Glob.Error)
  deriving DecidableEq, Repr

/-- What is wrong with a rule. -/
def RuleError.message : RuleError → String
  | noSign found rule =>
    "unexpected first character '" ++ found.toString ++ "' in filter rule '" ++ rule ++
      "' (expected '+' or '-')"
  | empty => "filter rule is empty"
  | noPattern => "filter rule has an empty pattern"
  | badPattern pattern reason =>
    "invalid glob pattern '" ++ pattern ++ "': error parsing glob '" ++
      String.ofList (Glob.Shell.glob pattern.toList) ++ "': " ++ reason.message

/-- The tokens of a shell pattern. -/
def tokens (pattern : String) : Except Glob.Error (List Glob.Token) :=
  Glob.parse (Glob.Shell.glob pattern.toList)

/-- A rule of a filter. -/
structure Rule where
  /-- What it does with the paths it describes. -/
  verdict : Verdict
  /-- Its shell pattern, in canonical form. -/
  pattern : String
  /-- The tokens of its pattern. -/
  glob : List Glob.Token
  /-- The pattern is well formed. -/
  tokens_pattern : tokens pattern = .ok glob

namespace Rule

/-- The rule with a pattern, which is trimmed and brought into canonical form. -/
def ofPattern (verdict : Verdict) (pattern : String) : Except RuleError Rule :=
  let pattern := Path.canonical (.ofList (Text.trim pattern.toList))
  if pattern = "" then .error .noPattern
  else
    match h : tokens pattern with
    | .ok glob => .ok ⟨verdict, pattern, glob, h⟩
    | .error reason => .error (.badPattern pattern reason)

/-- The rule written as a sign and a pattern. -/
def parse (text : String) : Except RuleError Rule :=
  let text := Text.trimStart text.toList
  match text with
  | [] => .error .empty
  | '+' :: pattern => ofPattern .keep (.ofList pattern)
  | '-' :: pattern => ofPattern .skip (.ofList pattern)
  | c :: _ => .error (.noSign c (.ofList text))

variable (r : Rule)

/-- Whether the rule describes a path in canonical form. -/
def describes (path : String) : Bool := Glob.accepts r.glob (Utf8.encode path.toList)

/-- The rule as it is shown. -/
def display : String := r.verdict.sign.toString ++ " " ++ r.pattern

end Rule

end Filter

/-- A list of rules. -/
structure Filter where
  /-- The rules, the first that describes a path before the others. -/
  rules : List Filter.Rule

namespace Filter

/-- The filter whose rules are written in a list. -/
def parse (rules : List String) : Except RuleError Filter := Filter.mk <$> rules.mapM Rule.parse

/-- The filter that keeps every path. -/
def all : Filter := ⟨[⟨.keep, "*", [.many], rfl⟩]⟩

variable (f : Filter)

/-- What the filter does with a path. -/
def verdict (path : String) : Verdict :=
  match f.rules.find? (·.describes (Path.canonical path)) with
  | some rule => rule.verdict
  | none => .skip

/-- Whether the filter keeps a path. -/
def keeps (path : String) : Bool := f.verdict path = .keep

/-- The filter as it is shown. -/
def display : String := "[" ++ ", ".intercalate (f.rules.map Rule.display) ++ "]"

end Filter

end Lintscope

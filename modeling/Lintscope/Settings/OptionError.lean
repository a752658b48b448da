import Lintscope.Filter
import Lintscope.Linter.Options
import Lintscope.Yaml.Scalar

/-!
# What is wrong with a setting

A linter of the settings may be given badly: the item may name no linter, or
one of its options may not do.
-/

namespace Lintscope.Settings

/-- What is wrong with an option of a linter. -/
inductive OptionError where
  /-- The rules for its files are no list of texts. -/
  | rulesMismatch (m : Mismatch)
  /-- One of the rules is none. -/
  | badRule (e : Filter.RuleError)
  /-- The time that it may take is no number. -/
  | timeoutMismatch (m : Mismatch)
  /-- It may take no time at all. -/
  | zeroTimeout
  /-- Another option does not fit. -/
  | mismatch (m : Mismatch)
  /-- The pattern of a custom linter will not do. -/
  | badPattern (e : OutputPattern.Error)
  /-- The name of a custom linter is not a word. -/
  | badName (name : String)
  /-- The name of a custom linter belongs to another one. -/
  | takenName (name : String)
  /-- The command of a custom linter is none. -/
  | badCommand (e : Shell.CommandError)

/-- The wording of what is wrong with an option. -/
def OptionError.message : OptionError → String
  | rulesMismatch m => "filefilter: " ++ m.message Yaml.wording
  | badRule e => "filefilter: Configuration error: " ++ e.message
  | timeoutMismatch m => "timeout_seconds: " ++ m.message Yaml.wording
  | zeroTimeout => "timeout_seconds must be greater than zero"
  | mismatch m => m.message Yaml.wording
  | badPattern e => e.message
  | badName name => "custom linter name '" ++ name ++ "' must be a non-empty word"
  | takenName name => "custom linter name '" ++ name ++ "' clashes with a built-in linter"
  | badCommand e => e.message

/-- What is wrong with an item of the list of linters. -/
inductive ItemError where
  /-- It is neither a name nor a mapping with one key. -/
  | notSingle
  /-- Its key is no text. -/
  | idNotText
  /-- There is no linter of this name. -/
  | unknownLinter (id : String)
  /-- The options are no mapping. -/
  | optionsNotMapping (id : String)
  /-- An option will not do. -/
  | badOption (id : String) (e : OptionError)

/-- The wording of what is wrong with an item. -/
def ItemError.message : ItemError → String
  | notSingle => "each item of \x60linters\x60 must name exactly one linter, e.g. \x60- flake8:\x60"
  | idNotText => "linter id must be a string"
  | unknownLinter id => "unknown linter: " ++ id
  | optionsNotMapping id => "options for linter '" ++ id ++ "' must be a mapping"
  | badOption id e => "linter '" ++ id ++ "': " ++ e.message

end Lintscope.Settings

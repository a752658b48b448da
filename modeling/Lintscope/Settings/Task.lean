import Lintscope.Settings.OptionFields

/-!
# Tasks

A task is a linter as the settings ask for it: under which name, on which
files, for how long, and with which options. An item of the settings that
describes one is the linter's name, or a mapping from it to the options.
-/

namespace Lintscope

open Yaml (Value)

/-- The filter of the files of a linter, unless the settings give another. -/
def Linter.filter (l : Linter) : Filter := (Filter.parse l.rules).toOption.getD ⟨[]⟩

theorem Linter.parse_rules (l : Linter) : Filter.parse l.rules = .ok l.filter := by
  cases l <;> rfl

/-- A linter that the settings ask for. -/
structure Task where
  /-- The name in reports: that of the linter, or that of a custom one. -/
  id : String
  /-- The files it looks at. -/
  filter : Filter
  /-- The seconds that it may take. -/
  timeout : Option Nat
  /-- Its options. -/
  options : Options

namespace Task

open Settings

variable (t : Task)

/-- The linter that does the task. -/
def linter : Linter := t.options.linter

/-- The language that the task is about. -/
def language : Language :=
  match t.options with
  | .custom o => o.language
  | o => o.linter.language

/-- What the task works on. -/
def style : Style :=
  match t.options with
  | .custom o => o.style
  | o => o.linter.style

/-- The name and the options that an item gives. -/
def splitItem : Value → Except ItemError (String × Value)
  | .text id => .ok (id, .null)
  | .mapping [(key, options)] =>
    match key.text? with
    | some id => .ok (id, options)
    | none => .error .idNotText
  | _ => .error .notSingle

/-- The files of a task. -/
def readFilter (l : Linter) : Option Value → Except OptionError Filter
  | none => .ok l.filter
  | some v => do (Filter.parse (← (list string v).mapError .rulesMismatch)).mapError .badRule

/-- The seconds that a task may take, at least one if there is a limit. -/
def readTimeout : Option Value → Except OptionError (Option Nat)
  | none | some .null => .ok none
  | some v => do
    let seconds ← (natural64 v).mapError .timeoutMismatch
    if seconds = 0 then .error .zeroTimeout else return some seconds

/-- The name of a task: that of its linter, or for a custom linter its own
    name, which must be a word that no other linter goes by. -/
def readName (l : Linter) (o : Options) : Except OptionError String :=
  match o with
  | .custom o => do
    let name := Text.trim o.name.toList
    if name.isEmpty ∨ name.any Text.isBlank then .error (.badName o.name)
    let name := String.ofList name
    if (Linter.ofId? name).isSome then .error (.takenName name)
    let _ ← (Shell.Command.parse o.command).mapError .badCommand
    return name
  | _ => .ok l.id

/-- The task of a linter that the entries of a mapping describe. -/
def ofEntries (l : Linter) (entries : List (Value × Value)) : Except OptionError Task := do
  let (rules, entries) := Value.takeEntry "filefilter" entries
  let filter ← readFilter l rules
  let (timeout, entries) := Value.takeEntry "timeout_seconds" entries
  let timeout ← readTimeout timeout
  let options ← readOptions l entries
  let id ← readName l options
  return ⟨id, filter, timeout, options⟩

/-- The task that an item of the settings describes. -/
def ofValue (item : Value) : Except ItemError Task := do
  let (id, options) ← splitItem item
  let some l := Linter.ofId? id | .error (.unknownLinter id)
  match options with
  | .null => (ofEntries l []).mapError (.badOption id)
  | .mapping entries => (ofEntries l entries).mapError (.badOption id)
  | _ => .error (.optionsNotMapping id)

end Task

end Lintscope

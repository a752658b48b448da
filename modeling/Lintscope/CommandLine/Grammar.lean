import Lintscope.Text.Cut

/-!
# Arguments of a command

Arguments are options and operands. An option has a long name, perhaps a
letter too, and may ask for a value: what follows it behind an equals sign,
or the next argument unless that is an option itself. Letters can be written
together, and the value of the last one behind it. After two dashes all
arguments are operands. The arguments are taken one by one, so the first one
that is wrong, or that asks for something else, settles the matter.
-/

namespace Lintscope.CommandLine

/-- What keeps a command from being carried out. -/
inductive Stop where
  /-- The arguments are wrong. -/
  | usage
  /-- The version is asked for, under this name. -/
  | version (name : String)
  /-- Help is asked for. -/
  | help
  deriving DecidableEq, Repr

/-- What an option does with what is known. -/
inductive Effect (σ : Type) where
  /-- It needs no value. -/
  | flag (set : σ → Except Stop σ)
  /-- It needs a value. -/
  | value (set : String → σ → Except Stop σ)

/-- An option. -/
structure Opt (σ : Type) where
  /-- Its name. -/
  name : String
  /-- Its letter. -/
  letter : Option Char := none
  /-- What it does. -/
  effect : Effect σ

/-- The arguments that a command takes. -/
structure Grammar (σ : Type) where
  /-- The options. -/
  options : List (Opt σ)
  /-- What an operand does. -/
  operand : String → σ → Except Stop σ := fun _ _ => .error .usage

/-- Whether an argument is an option. -/
def isOption (arg : String) : Bool := Text.startsWith ['-'] arg.toList && arg ≠ "-"

namespace Grammar

/-- What is known after an argument, and what the next argument is for if it is
    a value. -/
abbrev Next (σ : Type) := σ × Option (String → σ → Except Stop σ)

variable {σ : Type} (g : Grammar σ)

/-- Takes an option by its name. -/
def long (body : List Char) (s : σ) : Except Stop (Next σ) :=
  let (name, value) := match Text.cut? ['='] body with
    | some (name, value) => (name, some (String.ofList value))
    | none => (body, none)
  match g.options.find? (·.name.toList = name) with
  | none => .error .usage
  | some o =>
    match o.effect, value with
    | .flag set, none => do return (← set s, none)
    | .flag _, some _ => .error .usage
    | .value set, some v => do return (← set v s, none)
    | .value set, none => .ok (s, some set)

/-- Takes options by their letters. -/
def letters : List Char → σ → Except Stop (Next σ)
  | [], s => .ok (s, none)
  | c :: rest, s =>
    match g.options.find? (·.letter = some c) with
    | none => .error .usage
    | some o =>
      match o.effect with
      | .flag set => do letters rest (← set s)
      | .value set =>
        match rest with
        | [] => .ok (s, some set)
        | '=' :: v => do return (← set (.ofList v) s, none)
        | v => do return (← set (.ofList v) s, none)

/-- Takes an argument. -/
def step (arg : String) (s : σ) : Except Stop (Next σ) :=
  match arg.toList with
  | '-' :: '-' :: body => g.long body s
  | '-' :: c :: body => g.letters (c :: body) s
  | _ => do return (← g.operand arg s, none)

/-- Takes all arguments. -/
def read : List String → σ → Except Stop σ
  | [], s => .ok s
  | arg :: rest, s =>
    if arg = "--" then rest.foldlM (fun s arg => g.operand arg s) s
    else do
      match ← g.step arg s with
      | (s, none) => read rest s
      | (s, some set) =>
        match rest with
        | v :: rest => if isOption v then .error .usage else read rest (← set v s)
        | [] => .error .usage

end Grammar

end Lintscope.CommandLine

import Lintscope.Text.Numeral
import Lintscope.Yaml.Value

/-!
# Typed fields

A value of the settings is read as what its place asks for: a text, a number
of a certain width, one of some words, a list, or a record with named fields.
Tags do not matter, except that the tag of a word may be the word itself; a
null stands for an empty list, and for nothing where that will do.
-/

namespace Lintscope.Settings

open Yaml (Value)

/-- A way to read a value as one of a type. -/
abbrev Reader (α : Type) := Value → Except Mismatch α

variable {α σ : Type}

/-- Reads a text. -/
def text (expected : String) : Reader String := fun v =>
  match v.untagged with
  | .text s => .ok s
  | _ => .error (.kind v.found expected)

/-- Reads a whole number from `low` up to `high`. -/
def number (expected : String) (low high : Int) : Reader Int := fun v =>
  match v.untagged with
  | .integer n => if low ≤ n ∧ n ≤ high then .ok n else .error (.value v.found expected)
  | _ => .error (.kind v.found expected)

/-- Reads a number of 32 bits without a sign. -/
def natural32 : Reader Nat := fun v => Int.toNat <$> number "u32" 0 (Text.limit32 - 1) v

/-- Reads a number of 64 bits without a sign. -/
def natural64 : Reader Nat := fun v => Int.toNat <$> number "u64" 0 (Text.limit64 - 1) v

/-- Reads a number of 32 bits with a sign. -/
def integer32 : Reader Int := number "i32" (-2147483648) 2147483647

/-- Reads a value that a null says is absent. -/
def optional (read : Reader α) : Reader (Option α)
  | .null => .ok none
  | v => some <$> read v

/-- Reads the items of a list. -/
def items : Reader (List Value) := fun v =>
  match v.untagged with
  | .sequence vs => .ok vs
  | .null => .ok []
  | _ => .error (.kind v.found "a sequence")

/-- Reads a list. -/
def list (read : Reader α) : Reader (List α) := fun v => do (← items v).mapM read

/-- Reads a list of two. -/
def pair (read : Reader α) : Reader (α × α) := fun v =>
  match v.untagged with
  | .sequence [] | .null => .error (.length 0 "an array of length 2")
  | .sequence [a] => do
    let _ ← read a
    .error (.length 1 "an array of length 2")
  | .sequence (a :: b :: rest) => do
    let a ← read a
    let b ← read b
    if rest.isEmpty then return (a, b)
    else .error (.length (rest.length + 2) "fewer elements in sequence")
  | _ => .error (.kind v.found "an array of length 2")

/-- Reads one of some words. -/
def word (known : List (String × α)) : Reader α := fun v => do
  let choose (w : String) : Except Mismatch α :=
    (known.lookup w).elim (.error (.unknownWord w (known.map Prod.fst))) .ok
  match v with
  | .text s => choose s
  | .tagged tag content =>
    let a ← choose (Value.bareTag tag)
    match content.untagged with
    | .null => return a
    | _ => .error (.kind content.found "unit")
  | _ => .error (.kind v.found "a Value::Tagged enum")

/-! ## Records -/

/-- A field of a record: its name, and what its value does to the record. -/
structure Field (ε σ : Type) where
  /-- The name. -/
  name : String
  /-- The name that all names of the field go by. -/
  mainName : String := name
  /-- The record with the value of the field, or what is wrong with that. -/
  set : Value → σ → Except ε σ

/-- Reads an entry of a mapping as one of the fields of a record, which must not have
    been read before. -/
def recordEntry {ε : Type} (wrong : Mismatch → ε) (fields : List (Field ε σ))
    (state : σ × List String) (entry : Value × Value) : Except ε (σ × List String) := do
  let name ← (text "field identifier" entry.1).mapError wrong
  match fields.find? (·.name = name) with
  | some field =>
    if field.mainName ∈ state.2 then .error (wrong (.repeatedField field.mainName))
    else return (← field.set entry.2 state.1, field.mainName :: state.2)
  | none => .error (wrong (.unknownField name (fields.map Field.name)))

/-- Reads a record from the entries of a mapping, each being one of its fields. -/
def record {ε : Type} (wrong : Mismatch → ε) (fields : List (Field ε σ)) (start : σ)
    (entries : List (Value × Value)) : Except ε σ :=
  Prod.fst <$> entries.foldlM (recordEntry wrong fields) (start, [])

end Lintscope.Settings

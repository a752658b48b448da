import Lintscope.Number.Shortest
import Lintscope.Text.Quoted

/-!
# What is wrong with a value

Settings and machine-readable output are read into records with typed fields. Where
a value does not fit its field, a `Mismatch` says how: it is of another kind, it is
out of range, a list has the wrong length, a word is none of the known ones, or a
record has an unknown, a missing or a repeated field.

The two notations that are read differ in two words only: what they call the empty
value, and how they write a fraction.
-/

namespace Lintscope

/-- The kind of a value, with as much of the value as a complaint shows. -/
inductive Found
  /-- A truth value. -/
  | boolean (b : Bool)
  /-- A whole number. -/
  | integer (n : Int)
  /-- A whole number outside of the 64-bit ranges. -/
  | wide (n : Int)
  /-- A fraction. -/
  | fraction (x : Double)
  /-- A text. -/
  | text (s : String)
  /-- The empty value. -/
  | unit
  /-- A list. -/
  | sequence
  /-- Values with names. -/
  | map

/-- How a notation words complaints about its values. -/
structure Wording where
  /-- What it calls the empty value. -/
  unit : String
  /-- How it writes a fraction. -/
  fraction : Double → String

/-- A value as a complaint names it. -/
def Found.describe (w : Wording) : Found → String
  | .boolean b => "boolean \x60" ++ (if b then "true" else "false") ++ "\x60"
  | .integer n => "integer \x60" ++ toString n ++ "\x60"
  | .wide n => "integer \x60" ++ toString n ++ "\x60 as " ++ (if n < 0 then "i128" else "u128")
  | .fraction x => "floating point \x60" ++ w.fraction x ++ "\x60"
  | .text s => "string " ++ Text.Quoted.encode s
  | .unit => w.unit
  | .sequence => "sequence"
  | .map => "map"

/-- How a value fails to fit. -/
inductive Mismatch
  /-- It is of another kind. -/
  | kind (found : Found) (expected : String)
  /-- It is out of range. -/
  | value (found : Found) (expected : String)
  /-- A list has the wrong length. -/
  | length (n : Nat) (expected : String)
  /-- A word is none of the known ones. -/
  | unknownWord (word : String) (known : List String)
  /-- A record has a field that is none of the known ones. -/
  | unknownField (name : String) (known : List String)
  /-- A record lacks a field. -/
  | missingField (name : String)
  /-- A record has a field twice. -/
  | repeatedField (name : String)

namespace Mismatch

/-- A name as a complaint shows it. -/
def named (name : String) : String := "\x60" ++ name ++ "\x60"

/-- The names that would have been right: none, one, one or the other, or a list. -/
def choice (none : String) : List String → String
  | [] => none
  | [a] => "expected " ++ named a
  | [a, b] => "expected " ++ named a ++ " or " ++ named b
  | names => "expected one of " ++ ", ".intercalate (names.map named)

/-- The wording of a mismatch. -/
def message (w : Wording) : Mismatch → String
  | .kind found expected => "invalid type: " ++ found.describe w ++ ", expected " ++ expected
  | .value found expected => "invalid value: " ++ found.describe w ++ ", expected " ++ expected
  | .length n expected => "invalid length " ++ toString n ++ ", expected " ++ expected
  | .unknownWord word known =>
    "unknown variant " ++ named word ++ ", " ++ choice "there are no variants" known
  | .unknownField name known =>
    "unknown field " ++ named name ++ ", " ++ choice "there are no fields" known
  | .missingField name => "missing field " ++ named name
  | .repeatedField name => "duplicate field " ++ named name

end Mismatch

end Lintscope

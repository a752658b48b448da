import Lintscope.Json.Reader

/-!
# Parsing JSON

The value that a text stands for. Values may be nested 127 deep.
-/

namespace Lintscope.Json

open Reader

/-- Reads a value that is nested less than `depth` deep. -/
def value : Nat → Reader Json
  | 0 => failAt .tooDeep
  | depth + 1 => do
    match ← next with
    | some '[' =>
      if depth = 0 then failAt .tooDeep
      skip
      return .arr (← listTail (value depth))
    | some '\x7b' =>
      if depth = 0 then failAt .tooDeep
      skip
      let member (name : String) (known : List (String × Json)) := do
        colon
        return (name, ← value depth) :: known
      return .obj (← objectTail member []).reverse
    | some c =>
      if c = '-' ∨ c.isDigit then number
      else
        match ← found with
        | .unit => return .null
        | .boolean b => return .bool b
        | .text s => return .str s
        | _ => failAt .noValue
    | none => failAt .endOfText

/-- The value that a text stands for. -/
def parse (text : String) : Except Error Json := run (value 128) text

end Lintscope.Json

import Lintscope.Json.Cursor
import Lintscope.Json.Decimal
import Lintscope.Text.Numeral

/-!
# Strings and numbers of JSON

Strings are read with their escapes. A number is read in two steps: what is
written, and what it means. It is whole if it is written so and fits 64 bits;
any other one is digits and a power of ten, and of the digits no more are kept
than fit 64 bits.
-/

namespace Lintscope.Json.Reader

open Text

/-! ## Strings -/

/-- The value of a hexadecimal digit. -/
def hexValue? (c : Char) : Option Nat :=
  if c.isDigit then some (c.toNat - '0'.toNat)
  else if 'a' ≤ c ∧ c ≤ 'f' then some (c.toNat - 'a'.toNat + 10)
  else if 'A' ≤ c ∧ c ≤ 'F' then some (c.toNat - 'A'.toNat + 10)
  else none

/-- Reads four hexadecimal digits. -/
def hex4 : Reader Nat := do
  let c ← get
  match c.rest.take 4 |>.mapM hexValue? with
  | some [a, b, d, e] =>
    skipAll 4
    return ((a * 16 + b) * 16 + d) * 16 + e
  | _ => if Utf8.size (c.rest.take 4) < 4 then fail .endInString 4 else fail .badEscape 4

/-- Reads the second half of a character that is escaped as two halves. -/
def secondHalf : Reader Nat := do
  for x in ['\\', 'u'] do
    match ← peek with
    | none => fail .endInString 0
    | some y => if x = y then skip else failAt .noSecondSurrogate
  hex4

/-- Reads a character that is escaped by its number. With `strict` not set,
    halves of characters are let pass. -/
def escapedNumber (strict : Bool) : Reader Char := do
  let n ← hex4
  if !strict then return '\uFFFD'
  if 0xDC00 ≤ n ∧ n ≤ 0xDFFF then fail .loneSurrogate 0
  if n < 0xD800 ∨ 0xDBFF < n then return .ofNat n
  let m ← secondHalf
  if m < 0xDC00 ∨ 0xDFFF < m then fail .loneSurrogate 0
  return .ofNat ((n - 0xD800) * 0x400 + (m - 0xDC00) + 0x10000)

/-- Reads the rest of an escape. -/
def escape (strict : Bool) : Reader Char := do
  match ← peek with
  | none => fail .endInString 0
  | some 'u' =>
    skip
    escapedNumber strict
  | some x =>
    match [('"', '"'), ('\\', '\\'), ('/', '/'), ('b', '\x08'), ('f', '\x0c'), ('n', '\n'),
      ('r', '\r'), ('t', '\t')].lookup x with
    | some c =>
      skip
      return c
    | none => failAt .badEscape

/-- Reads a string behind its opening quote; `fuel` bounds its length. -/
def stringTail (strict : Bool) : Nat → List Char → Reader String
  | 0, _ => fail .endInString 0
  | fuel + 1, known => do
    match ← peek with
    | none => fail .endInString 0
    | some '"' =>
      skip
      return .ofList known.reverse
    | some '\\' =>
      skip
      stringTail strict fuel ((← escape strict) :: known)
    | some c =>
      if c.toNat < 0x20 then fail .controlCharacter (if strict then 1 else 0)
      else
        skip
        stringTail strict fuel (c :: known)

/-- Reads a string behind its opening quote. -/
def string (strict : Bool) : Reader String := do
  stringTail strict ((← get).rest.length + 1) []

/-! ## Numbers -/

/-- A number as it is written, its sign aside. -/
structure Numeral where
  /-- The digits before the point. -/
  whole : List Char
  /-- The digits behind the point; none if there is no point. -/
  fraction : List Char := []
  /-- Whether the exponent has a minus sign. -/
  divides : Bool := false
  /-- The digits of the exponent; none if there is no exponent. -/
  exponent : List Char := []
  /-- Where those start. -/
  exponentPlace : Place := {}

/-- Reads digits, at least one; a text that ends before them has the flaw
    `atEnd`. -/
def digits (atEnd : Flaw) : Reader (List Char) := do
  match ← takeWhile Char.isDigit with
  | [] => if (← peek).isNone then failAt atEnd else failAt .badNumber
  | ds => return ds

/-- Reads a number behind its sign; a text that ends inside has the flaw
    `atEnd`. -/
def numeral (atEnd : Flaw) : Reader Numeral := do
  let whole ← match ← peek with
    | some '0' =>
      skip
      if (← peek).any Char.isDigit then failAt .badNumber
      pure ['0']
    | _ => digits atEnd
  let fraction ← match ← peek with
    | some '.' =>
      skip
      digits atEnd
    | _ => pure []
  if (← peek) = some 'e' ∨ (← peek) = some 'E' then
    skip
    let sign ← peek
    if sign = some '+' ∨ sign = some '-' then skip
    let exponentPlace := (← get).place
    let exponent ← digits atEnd
    return { whole, fraction, divides := sign = some '-', exponent, exponentPlace }
  else return { whole, fraction }

/-- Adds digits to a number as long as it fits 64 bits; the number, and how
    many digits were left. -/
def extend (n : Nat) : List Char → Nat × Nat
  | [] => (n, 0)
  | d :: ds =>
    let m := 10 * n + digitValue d
    if m < limit64 then extend m ds else (n, ds.length + 1)

/-- The number of digits after which a number has grown beyond 31 bits, if it
    does. -/
def growsBeyond (n count : Nat) : List Char → Option Nat
  | [] => none
  | d :: ds =>
    let m := 10 * n + digitValue d
    if 2147483647 < m then some (count + 1) else growsBeyond m (count + 1) ds

/-- The meaning of a number. -/
def Numeral.value (s : Numeral) (negative : Bool) : Except Error Json := do
  let (n, left) := extend 0 s.whole
  if s.fraction = [] ∧ s.exponent = [] ∧ left = 0 ∧
      (!negative ∨ (0 < n ∧ n ≤ 9223372036854775808)) then
    return .int (if negative then -n else n)
  let (m, unread) := extend n s.fraction
  let shift : Int := left - (s.fraction.length - unread : Nat)
  match growsBeyond 0 0 s.exponent with
  | none =>
    let e : Int := digitsValue s.exponent
    return .decimal ⟨negative, m, if s.divides then shift - e else shift + e⟩
  | some count =>
    if m = 0 ∨ s.divides then return .decimal ⟨negative, 0, 0⟩
    else throw ⟨.flaw .largeNumber, ⟨s.exponentPlace.line, s.exponentPlace.column + count⟩⟩

/-- Reads a number that a double can hold. -/
def number : Reader Json := do
  let negative := (← peek) = some '-'
  if negative then skip
  let value ← (← numeral .endOfText).value negative
  match value with
  | .decimal d => if d.double?.isSome then return value else fail .largeNumber 0
  | _ => return value

end Lintscope.Json.Reader

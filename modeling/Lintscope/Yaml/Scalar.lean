import Lintscope.Decode.Mismatch
import Lintscope.Text.Cut
import Lintscope.Yaml.Token

/-!
# What a scalar means

A plain scalar may mean the empty value, a truth value, a whole number or a fraction;
else it is a text. Whole numbers are written in base ten, or behind `0x`, `0o` or `0b`;
digits behind a leading zero are no number. A tag of the standard may ask for one of
these meanings.
-/

namespace Lintscope.Yaml

open Text

/-- The meaning of a scalar. -/
inductive Atom
  /-- The empty value. -/
  | null
  /-- A truth value. -/
  | boolean (b : Bool)
  /-- A whole number. -/
  | integer (n : Int)
  /-- A fraction. -/
  | fraction (x : Double)
  /-- A text. -/
  | text (s : String)

namespace Atom

/-! ## Whole numbers -/

/-- The value of a digit in a base. -/
def digit? (base : Nat) (c : Char) : Option Nat :=
  let n :=
    if c.isDigit then c.toNat - '0'.toNat
    else if c.isLower then c.toNat - 'a'.toNat + 10
    else if c.isUpper then c.toNat - 'A'.toNat + 10
    else base
  if n < base then some n else none

/-- The number that digits write in a base. -/
def magnitude? (base : Nat) (digits : List Char) : Option Nat :=
  if digits.isEmpty then none
  else digits.foldlM (fun n c => (digit? base c).map (base * n + ·)) 0

/-- A number behind a mark of its base. -/
def marked? (cs : List Char) : Option Nat :=
  match cs with
  | '0' :: 'x' :: digits => magnitude? 16 digits
  | '0' :: 'o' :: digits => magnitude? 8 digits
  | '0' :: 'b' :: digits => magnitude? 2 digits
  | _ => none

/-- Whether digits are not meant as a number: several of them, the first one zero. -/
def isPadded (cs : List Char) : Bool :=
  match cs with
  | '0' :: rest => !rest.isEmpty && rest.all Char.isDigit
  | _ => false

/-- The whole number that a plain scalar writes, of any size. -/
def integer? (cs : List Char) : Option Int :=
  let (negative, unsigned) := match cs with
    | '-' :: rest => (true, rest)
    | '+' :: rest => (false, rest)
    | _ => (false, cs)
  let n := (marked? unsigned) <|> (if isPadded unsigned then none else magnitude? 10 unsigned)
  n.map fun n => if negative then -(n : Int) else n

/-- Whether a whole number has 64 bits, with a sign or without. -/
def fits (n : Int) : Bool := -(1 <<< 63 : Nat) ≤ n && n < (1 <<< 64 : Nat)

/-- Whether a whole number has 128 bits, with a sign or without. -/
def fitsWide (n : Int) : Bool := -(1 <<< 127 : Nat) ≤ n && n < (1 <<< 128 : Nat)

/-! ## Fractions -/

/-- The exponent behind a mantissa: nothing, or a mark, a sign and digits. -/
def exponent? (cs : List Char) : Option Int :=
  match cs with
  | [] => some 0
  | mark :: rest =>
    if mark ≠ 'e' && mark ≠ 'E' then none
    else match rest with
      | '-' :: digits => (magnitude? 10 digits).map fun n => -(n : Int)
      | '+' :: digits => (magnitude? 10 digits).map (↑·)
      | digits => (magnitude? 10 digits).map (↑·)

/-- The decimal that digits write, with a point among them and an exponent behind. -/
def decimal? (negative : Bool) (cs : List Char) : Option Double :=
  let whole := cs.takeWhile Char.isDigit
  let rest := cs.drop whole.length
  let (places, rest) := match rest with
    | '.' :: after => (after.takeWhile Char.isDigit, after.dropWhile Char.isDigit)
    | _ => ([], rest)
  match magnitude? 10 (whole ++ places), exponent? rest with
  | some digits, some e =>
    if digits = 0 then some (.ofDecimal negative 0 0)
    else
      let point : Int := (Nat.toDigits 10 digits).length + (e - places.length)
      if point > 400 then some (.infinite negative)
      else if point < -400 then some (.ofDecimal negative 0 0)
      else some (.ofDecimal negative digits (e - places.length))
  | _, _ => none

/-- The fraction that a plain scalar writes; one that is too large is none. -/
def fraction? (cs : List Char) : Option Double :=
  let s := String.ofList cs
  let (sign, unsigned) := match cs with
    | '-' :: rest => ("-", rest)
    | '+' :: rest => ("+", rest)
    | _ => ("", cs)
  let word := String.ofList unsigned
  if word == ".inf" || word == ".Inf" || word == ".INF" then some (.infinite (sign == "-"))
  else if s == ".nan" || s == ".NaN" || s == ".NAN" then some .nan
  else match decimal? (sign == "-") unsigned with
    | some x => if x.isFinite then some x else none
    | none => none

/-! ## Words -/

/-- Whether a word means the empty value. -/
def isNull (s : String) : Bool := s == "null" || s == "Null" || s == "NULL" || s == "~"

/-- The truth value that a word means. -/
def boolean? (s : String) : Option Bool :=
  if s == "true" || s == "True" || s == "TRUE" then some true
  else if s == "false" || s == "False" || s == "FALSE" then some false
  else none

/-- The whole number of at most 128 bits that a scalar writes. -/
def number? (s : String) : Option Int := (integer? s.toList).filter fitsWide

/-- The meaning of a plain scalar without a tag. -/
def ofPlain (s : String) : Atom :=
  if s.isEmpty || isNull s then .null
  else match boolean? s, number? s with
    | some b, _ => .boolean b
    | none, some n => .integer n
    | none, none =>
      let unsigned := match s.toList with
        | '-' :: rest => rest
        | '+' :: rest => rest
        | cs => cs
      if isPadded unsigned then .text s
      else match fraction? s.toList with
        | some x => .fraction x
        | none => .text s

/-! ## Tags -/

/-- The standard tags that ask for a meaning. -/
inductive StandardTag
  | boolean | integer | fraction | null

/-- The standard tag that a tag is. -/
def StandardTag.ofTag? (tag : String) : Option StandardTag :=
  match tag with
  | "tag:yaml.org,2002:bool" => some .boolean
  | "tag:yaml.org,2002:int" => some .integer
  | "tag:yaml.org,2002:float" => some .fraction
  | "tag:yaml.org,2002:null" => some .null
  | _ => none

/-- What a standard tag makes of a text. -/
def tagged (tag : StandardTag) (s : String) : Except Mismatch Atom :=
  let wrong (expected : String) : Except Mismatch Atom := .error (.value (.text s) expected)
  match tag with
  | .boolean => (boolean? s).elim (wrong "a boolean") fun b => .ok (.boolean b)
  | .integer => (number? s).elim (wrong "an integer") fun n => .ok (.integer n)
  | .fraction => (fraction? s.toList).elim (wrong "a float") fun x => .ok (.fraction x)
  | .null => if isNull s then .ok .null else wrong "null"

/-- The meaning of a scalar. A plain one without a tag, or with a tag of its own kind,
    means what it says; other tags make it a text. -/
def ofScalar (tag : Option String) (s : String) (style : Style) : Except Mismatch Atom :=
  match tag with
  | none => .ok (if style == .plain then ofPlain s else .text s)
  | some tag =>
    match StandardTag.ofTag? tag with
    | some t => tagged t s
    | none => .ok (if tag.startsWith "!" && style == .plain then ofPlain s else .text s)

/-- An atom as a complaint names it. -/
def found : Atom → Found
  | .null => .unit
  | .boolean b => .boolean b
  | .integer n => if fits n then .integer n else .wide n
  | .fraction x => .fraction x
  | .text s => .text s

end Atom

/-- The words in which complaints name the values of YAML. -/
def wording : Wording := { unit := "unit value", fraction := Double.text true }

end Lintscope.Yaml

import Lintscope.Glob.Pattern
import Lintscope.Text.Cut
import Lintscope.Text.Utf8

/-!
# Paths that globs describe

A glob is held against the octets of a path, from its first to its last; a
slash is an octet like any other. A set of characters outside ASCII therefore
holds the octets of these characters one by one, and a range of them reaches
from the last octet of its first character to the first octet of its last one.
-/

namespace Lintscope.Glob

/-- A list and all that follows some part of it. -/
def suffixes {α : Type} : List α → List (List α)
  | [] => [[]]
  | x :: xs => (x :: xs) :: suffixes xs

/-- The octet of a slash. -/
def slashOctet : UInt8 := 0x2F

/-- What follows a slash somewhere in a path. -/
def afterSlashes : List UInt8 → List (List UInt8)
  | [] => []
  | b :: s => if b = slashOctet then s :: afterSlashes s else afterSlashes s

/-- The octets of a range of characters, as ranges of octets. -/
def octetRanges (range : Char × Char) : List (UInt8 × UInt8) :=
  let single (b : UInt8) := (b, b)
  let first := String.utf8EncodeChar range.1
  let last := String.utf8EncodeChar range.2
  if range.1 = range.2 then first.map single
  else
    first.dropLast.map single ++ [(first.getLastD 0, last.headD 0)] ++ last.tail.map single

/-- Whether an octet is in one of the ranges of a set. -/
def inRanges (ranges : List (Char × Char)) (b : UInt8) : Bool :=
  (ranges.flatMap octetRanges).any fun (lo, hi) => lo ≤ b && b ≤ hi

/-- Whether tokens describe all of the octets. -/
def describes : List Token → List UInt8 → Bool
  | [], s => s.isEmpty
  | .char c :: ts, s =>
    match Text.dropLead? (String.utf8EncodeChar c) s with
    | some rest => describes ts rest
    | none => false
  | .one :: ts, s =>
    match s with
    | [] => false
    | _ :: s => describes ts s
  | .many :: ts, s => (suffixes s).any (describes ts)
  | .leading :: ts, s => describes ts s || (afterSlashes s).any (describes ts)
  | .trailing :: ts, s =>
    match s with
    | [] => false
    | b :: s => b == slashOctet && (suffixes s).any (describes ts)
  | .between :: ts, s =>
    match s with
    | [] => false
    | b :: s => b == slashOctet && (describes ts s || (afterSlashes s).any (describes ts))
  | .oneOf negated ranges :: ts, s =>
    match s with
    | [] => false
    | b :: s => (inRanges ranges b != negated) && describes ts s

end Lintscope.Glob

import Lintscope.Yaml.Scalar

/-!
# Values of YAML

A value is what a node means once its scalars are understood and its aliases are
followed: an atom, a sequence, a mapping whose keys all differ, or a value under a tag
of its own. Two mappings are the same if they have the same entries, in whatever order.
-/

namespace Lintscope.Yaml

/-- A value. -/
inductive Value
  /-- The empty value. -/
  | null
  /-- A truth value. -/
  | boolean (b : Bool)
  /-- A whole number. -/
  | integer (n : Int)
  /-- A fraction. -/
  | fraction (x : Double)
  /-- A text. -/
  | text (s : String)
  /-- Values in their order. -/
  | sequence (items : List Value)
  /-- Keys and their values, in their order. -/
  | mapping (entries : List (Value × Value))
  /-- A value under a tag of the document's own. -/
  | tagged (tag : String) (content : Value)
  deriving Inhabited

namespace Value

/-! ## Sameness -/

/-- A tag without an exclamation mark in front. -/
def bareTag (tag : String) : String :=
  match tag.toList with
  | '!' :: rest => if rest.isEmpty then tag else String.ofList rest
  | _ => tag

mutual

/-- Whether two values are the same. -/
def same : Value → Value → Bool
  | .null, .null => true
  | .boolean a, .boolean b => a == b
  | .integer m, .integer n => m == n
  | .fraction x, .fraction y => x == y || (x.isZero && y.isZero)
  | .text s, .text t => s == t
  | .sequence xs, .sequence ys => sameItems xs ys
  | .mapping xs, .mapping ys => xs.length == ys.length && entriesAmong xs ys
  | .tagged s x, .tagged t y => bareTag s == bareTag t && same x y
  | _, _ => false

/-- Whether two lists have the same items in the same order. -/
def sameItems : List Value → List Value → Bool
  | [], [] => true
  | x :: xs, y :: ys => same x y && sameItems xs ys
  | _, _ => false

/-- Whether each entry is the same as one of the others. -/
def entriesAmong : List (Value × Value) → List (Value × Value) → Bool
  | [], _ => true
  | (k, v) :: rest, ys => ys.any (fun (l, w) => same k l && same v w) && entriesAmong rest ys

end

/-! ## Views -/

/-- The value under the tags. -/
def untagged : Value → Value
  | .tagged _ v => v.untagged
  | v => v

/-- The text that a value is, tags aside. -/
def text? (v : Value) : Option String :=
  match v.untagged with
  | .text s => some s
  | _ => none

/-- The value that an atom is. One beyond 64 bits is none. -/
def ofAtom? : Atom → Except Mismatch Value
  | .null => .ok .null
  | .boolean b => .ok (.boolean b)
  | .integer n =>
    if Atom.fits n then .ok (.integer n) else .error (.kind (.wide n) "any YAML value")
  | .fraction x => .ok (.fraction x)
  | .text s => .ok (.text s)

/-- A value as a complaint names it. -/
def found (v : Value) : Found :=
  match v.untagged with
  | .null => .unit
  | .boolean b => .boolean b
  | .integer n => .integer n
  | .fraction x => .fraction x
  | .text s => .text s
  | .sequence _ => .sequence
  | .mapping _ => .map
  | .tagged .. => .unit

/-- A key as a complaint about its repetition names it. -/
def keyText : Value → String
  | .null => "with null key"
  | .boolean b => "with key \x60" ++ (if b then "true" else "false") ++ "\x60"
  | .integer n => "with key " ++ toString n
  | .fraction x => "with key " ++ (match x with
    | .nan => ".nan"
    | .infinite negative => if negative then "-.inf" else ".inf"
    | x => x.scientific)
  | .text s => "with key " ++ Text.Quoted.encode s
  | _ => "in YAML map"

/-! ## Entries of a mapping -/

/-- The entry with a text as its key. -/
def entry? (name : String) (entries : List (Value × Value)) : Option Value :=
  (entries.find? fun (k, _) => k.same (.text name)).map (·.2)

/-- Takes the entry with a text as its key out; the last entry takes its place. -/
def takeEntry (name : String) (entries : List (Value × Value)) :
    Option Value × List (Value × Value) :=
  match entries.findIdx? fun (k, _) => k.same (.text name) with
  | none => (none, entries)
  | some i =>
    let last := entries.drop (entries.length - 1)
    let front := entries.take (entries.length - 1)
    let kept := if i + 1 = entries.length then front else front.take i ++ last ++ front.drop (i + 1)
    (entries[i]?.map (·.2), kept)

end Value

end Lintscope.Yaml

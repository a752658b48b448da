import Lintscope.Json.Scalar

/-!
# Reading JSON into typed data

What is asked for is taken from a text as it comes: lists, and records, which
are written as objects or as lists of their fields. What is not asked for is
passed over, and then it only has to look like JSON. Of several faults the
first one in the text is reported.
-/

namespace Lintscope.Json.Reader

variable {α σ : Type}

/-! ## Values of another kind -/

/-- Reads a value that is not asked for, as far as a complaint shows it. -/
def found : Reader Found := do
  match ← next with
  | some 'n' =>
    skip
    word "ull".toList
    return .unit
  | some 't' =>
    skip
    word "rue".toList
    return .boolean true
  | some 'f' =>
    skip
    word "alse".toList
    return .boolean false
  | some '"' =>
    skip
    return .text (← string true)
  | some '[' => return .sequence
  | some '\x7b' => return .map
  | some c =>
    if c = '-' ∨ c.isDigit then
      match ← number with
      | .int n => return .integer n
      | .decimal d => return .fraction (d.double?.getD .nan)
      | _ => failAt .noValue
    else failAt .noValue
  | none => failAt .endOfText

/-- Complains that a value is of the wrong kind. -/
def unexpected (expected : String) : Reader α := do mismatch (.kind (← found) expected)

/-! ## Scalars -/

/-- Reads a text. -/
def text : Reader String := do
  match ← next with
  | some '"' =>
    skip
    string true
  | _ => unexpected "a string"

/-- Reads a number of 32 bits without a sign. -/
def natural32 : Reader Nat := do
  match ← found with
  | .integer n =>
    if 0 ≤ n ∧ n < Text.limit32 then return n.toNat else mismatch (.value (.integer n) "u32")
  | f => mismatch (.kind f "u32")

/-- Reads a value, or null for none. -/
def optional (read : Reader α) : Reader (Option α) := do
  match ← next with
  | some 'n' =>
    skip
    word "ull".toList
    return none
  | _ => some <$> read

/-! ## Lists -/

/-- Whether another item of a list follows; if so, the cursor is before it. -/
def moreItems (first : Bool) : Reader Bool := do
  match ← next with
  | some ']' => return false
  | some c =>
    if first then return true
    else if c = ',' then
      skip
      match ← next with
      | some ']' => failAt .trailingComma
      | some _ => return true
      | none => failAt .endOfText
    else failAt .noListEnd
  | none => failAt .endInList

/-- Passes the end of a list. -/
def endList : Reader Unit := do
  match ← next with
  | some ']' => skip
  | some ',' =>
    skip
    if (← next) = some ']' then failAt .trailingComma else failAt .trailingText
  | some _ => failAt .trailingText
  | none => failAt .endInList

/-- Reads the items of a list, at most `fuel` of them. -/
def items (item : Reader α) : Nat → Bool → Reader (List α)
  | 0, _ => return []
  | fuel + 1, first => do
    if ← moreItems first then return (← item) :: (← items item fuel false) else return []

/-- Reads a list behind its bracket. -/
def listTail (item : Reader α) : Reader (List α) := do
  let all ← items item ((← get).rest.length + 1) true
  endList
  return all

/-- Reads a list. -/
def list (item : Reader α) : Reader (List α) := do
  match ← next with
  | some '[' =>
    skip
    listTail item
  | _ => unexpected "a sequence"

/-! ## Objects -/

/-- Whether another member of an object follows; if so, the cursor is before
    its name. -/
def moreMembers (first : Bool) : Reader Bool := do
  match ← next with
  | some '\x7d' => return false
  | some c =>
    if first then
      if c = '"' then return true else failAt .keyNotString
    else if c = ',' then
      skip
      match ← next with
      | some '"' => return true
      | some '\x7d' => failAt .trailingComma
      | some _ => failAt .keyNotString
      | none => failAt .endOfText
    else failAt .noObjectEnd
  | none => failAt .endInObject

/-- Passes the colon behind a name. -/
def colon : Reader Unit := do
  match ← next with
  | some ':' => skip
  | some _ => failAt .noColon
  | none => failAt .endInObject

/-- Reads the members of an object, at most `fuel` of them; `member` reads what
    follows a name. -/
def members (member : String → σ → Reader σ) : Nat → Bool → σ → Reader σ
  | 0, _, state => return state
  | fuel + 1, first, state => do
    if ← moreMembers first then
      skip
      members member fuel false (← member (← string true) state)
    else return state

/-- Reads an object behind its brace. -/
def objectTail (member : String → σ → Reader σ) (start : σ) : Reader σ := do
  let state ← members member ((← get).rest.length + 1) true start
  skip
  return state

/-! ## Reading over values -/

/-- The bracket of a list or of an object. -/
inductive Bracket where
  | list
  | object

/-- Passes the brackets that end here, innermost first, and the comma after
    them, if another value follows; the brackets that stay open. -/
def close : Nat → Bool → List Bracket → Reader (List Bracket)
  | 0, _, _ | _, _, [] => return []
  | fuel + 1, after, b :: open_ => do
    let isEnd := match b with
      | .list => ']'
      | .object => '\x7d'
    match ← next with
    | none => failAt (match b with
      | .list => .endInList
      | .object => .endInObject)
    | some c =>
      if after ∧ c = ',' then
        skip
        return b :: open_
      else if c = isEnd then
        skip
        close fuel true open_
      else if after then failAt (match b with
        | .list => .noListEnd
        | .object => .noObjectEnd)
      else return b :: open_

/-- Passes the name of a member, and its colon. -/
def passName : Reader Unit := do
  match ← next with
  | some '"' =>
    skip
    let _ ← string false
    colon
  | some _ => failAt .keyNotString
  | none => failAt .endInObject

/-- Passes a scalar, or the bracket that a collection starts with. -/
def passStart : Reader (Option Bracket) := do
  match ← next with
  | some '[' =>
    skip
    return some .list
  | some '\x7b' =>
    skip
    return some .object
  | some '"' =>
    skip
    let _ ← string false
    return none
  | some c =>
    if c = '-' ∨ c.isDigit then
      if c = '-' then skip
      let _ ← numeral .badNumber
      return none
    else
      let _ ← found
      return none
  | none => failAt .endOfText

/-- Passes a value inside of open brackets, and what follows up to their end. -/
def passFrom : Nat → List Bracket → Reader Unit
  | 0, _ => return ()
  | fuel + 1, outer => do
    let inner ← match ← passStart with
      | some b => close (fuel + 1) false (b :: outer)
      | none => close (fuel + 1) true outer
    match inner with
    | [] => return ()
    | .list :: _ => passFrom fuel inner
    | .object :: _ => do
      passName
      passFrom fuel inner

/-- Passes a value. -/
def ignore : Reader Unit := do passFrom ((← get).rest.length + 1) []

/-! ## Records -/

/-- A field of a record. -/
structure Field (σ : Type) where
  /-- The name. -/
  name : String
  /-- Whether it must be there. -/
  required : Bool
  /-- Reads it into the record. -/
  set : σ → Reader σ

/-- The field that a reader and an update make. -/
def field (name : String) (read : Reader α) (update : α → σ → σ) : Field σ :=
  ⟨name, true, fun state => do return update (← read) state⟩

/-- Reads the fields of a record from the items of a list. -/
def listedFields (expected : String) : Nat → List (Field σ) → σ → Reader σ
  | _, [], state => return state
  | place, f :: fs, state => do
    if ← moreItems (place = 0) then listedFields expected (place + 1) fs (← f.set state)
    else if f.required then
      skip
      mismatch (.length place expected)
    else listedFields expected place fs state

/-- Reads a member of an object as a field of a record, unless it was read
    before. -/
def namedField (fields : List (Field σ)) (name : String) (known : σ × List String) :
    Reader (σ × List String) := do
  match fields.find? (·.name = name) with
  | none =>
    colon
    ignore
    return known
  | some f =>
    if name ∈ known.2 then
      if (← next) = some '\x7d' then skip
      mismatch (.repeatedField name)
    colon
    return (← f.set known.1, name :: known.2)

/-- Reads a record. -/
def record (name : String) (fields : List (Field σ)) (start : σ) : Reader σ := do
  match ← next with
  | some '[' =>
    skip
    let state ← listedFields
      ("struct " ++ name ++ " with " ++ toString fields.length ++ " elements") 0 fields start
    endList
    return state
  | some '\x7b' =>
    skip
    let (state, known) ← objectTail (namedField fields) (start, [])
    match fields.find? fun f => f.required && f.name ∉ known with
    | some f => mismatch (.missingField f.name)
    | none => return state
  | _ => unexpected ("struct " ++ name)

/-! ## Whole texts -/

/-- Reads a text to its end. -/
def run (read : Reader α) (text : String) : Except Error α := do
  let reader : Reader α := do
    let a ← read
    if (← next).isSome then failAt .trailingText
    return a
  let (a, _) ← StateT.run reader { rest := text.toList }
  return a

end Lintscope.Json.Reader

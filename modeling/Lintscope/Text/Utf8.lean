/-!
# UTF-8

Reading octets as UTF-8, one octet at a time. A character is a lead octet and
the tail octets it owes, the first of them within narrower bounds after some
leads. Octets that cannot be read come as *flaws*, each the longest start of a
character that the next octet, or the end, breaks off; so `pieces` accounts
for every octet. A strict reading stops at the first flaw and a lenient one
puts a replacement character for each.
-/

namespace Lintscope.Utf8

/-- The octets of a text. -/
def encode (s : List Char) : List UInt8 := s.flatMap String.utf8EncodeChar

/-- The number of octets of a text. -/
def size : List Char → Nat
  | [] => 0
  | c :: s => c.utf8Size + size s

/-- A character begun: the tails it owes, the bounds of the next one, and the
    value and the number of the octets read. -/
structure Begun where
  /-- The tail octets still to come, at least one. -/
  owed : Nat
  /-- The least value of the next octet. -/
  low : Nat := 0x80
  /-- The greatest value of the next octet. -/
  high : Nat := 0xBF
  /-- The bits read. -/
  bits : Nat
  /-- The number of octets read. -/
  taken : Nat := 1

/-- A stretch of octets: a character, or octets that are none. -/
inductive Piece where
  /-- A whole character. -/
  | char (c : Char)
  /-- Octets that the next octet shows to be no character. -/
  | broken (octets : Nat)
  /-- Octets that the end of the input leaves incomplete. -/
  | cutOff (octets : Nat)

/-- The reading of an octet at the start of a character. -/
inductive Lead where
  /-- It is a character. -/
  | char (c : Char)
  /-- It begins a character. -/
  | begun (b : Begun)
  /-- No character starts with it. -/
  | refused

/-- What an octet starts. -/
def lead (b : Nat) : Lead :=
  if b < 0x80 then .char (.ofNat b)
  else if b < 0xC2 then .refused
  else if b < 0xE0 then .begun { owed := 1, bits := b - 0xC0 }
  else if b = 0xE0 then .begun { owed := 2, low := 0xA0, bits := 0 }
  else if b = 0xED then .begun { owed := 2, high := 0x9F, bits := 0xD }
  else if b < 0xF0 then .begun { owed := 2, bits := b - 0xE0 }
  else if b = 0xF0 then .begun { owed := 3, low := 0x90, bits := 0 }
  else if b < 0xF4 then .begun { owed := 3, bits := b - 0xF0 }
  else if b = 0xF4 then .begun { owed := 3, high := 0x8F, bits := 4 }
  else .refused

/-- What an octet at the start of a character completes and begins. -/
def start (n : Nat) : List Piece × Option Begun :=
  match lead n with
  | .char c => ([.char c], none)
  | .begun b => ([], some b)
  | .refused => ([.broken 1], none)

/-- What an octet completes and begins, given the character that was begun. -/
def step (begun : Option Begun) (n : Nat) : List Piece × Option Begun :=
  match begun with
  | none => start n
  | some b =>
    if b.low ≤ n ∧ n ≤ b.high then
      let bits := b.bits * 64 + (n - 0x80)
      if b.owed = 1 then ([.char (.ofNat bits)], none)
      else ([], some { owed := b.owed - 1, bits, taken := b.taken + 1 })
    else
      let (done, next) := start n
      (.broken b.taken :: done, next)

/-- The stretches of the octets that follow the ones a character was begun with. -/
def piecesFrom : Option Begun → List UInt8 → List Piece
  | none, [] => []
  | some b, [] => [.cutOff b.taken]
  | begun, o :: os =>
    let (done, next) := step begun o.toNat
    done ++ piecesFrom next os

/-- The stretches of a list of octets. -/
def pieces (octets : List UInt8) : List Piece := piecesFrom none octets

/-- The first flaw of a list of octets. -/
inductive Flaw where
  /-- After `valid` octets come `octets` ones that are no character. -/
  | broken (octets valid : Nat)
  /-- After `valid` octets the input ends inside a character. -/
  | cutOff (valid : Nat)
  deriving DecidableEq

/-- What a flaw is called. -/
def Flaw.message : Flaw → String
  | .broken octets valid =>
    "invalid utf-8 sequence of " ++ toString octets ++ " bytes from index " ++ toString valid
  | .cutOff valid => "incomplete utf-8 byte sequence from index " ++ toString valid

/-- The text of stretches without a flaw, `valid` octets into the input. -/
def textOf (valid : Nat) : List Piece → Except Flaw (List Char)
  | [] => .ok []
  | .char c :: ps => (c :: ·) <$> textOf (valid + c.utf8Size) ps
  | .broken n :: _ => .error (.broken n valid)
  | .cutOff _ :: _ => .error (.cutOff valid)

/-- The text that octets encode. -/
def decode (octets : List UInt8) : Except Flaw (List Char) := textOf 0 (pieces octets)

/-- The text that octets encode, with a replacement character for each flaw. -/
def decodeLossy (octets : List UInt8) : List Char :=
  (pieces octets).map fun
    | .char c => c
    | .broken _ | .cutOff _ => '\uFFFD'

end Lintscope.Utf8

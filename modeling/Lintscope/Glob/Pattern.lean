/-!
# Globs

A glob describes paths by characters that stand for themselves, `?` for one
octet, `*` for any octets, and sets in brackets for one octet of the set or,
after `!` or `^`, for one outside it. Two stars that fill a whole step of the
path stand for any number of steps: at the start (`**/`), at the end (`/**`)
and between two steps (`/**/`). Elsewhere they are two stars.

Braces and commas stand for themselves; alternatives in braces are not read. The
globs of shell patterns (`Glob.Shell`) need none, since they have braces in sets
only. The exception is what follows a set whose only member is a caret: that set
is a negated one here, which its bracket does not close.

This module reads globs; `Glob.Match` says which paths they describe.
-/

namespace Lintscope.Glob

/-- What a part of a glob stands for. -/
inductive Token where
  /-- A character. -/
  | char (c : Char)
  /-- One octet. -/
  | one
  /-- Any octets. -/
  | many
  /-- Any number of steps at the start. -/
  | leading
  /-- A slash and any number of steps at the end. -/
  | trailing
  /-- A slash, or any number of steps between two slashes. -/
  | between
  /-- One octet of the ranges, or one outside them. -/
  | oneOf (negated : Bool) (ranges : List (Char × Char))
  deriving DecidableEq, Repr

/-- Why a text is no glob. -/
inductive Error where
  /-- A bracket is never closed. -/
  | unclosedSet
  /-- The last character of a range is below the first. -/
  | descendingRange (first last : Char)
  deriving DecidableEq, Repr

/-- What is wrong with a text. -/
def Error.message : Error → String
  | unclosedSet => "unclosed character class; missing ']'"
  | descendingRange first last =>
    "invalid range; '" ++ first.toString ++ "' > '" ++ last.toString ++ "'"

/-- A set that is being read. -/
structure Draft where
  /-- Whether nothing has been read since the bracket. -/
  fresh : Bool := true
  /-- Whether no member has been read. -/
  empty : Bool := true
  /-- Whether the set is negated. -/
  negated : Bool := false
  /-- Whether a hyphen waits for the end of its range. -/
  hyphen : Bool := false
  /-- The ranges read, the last one first. -/
  ranges : List (Char × Char) := []

/-- The draft with `c` as the end of its last range. -/
def Draft.extend (d : Draft) (c : Char) : Except Error Draft :=
  match d.ranges with
  | (first, _) :: rs =>
    if c < first then .error (.descendingRange first c)
    else .ok { d with hyphen := false, ranges := (first, c) :: rs }
  | [] => .ok { d with hyphen := false, ranges := [(c, c)] }

/-- The draft with the next character read as a member, or as a part of one. -/
def Draft.read (d : Draft) (c : Char) : Except Error Draft :=
  if d.fresh ∧ (c = '!' ∨ c = '^') then .ok { d with fresh := false, negated := true }
  else
    let d' := { d with fresh := false, empty := false }
    if c = '-' ∧ ¬ d.empty ∧ ¬ d.hyphen then .ok { d' with hyphen := true }
    else if d.hyphen then d'.extend c
    else .ok { d' with ranges := (c, c) :: d.ranges }

/-- The set that a draft describes; a hyphen that waits is a member. -/
def Draft.token (d : Draft) : Token :=
  .oneOf d.negated (if d.hyphen then ('-', '-') :: d.ranges else d.ranges).reverse

/-- Where the reading of a glob stands. -/
inductive Mode where
  /-- Outside sets and stars. -/
  | text
  /-- Inside a set. -/
  | set (d : Draft)
  /-- After one star. -/
  | star
  /-- After two stars. -/
  | stars

/-- What has been read of a glob. -/
structure Reading where
  /-- Where the reading stands. -/
  mode : Mode := .text
  /-- The character read last, stars that the mode still holds apart. -/
  last : Option Char := none
  /-- The tokens read, the last one first. -/
  tokens : List Token := []

namespace Reading

variable (r : Reading)

/-- The reading after one more token, which ends with `c`. -/
def push (t : Token) (c : Char) : Reading :=
  { mode := .text, last := some c, tokens := t :: r.tokens }

/-- The reading after `n` stars that stand for themselves. -/
def pushMany (n : Nat) : Reading :=
  { mode := .text, last := some '*', tokens := List.replicate n .many ++ r.tokens }

/-- Whether two stars here start a step of the path. -/
def atStep : Bool := r.tokens.isEmpty || r.last == some '/'

/-- The reading after two stars that fill a step. At the start of a glob they
    stand for `leading`, after a slash for `steps`, which takes the place of
    the slash; any number of steps before them says it already. -/
def pushSteps (steps : Token) : Reading :=
  { mode := .text, last := some '/', tokens :=
    match r.tokens with
    | [] => [.leading]
    | .leading :: ts => .leading :: ts
    | .trailing :: ts => .trailing :: ts
    | _ :: ts => steps :: ts }

/-- The reading after one more character outside sets and stars. -/
def readText (c : Char) : Reading :=
  if c = '?' then r.push .one c
  else if c = '[' then { r with mode := .set {} }
  else if c = '*' then { r with mode := .star }
  else r.push (.char c) c

/-- The reading after one more character. -/
def read (c : Char) : Except Error Reading :=
  match r.mode with
  | .text => .ok (r.readText c)
  | .set d =>
    if c = ']' ∧ ¬ d.empty then .ok (r.push d.token c)
    else (fun d => { r with mode := .set d }) <$> d.read c
  | .star => .ok (if c = '*' then { r with mode := .stars } else (r.pushMany 1).readText c)
  | .stars =>
    .ok (if r.atStep ∧ c = '/' then r.pushSteps .between else (r.pushMany 2).readText c)

/-- The tokens of a glob that ends here. -/
def finish : Except Error (List Token) :=
  match r.mode with
  | .text => .ok r.tokens.reverse
  | .set _ => .error .unclosedSet
  | .star => .ok (r.pushMany 1).tokens.reverse
  | .stars => .ok (if r.atStep then r.pushSteps .trailing else r.pushMany 2).tokens.reverse

end Reading

/-- The tokens of a glob. -/
def parse (glob : List Char) : Except Error (List Token) := do
  (← glob.foldlM Reading.read {}).finish

end Lintscope.Glob

import Lintscope.Glob.Match

/-!
# Tables of globs

Whether tokens describe a path depends on which ends of the path the tokens but
the first describe. So the ends are looked at all together: a *row* has an
entry for each end of a path, from the whole path down to the empty one, and
tokens are dealt with from the last to the first, a row each. However many
stars a glob has, the work grows with its length and the length of the path.

* `row_map_suffixes`: a row follows from the one of the tokens but the first;
* `table_eq_map_suffixes`: the entries of a table are those of `describes`.
-/

namespace Lintscope.Glob

/-- A row, worked out from its end: the entry of an end of the path is found
    from that end, the entries of the row before from there on, and the entries
    of this row that are shorter. -/
def scan (entry : List UInt8 → List Bool → List Bool → Bool) :
    List UInt8 → List Bool → List Bool
  | [], before => [entry [] before []]
  | b :: s, before =>
    let shorter := scan entry s before.tail
    entry (b :: s) before shorter :: shorter

/-- The first entry of a part of a row. -/
def first (entries : List Bool) : Bool := entries.headD false

/-- The row for one octet that satisfies `p`. -/
def octetRow (p : UInt8 → Bool) : List UInt8 → List Bool → List Bool :=
  scan fun s before _ => s.head?.any p && first before.tail

/-- The row for a character. -/
def charRow (c : Char) : List UInt8 → List Bool → List Bool :=
  scan fun s before _ =>
    (Text.dropLead? (String.utf8EncodeChar c) s).isSome &&
      first (before.drop (String.utf8EncodeChar c).length)

/-- The row for any octets. -/
def manyRow : List UInt8 → List Bool → List Bool :=
  scan fun _ before shorter => first before || first shorter

/-- The row for any octets that end with a slash. -/
def slashRow : List UInt8 → List Bool → List Bool :=
  scan fun s before shorter =>
    (s.head?.any (· == slashOctet) && first before.tail) || first shorter

/-- The row for any number of steps. -/
def stepsRow (s : List UInt8) (before : List Bool) : List Bool :=
  List.zipWith (· || ·) before (slashRow s before)

/-- The row for a token, given the one for the tokens behind it. -/
def row : Token → List UInt8 → List Bool → List Bool
  | .char c, s, before => charRow c s before
  | .one, s, before => octetRow (fun _ => true) s before
  | .many, s, before => manyRow s before
  | .leading, s, before => stepsRow s before
  | .trailing, s, before => octetRow (· == slashOctet) s (manyRow s before)
  | .between, s, before => octetRow (· == slashOctet) s (stepsRow s before)
  | .oneOf negated ranges, s, before =>
    octetRow (fun b => inRanges ranges b != negated) s before

/-- The row for tokens. -/
def table (tokens : List Token) (path : List UInt8) : List Bool :=
  tokens.foldr (fun t before => row t path before) ((suffixes path).map List.isEmpty)

/-- Whether a glob describes a path. Two stars alone describe every path. -/
def accepts (tokens : List Token) (path : List UInt8) : Bool :=
  tokens = [.leading] || first (table tokens path)

/-! ## Rows and suffixes -/

theorem first_map_suffixes (f : List UInt8 → Bool) (s : List UInt8) :
    first ((suffixes s).map f) = f s := by
  cases s <;> rfl

theorem scan_map_suffixes {entry : List UInt8 → List Bool → List Bool → Bool}
    {f g : List UInt8 → Bool} (nil : g [] = entry [] [f []] [])
    (cons : ∀ b s, g (b :: s) =
      entry (b :: s) (f (b :: s) :: (suffixes s).map f) ((suffixes s).map g))
    (s : List UInt8) : scan entry s ((suffixes s).map f) = (suffixes s).map g := by
  induction s with
  | nil => simp [suffixes, scan, nil]
  | cons b s ih => simp [suffixes, scan, ih, cons]

theorem octetRow_map_suffixes (p : UInt8 → Bool) (f : List UInt8 → Bool) (s : List UInt8) :
    octetRow p s ((suffixes s).map f) =
      (suffixes s).map fun s => s.head?.any p && f s.tail :=
  scan_map_suffixes (by simp) (by simp [first_map_suffixes]) s

theorem drop_map_suffixes (f : List UInt8 → Bool) (pre s : List UInt8) :
    ((suffixes (pre ++ s)).map f).drop pre.length = (suffixes s).map f := by
  induction pre with
  | nil => simp
  | cons b pre ih => simpa [suffixes] using ih

theorem charRow_map_suffixes (c : Char) (f : List UInt8 → Bool) (s : List UInt8) :
    charRow c s ((suffixes s).map f) =
      (suffixes s).map fun s => (Text.dropLead? (String.utf8EncodeChar c) s).any f := by
  have entry (s : List UInt8) :
      ((Text.dropLead? (String.utf8EncodeChar c) s).isSome &&
        first (((suffixes s).map f).drop (String.utf8EncodeChar c).length)) =
      (Text.dropLead? (String.utf8EncodeChar c) s).any f := by
    cases h : Text.dropLead? (String.utf8EncodeChar c) s with
    | none => rfl
    | some rest =>
      rw [Text.dropLead?_eq_some_iff.mp h, drop_map_suffixes, first_map_suffixes]
      simp
  exact scan_map_suffixes (by simpa [suffixes] using (entry []).symm)
    (fun b s => by simpa [suffixes] using (entry (b :: s)).symm) s

theorem manyRow_map_suffixes (f : List UInt8 → Bool) (s : List UInt8) :
    manyRow s ((suffixes s).map f) = (suffixes s).map fun s => (suffixes s).any f :=
  scan_map_suffixes (by simp [suffixes, first])
    (fun b s => by rw [first_map_suffixes]; simp [suffixes, first]) s

theorem slashRow_map_suffixes (f : List UInt8 → Bool) (s : List UInt8) :
    slashRow s ((suffixes s).map f) = (suffixes s).map fun s => (afterSlashes s).any f :=
  scan_map_suffixes (by simp [afterSlashes, first])
    (fun b s => by
      by_cases h : b = slashOctet <;> simp [afterSlashes, first_map_suffixes, h]) s

theorem stepsRow_map_suffixes (f : List UInt8 → Bool) (s : List UInt8) :
    stepsRow s ((suffixes s).map f) =
      (suffixes s).map fun s => f s || (afterSlashes s).any f := by
  simp [stepsRow, slashRow_map_suffixes, List.zipWith_map]

theorem row_map_suffixes (t : Token) (ts : List Token) (s : List UInt8) :
    row t s ((suffixes s).map (describes ts)) = (suffixes s).map (describes (t :: ts)) := by
  cases t with
  | char c =>
    rw [row, charRow_map_suffixes]
    refine List.map_congr_left fun s _ => ?_
    cases h : Text.dropLead? (String.utf8EncodeChar c) s <;> simp [describes, h]
  | one =>
    rw [row, octetRow_map_suffixes]
    refine List.map_congr_left fun s _ => ?_
    cases s <;> simp [describes]
  | many =>
    rw [row, manyRow_map_suffixes]
    refine List.map_congr_left fun s _ => ?_
    rw [describes]
  | leading =>
    rw [row, stepsRow_map_suffixes]
    refine List.map_congr_left fun s _ => ?_
    rw [describes]
  | trailing =>
    rw [row, manyRow_map_suffixes, octetRow_map_suffixes]
    refine List.map_congr_left fun s _ => ?_
    cases s <;> simp [describes]
  | between =>
    rw [row, stepsRow_map_suffixes, octetRow_map_suffixes]
    refine List.map_congr_left fun s _ => ?_
    cases s <;> simp [describes]
  | oneOf negated ranges =>
    rw [row, octetRow_map_suffixes]
    refine List.map_congr_left fun s _ => ?_
    cases s <;> simp [describes]

/-- The entries of a table say which ends of a path the tokens describe. -/
theorem table_eq_map_suffixes (ts : List Token) (s : List UInt8) :
    table ts s = (suffixes s).map (describes ts) := by
  induction ts with
  | nil =>
    refine List.map_congr_left fun s _ => ?_
    rw [describes]
  | cons t ts ih => exact (congrArg (row t s) ih).trans (row_map_suffixes t ts s)

/-- A glob describes the paths that its tokens describe. -/
theorem accepts_eq (ts : List Token) (s : List UInt8) :
    accepts ts s = (decide (ts = [.leading]) || describes ts s) := by
  rw [accepts, table_eq_map_suffixes, first_map_suffixes]

end Lintscope.Glob

import Lintscope.Json.Parser
import Lintscope.Proofs.Json.Scalar

/-!
# Printed JSON is read as it was

The text that a value is printed as is a JSON text for that value (`parse_print`), and no
other value is printed so (`eq_of_print_eq`), if values are not nested too deep and all of
their numbers are kept as whole ones (`Readable`).

The induction is on the value. What it says of a value is about any text that goes on
as a printed text can, behind any spaces (`TakesPrinted`), so that it can be used for the
items of a list and for the members of an object.
-/

namespace Lintscope.Json

open Reader

/-- The values that are nested less than `depth` deep, and whose numbers are kept as
    whole ones. -/
inductive Readable : Nat → Json → Prop where
  | null (depth : Nat) : Readable (depth + 1) null
  | bool (depth : Nat) (b : Bool) : Readable (depth + 1) (bool b)
  | int {n : Int} (depth : Nat) (h : Fits n) : Readable (depth + 1) (int n)
  | str (depth : Nat) (s : String) : Readable (depth + 1) (str s)
  | arr {depth : Nat} {items : List Json} (h : ∀ v ∈ items, Readable (depth + 1) v) :
    Readable (depth + 2) (arr items)
  | obj {depth : Nat} {members : List (String × Json)}
    (h : ∀ m ∈ members, Readable (depth + 1) m.2) : Readable (depth + 2) (obj members)

/-! ## How printed values begin -/

theorem dropWhile_newline (depth : Nat) (s : List Char) :
    (newline depth ++ s).dropWhile isSpace = s.dropWhile isSpace := by
  refine List.dropWhile_append_of_pos fun c hc => ?_
  rcases List.mem_cons.1 hc with rfl | hc
  · rfl
  · rw [List.eq_of_mem_replicate hc]
    rfl

/-- A number begins with a minus sign or with a digit. -/
theorem exists_integer_eq_cons (n : Int) :
    ∃ c s, integer n = c :: s ∧ (c = '-' ∨ c.isDigit) := by
  rcases n with n | n
  · obtain ⟨c, s, h⟩ := List.exists_cons_of_ne_nil (Text.numeral_ne_nil n)
    exact ⟨c, s, h, .inr (Text.isDigit_of_mem_numeral (h ▸ List.mem_cons_self))⟩
  · exact ⟨'-', _, rfl, .inl rfl⟩

theorem exists_chars_eq_cons {depth : Nat} {v : Json} (h : Readable depth v) (k : Nat) :
    ∃ c s, chars k v = c :: s ∧ isSpace c = false ∧ c ≠ ']' := by
  cases h with
  | null => exact ⟨'n', _, rfl, rfl, by decide⟩
  | bool _ b =>
    cases b with
    | true => exact ⟨'t', _, rfl, rfl, by decide⟩
    | false => exact ⟨'f', _, rfl, rfl, by decide⟩
  | int =>
    obtain ⟨c, s, hcons, hc⟩ := exists_integer_eq_cons _
    refine ⟨c, s, hcons, ?_⟩
    rcases hc with rfl | hc
    · exact ⟨rfl, by decide⟩
    · have hne : ∀ d : Char, d.isDigit = false → c ≠ d := by
        rintro d hd rfl
        simp [hc] at hd
      exact ⟨by simp [isSpace, hne], hne _ rfl⟩
  | str => exact ⟨'"', _, rfl, rfl, by decide⟩
  | @arr _ items =>
    cases items with
    | nil => exact ⟨'[', _, rfl, rfl, by decide⟩
    | cons => exact ⟨'[', _, rfl, rfl, by decide⟩
  | @obj _ members =>
    cases members with
    | nil => exact ⟨'\x7b', _, rfl, rfl, by decide⟩
    | cons => exact ⟨'\x7b', _, rfl, rfl, by decide⟩

theorem dropWhile_chars {depth : Nat} {v : Json} (h : Readable depth v) (k : Nat) (t : List Char) :
    (chars k v ++ t).dropWhile isSpace = chars k v ++ t := by
  obtain ⟨c, s, hcons, hspace, -⟩ := exists_chars_eq_cons h k
  rw [hcons, List.cons_append, List.dropWhile_cons, hspace, if_neg Bool.false_ne_true]

/-- A reader takes a value off a printed text, behind any spaces. -/
def TakesPrinted (x : Reader Json) (v : Json) : Prop :=
  ∀ k s t, Follows t → s.dropWhile isSpace = chars k v ++ t → Takes x s v t

/-! ## Lists -/

section

variable {depth k : Nat} {v : Json} {s t : List Char}

theorem takes_moreItems_first (hv : Readable depth v) (hs : s.dropWhile isSpace = chars k v ++ t) :
    Takes (moreItems true) s true (chars k v ++ t) := by
  obtain ⟨c, u, hcons, -, hc⟩ := exists_chars_eq_cons hv k
  rw [hcons, List.cons_append] at hs ⊢
  refine (takes_next hs).bind ?_
  split
  · next heq => exact absurd (Option.some.inj heq) hc
  · exact .pure true
  · next heq => cases heq

theorem takes_moreItems_comma (hv : Readable depth v) (hs : s.dropWhile isSpace = chars k v ++ t) :
    Takes (moreItems false) (',' :: s) true (chars k v ++ t) := by
  obtain ⟨c, u, hcons, -, hc⟩ := exists_chars_eq_cons hv k
  rw [hcons, List.cons_append] at hs ⊢
  refine (takes_next rfl).bind ((takes_skip _ _).bind ((takes_next hs).bind ?_))
  split
  · next heq => exact absurd (Option.some.inj heq) hc
  · exact .pure true
  · next heq => cases heq

theorem takes_moreItems_end (first : Bool) (hs : s.dropWhile isSpace = ']' :: t) :
    Takes (moreItems first) s false (']' :: t) :=
  (takes_next hs).bind (.pure false)

end

theorem follows_itemChars (k j : Nat) (vs : List Json) (t : List Char) :
    Follows (itemChars k vs ++ (newline j ++ t)) := by
  cases vs with
  | nil => exact .newline _
  | cons => exact .comma _

theorem length_le_length_itemChars (k : Nat) (vs : List Json) :
    vs.length ≤ (itemChars k vs).length := by
  induction vs with
  | nil => exact Nat.le_refl 0
  | cons v vs ih =>
    simp only [itemChars, List.length_append, List.length_cons]
    omega

section

variable {depth : Nat} {x : Reader Json} {v : Json} {vs : List Json}

/-- A further item of a list, or its first one, and the items behind it. -/
theorem takes_items_cons {fuel : Nat} {first : Bool} {s t u r : List Char}
    (hmore : Takes (moreItems first) s true t) (hitem : Takes x t v u)
    (hrest : Takes (items x fuel false) u vs r) :
    Takes (items x (fuel + 1) first) s (v :: vs) r :=
  hmore.bind (hitem.bind (hrest.bind (.pure _)))

/-- Further items of a list are taken off the lines on which they are printed. -/
theorem takes_items (h : ∀ v ∈ vs, Readable depth v) (hx : ∀ v ∈ vs, TakesPrinted x v) {fuel : Nat}
    (hfuel : vs.length < fuel) (k j : Nat) (t : List Char) :
    Takes (items x fuel false) (itemChars k vs ++ (newline j ++ ']' :: t)) vs (']' :: t) := by
  induction vs generalizing fuel with
  | nil =>
    obtain ⟨fuel, rfl⟩ := Nat.exists_eq_succ_of_ne_zero (Nat.ne_of_gt hfuel)
    exact (takes_moreItems_end false (dropWhile_newline j _)).bind (.pure [])
  | cons v vs ih =>
    obtain ⟨fuel, rfl⟩ := Nat.exists_eq_succ_of_ne_zero (Nat.ne_of_gt (Nat.zero_lt_of_lt hfuel))
    rw [List.forall_mem_cons] at h hx
    have hv := dropWhile_chars h.1 k (itemChars k vs ++ (newline j ++ ']' :: t))
    rw [itemChars]
    simp only [List.append_assoc, List.cons_append]
    refine takes_items_cons (takes_moreItems_comma h.1 ((dropWhile_newline k _).trans hv)) ?_
      (ih h.2 hx.2 (Nat.lt_of_succ_lt_succ hfuel))
    exact hx.1 k _ _ (follows_itemChars k j vs _) hv

/-- The items of a list with items are taken off behind its bracket. -/
theorem takes_listTail (h : ∀ w ∈ v :: vs, Readable depth w)
    (hx : ∀ w ∈ v :: vs, TakesPrinted x w) (k j : Nat) (t : List Char) :
    Takes (listTail x)
      (newline k ++ (chars k v ++ (itemChars k vs ++ (newline j ++ ']' :: t)))) (v :: vs) t := by
  rw [List.forall_mem_cons] at h hx
  have hv := dropWhile_chars h.1 k (itemChars k vs ++ (newline j ++ ']' :: t))
  have hfuel : vs.length <
      (newline k ++ (chars k v ++ (itemChars k vs ++ (newline j ++ ']' :: t)))).length := by
    have hlength := length_le_length_itemChars k vs
    simp only [List.length_append, List.length_cons]
    omega
  have hend : Takes endList (']' :: t) () t := fun _ => run_endList rfl
  refine .get_bind fun p => Takes.bind ?_ (hend.bind (.pure _))
  refine takes_items_cons (takes_moreItems_first h.1 ((dropWhile_newline k _).trans hv)) ?_
    (takes_items h.2 hx.2 hfuel k j t)
  exact hx.1 k _ _ (follows_itemChars k j vs _) hv

end

/-! ## Objects -/

theorem quoted_append (name : String) (t : List Char) :
    quoted name ++ t = '"' :: (name.toList.flatMap Json.escape ++ '"' :: t) := by
  simp [quoted]

section

variable {name : String} {s t : List Char}

theorem takes_moreMembers_first (hs : s.dropWhile isSpace = quoted name ++ t) :
    Takes (moreMembers true) s true (quoted name ++ t) := by
  rw [quoted_append] at hs ⊢
  exact (takes_next hs).bind (.pure true)

theorem takes_moreMembers_comma (hs : s.dropWhile isSpace = quoted name ++ t) :
    Takes (moreMembers false) (',' :: s) true (quoted name ++ t) := by
  rw [quoted_append] at hs ⊢
  exact (takes_next rfl).bind ((takes_skip _ _).bind ((takes_next hs).bind (.pure true)))

theorem takes_moreMembers_end (first : Bool) (hs : s.dropWhile isSpace = '\x7d' :: t) :
    Takes (moreMembers first) s false ('\x7d' :: t) :=
  (takes_next hs).bind (.pure false)

end

theorem follows_memberChars (k j : Nat) (ms : List (String × Json)) (t : List Char) :
    Follows (memberChars k ms ++ (newline j ++ t)) := by
  cases ms with
  | nil => exact .newline _
  | cons => exact .comma _

theorem length_le_length_memberChars (k : Nat) (ms : List (String × Json)) :
    ms.length ≤ (memberChars k ms).length := by
  induction ms with
  | nil => exact Nat.le_refl 0
  | cons m ms ih =>
    simp only [memberChars, List.length_append, List.length_cons]
    omega

/-- What is printed of a member and behind it. -/
def memberText (k : Nat) (m : String × Json) (t : List Char) : List Char :=
  quoted m.1 ++ (": ".toList ++ (chars k m.2 ++ t))

theorem dropWhile_memberText (j k : Nat) (m : String × Json) (t : List Char) :
    (newline j ++ memberText k m t).dropWhile isSpace = memberText k m t := by
  rw [dropWhile_newline, memberText, quoted_append]
  rfl

/-- A reader takes what stands behind the name of a member off a printed text, and puts
    the member before those that are known. -/
def TakesMember (x : String → List (String × Json) → Reader (List (String × Json)))
    (m : String × Json) : Prop :=
  ∀ k known t, Follows t → Takes (x m.1 known) (": ".toList ++ (chars k m.2 ++ t)) (m :: known) t

section

variable {x : String → List (String × Json) → Reader (List (String × Json))}
  {m : String × Json} {ms known all : List (String × Json)}

/-- A further member of an object, or its first one, and the members behind it. -/
theorem takes_members_cons {fuel k : Nat} {first : Bool} {s t r : List Char}
    (hmore : Takes (moreMembers first) s true (memberText k m t)) (hx : TakesMember x m)
    (ht : Follows t) (hrest : Takes (members x fuel false (m :: known)) t all r) :
    Takes (members x (fuel + 1) first known) s all r := by
  rw [memberText, quoted_append] at hmore
  have hmember := hx k known t ht
  exact hmore.bind ((takes_skip _ _).bind ((takes_string m.1 _).bind (hmember.bind hrest)))

/-- Further members of an object are taken off the lines on which they are printed. -/
theorem takes_members (hx : ∀ m ∈ ms, TakesMember x m) {fuel : Nat} (hfuel : ms.length < fuel)
    (k j : Nat) (known : List (String × Json)) (t : List Char) :
    Takes (members x fuel false known) (memberChars k ms ++ (newline j ++ '\x7d' :: t))
      (ms.reverse ++ known) ('\x7d' :: t) := by
  induction ms generalizing fuel known with
  | nil =>
    obtain ⟨fuel, rfl⟩ := Nat.exists_eq_succ_of_ne_zero (Nat.ne_of_gt hfuel)
    exact (takes_moreMembers_end false (dropWhile_newline j _)).bind (.pure known)
  | cons m ms ih =>
    obtain ⟨fuel, rfl⟩ := Nat.exists_eq_succ_of_ne_zero (Nat.ne_of_gt (Nat.zero_lt_of_lt hfuel))
    rw [List.forall_mem_cons] at hx
    have hrest := ih hx.2 (Nat.lt_of_succ_lt_succ hfuel) (m :: known)
    rw [memberChars, List.reverse_cons, List.append_assoc]
    simp only [List.append_assoc, List.cons_append]
    exact takes_members_cons (takes_moreMembers_comma (dropWhile_memberText k k m _)) hx.1
      (follows_memberChars k j ms _) hrest

/-- The members of an object with members are taken off behind its brace. -/
theorem takes_objectTail (hx : ∀ n ∈ m :: ms, TakesMember x n) (k j : Nat) (t : List Char) :
    Takes (objectTail x [])
      (newline k ++ memberText k m (memberChars k ms ++ (newline j ++ '\x7d' :: t)))
      (m :: ms).reverse t := by
  rw [List.forall_mem_cons] at hx
  have hfuel : ms.length < (newline k ++
      memberText k m (memberChars k ms ++ (newline j ++ '\x7d' :: t))).length := by
    have hlength := length_le_length_memberChars k ms
    simp only [memberText, List.length_append, List.length_cons]
    omega
  refine .get_bind fun p => Takes.bind ?_ ((takes_skip '\x7d' t).bind (.pure _))
  have hrest := takes_members hx.2 hfuel k j [m] t
  rw [List.reverse_cons]
  exact takes_members_cons (takes_moreMembers_first (dropWhile_memberText k k m _)) hx.1
    (follows_memberChars k j ms _) hrest

end

/-- An object without members ends behind its brace. -/
theorem takes_objectTail_nil (x : String → List (String × Json) → Reader (List (String × Json)))
    (t : List Char) : Takes (objectTail x []) ('\x7d' :: t) [] t := by
  refine .get_bind fun p => Takes.bind ?_ ((takes_skip '\x7d' t).bind (.pure _))
  exact (takes_moreMembers_end true rfl).bind (.pure [])

/-! ## Values -/

theorem takes_colon (s : List Char) : Takes colon (':' :: s) () s :=
  (takes_next (c := ':') rfl).bind (takes_skip _ s)

/-- What is read of a member is its value, behind a colon. -/
theorem takesMember_of_readable {depth : Nat} {x : Reader Json} {m : String × Json}
    (hm : Readable depth m.2) (hx : TakesPrinted x m.2) :
    TakesMember (fun name known => do
      colon
      return (name, ← x) :: known) m := by
  intro k known t ht
  have hvalue := hx k (' ' :: (chars k m.2 ++ t)) t ht (dropWhile_chars hm k t)
  exact (takes_colon _).bind (hvalue.bind (.pure (m :: known)))

theorem takesPrinted_int (depth : Nat) {n : Int} (hn : Fits n) :
    TakesPrinted (value (depth + 1)) (.int n) := by
  intro k s t ht hs
  obtain ⟨c, u, hcons, hc⟩ := exists_integer_eq_cons n
  have hnumber := takes_number hn ht
  change s.dropWhile isSpace = integer n ++ t at hs
  rw [hcons, List.cons_append] at hs hnumber
  refine (takes_next hs).bind ?_
  split
  · next heq =>
    cases heq
    exact absurd hc (by decide)
  · next heq =>
    cases heq
    exact absurd hc (by decide)
  · next heq =>
    cases heq
    rw [if_pos hc]
    exact hnumber
  · next heq => cases heq

theorem takesPrinted_str (depth : Nat) (v : String) :
    TakesPrinted (value (depth + 1)) (.str v) := by
  intro k s t ht hs
  change s.dropWhile isSpace = quoted v ++ t at hs
  rw [quoted_append] at hs
  have hfound : Takes found ('"' :: (v.toList.flatMap Json.escape ++ '"' :: t)) (.text v) t :=
    (takes_next rfl).bind ((takes_skip _ _).bind ((takes_string v t).bind (.pure (Found.text v))))
  exact (takes_next hs).bind (hfound.bind (.pure _))

section

variable {depth : Nat}

theorem takesPrinted_arr {vs : List Json} (h : ∀ v ∈ vs, Readable (depth + 1) v)
    (hx : ∀ v ∈ vs, TakesPrinted (value (depth + 1)) v) :
    TakesPrinted (value (depth + 2)) (.arr vs) := by
  intro k s t ht hs
  rcases vs with _ | ⟨v, vs⟩
  · have htail : Takes (listTail (value (depth + 1))) (']' :: t) [] t :=
      fun _ => run_listTail _ rfl
    exact (takes_next hs).bind ((takes_skip _ _).bind (htail.bind (.pure _)))
  · have htail := takes_listTail h hx (k + 1) k t
    rw [chars] at hs
    simp only [List.append_assoc, List.cons_append, List.nil_append] at hs
    exact (takes_next hs).bind ((takes_skip _ _).bind (htail.bind (.pure _)))

theorem takesPrinted_obj {ms : List (String × Json)} (h : ∀ m ∈ ms, Readable (depth + 1) m.2)
    (hx : ∀ m ∈ ms, TakesPrinted (value (depth + 1)) m.2) :
    TakesPrinted (value (depth + 2)) (.obj ms) := by
  intro k s t ht hs
  -- Members are put before those that are known, so all of them are turned round in the end.
  rw [← ms.reverse_reverse]
  rcases ms with _ | ⟨m, ms⟩
  · exact (takes_next hs).bind ((takes_skip _ _).bind ((takes_objectTail_nil _ t).bind (.pure _)))
  · have hmember := fun n hn => takesMember_of_readable (h n hn) (hx n hn)
    have htail := takes_objectTail hmember (k + 1) k t
    rw [chars] at hs
    simp only [List.append_assoc, List.cons_append, List.nil_append] at hs
    exact (takes_next hs).bind ((takes_skip _ _).bind (htail.bind (.pure _)))

end

/-- A printed value is read as it was. -/
theorem takesPrinted_value {depth : Nat} {v : Json} (h : Readable depth v) :
    TakesPrinted (value depth) v := by
  induction h with
  | null =>
    intro k s t ht hs
    exact (takes_next hs).bind fun p => ⟨_, rfl⟩
  | bool _ b =>
    intro k s t ht hs
    cases b with
    | true => exact (takes_next hs).bind fun p => ⟨_, rfl⟩
    | false => exact (takes_next hs).bind fun p => ⟨_, rfl⟩
  | int depth hn => exact takesPrinted_int depth hn
  | str depth v => exact takesPrinted_str depth v
  | arr h ih => exact takesPrinted_arr h ih
  | obj h ih => exact takesPrinted_obj h ih

/-- The text that a value is printed as stands for that value. -/
theorem parse_print {v : Json} (h : Readable 128 v) : parse v.print = .ok v := by
  have hvalue := takesPrinted_value h 0 (chars 0 v) [] .nil
  rw [List.append_nil] at hvalue
  have hchars := dropWhile_chars h 0 []
  rw [List.append_nil] at hchars
  obtain ⟨p, hp⟩ := hvalue hchars {}
  obtain ⟨q, hq⟩ := run_next ⟨[], p⟩
  refine bind_eq_ok_iff.2 ⟨(v, ⟨[], q⟩), ?_, rfl⟩
  rw [print, String.toList_ofList]
  exact run_bind_eq_ok_iff.2 ⟨_, _, hp, run_bind_eq_ok_iff.2 ⟨_, _, hq, rfl⟩⟩

theorem eq_of_print_eq {v w : Json} (hv : Readable 128 v) (hw : Readable 128 w)
    (h : v.print = w.print) : v = w :=
  Except.ok.inj ((parse_print hv).symm.trans (h ▸ parse_print hw))

end Lintscope.Json

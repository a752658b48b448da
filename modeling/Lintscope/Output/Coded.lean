import Lintscope.Output.Location

/-!
# Texts with a code

What tools add to the text of a message, each in its own place: a code before
it, a category behind it, or a level before and a rule behind it.
-/

namespace Lintscope.Output

open Text

/-! ## A code before the text -/

/-- Whether a word is a code: capitals, and then digits. -/
def isCode (word : List Char) : Bool :=
  let digits := word.dropWhile Char.isUpper
  word.head?.any Char.isUpper && digits ≠ [] && digits.all Unicode.isDigit

/-- A message that is written `CODE text`. If nothing follows the code, it is
    the text as well. -/
def withLeadingCode (m : Message) (s : List Char) : Message :=
  let (first, rest) := (cut? [' '] s).getD (s, [])
  let whole : String := .ofList s
  if isCode first then
    let text : String := .ofList (trim rest)
    (m.withText (if text = "" then whole else text)).withCode (.ofList first)
  else m.withText whole

/-! ## A category behind the text -/

/-- A word in brackets that a text starts with, and what follows. -/
def bracketed? (s : List Char) : Option (List Char × List Char) := do
  let (word, rest) ← cut? [']'] (← dropLead? ['['] s)
  guard (word ≠ [])
  return (word, rest)

/-- What follows the blanks that a text starts with. -/
def afterBlanks? (s : List Char) : Option (List Char) :=
  if s.head?.any isBlank then some (trimStart s) else none

/-- The category of a text that is nothing but a category and a confidence. -/
def categoryAlone? (s : List Char) : Option (List Char) := do
  let (category, s) ← bracketed? (← afterBlanks? s)
  match ← bracketed? (← afterBlanks? s) with
  | ([digit], []) => if Unicode.isDigit digit then return category else none
  | _ => none

/-- A text before a category, and the category. -/
def category? (s : List Char) : Option (List Char × List Char) :=
  match categoryAlone? s with
  | some category => some ([], category)
  | none =>
    match s with
    | [] => none
    | c :: s => (category? s).map fun (text, category) => (c :: text, category)

/-- A message that is written `text  [category] [confidence]`. -/
def withCategory (m : Message) (s : List Char) : Message :=
  match category? s with
  | some (text, category) => (m.withText (.ofList (trim text))).withCode (.ofList category)
  | none => m.withText (.ofList s)

/-! ## A level before and a rule behind the text -/

/-- The level of a text that starts with one, and what follows. -/
def level (s : List Char) : Severity × List Char :=
  match (dropLead? ['['] s).bind (cut? [']']) with
  | some (level, rest) => (Severity.ofLabel (.ofList level), trim rest)
  | none => (.warning, s)

/-- The text before a rule, and the rule; no rule if there is none. -/
def rule (s : List Char) : List Char × List Char :=
  match (dropTail? [')'] s).bind (cutLast? [' ', '(']) with
  | some (text, rule) => (trimEnd text, rule)
  | none => (s, [])

/-- A message that is written `[level] text (rule)`. -/
def withLevel (m : Message) (s : List Char) : Message :=
  let (severity, s) := level s
  let (text, rule) := rule s
  ((m.withText (.ofList text)).withSeverity severity).withCode (.ofList rule)

end Lintscope.Output

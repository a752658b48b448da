import Lintscope.Text.Blank
import Lintscope.Unicode.CaseFold
import Lintscope.Unicode.Category
import Lintscope.Unicode.Digit
import Lintscope.Unicode.Property
import Lintscope.Unicode.Word

/-!
# Sets of characters

A pattern asks for one character out of a set at a time. Sets are built from ranges
and from the sets that the character standard defines, by the operations that a
bracket expression has. A set that is closed under case holds a character as soon as
it holds one that differs from it by case alone.
-/

namespace Lintscope.Regex

/-- A set of characters. -/
inductive CharSet where
  /-- The characters from one to another, both included. -/
  | range (low high : Char)
  /-- The decimal digits of all scripts. -/
  | digit
  /-- The blanks. -/
  | blank
  /-- The characters of words. -/
  | word
  /-- A general category or a group of them. -/
  | category (name : String)
  /-- The characters that the standard gives a property or a script. -/
  | table (ranges : Unicode.Ranges)
  /-- The characters of any of some sets. -/
  | union (sets : List CharSet)
  /-- The characters of both sets. -/
  | both (a b : CharSet)
  /-- The characters of the first set that are not in the second one. -/
  | without (a b : CharSet)
  /-- The characters of one set that are not in the other one. -/
  | either (a b : CharSet)
  /-- The characters that are not in a set. -/
  | complement (a : CharSet)
  /-- A set closed under case. -/
  | anyCase (a : CharSet)

namespace CharSet

mutual

/-- Whether a set holds a character. -/
def has : CharSet → Char → Bool
  | range low high, c => low ≤ c && c ≤ high
  | digit, c => Unicode.isDigit c
  | blank, c => Text.isBlank c
  | word, c => Unicode.isWord c
  | category name, c => Unicode.inCategory name c
  | table ranges, c => ranges.has c
  | union sets, c => anyHas sets c
  | both a b, c => a.has c && b.has c
  | without a b, c => a.has c && !b.has c
  | either a b, c => a.has c != b.has c
  | complement a, c => !a.has c
  | anyCase a, c => (Unicode.caseVariants c).any a.has

/-- Whether one of several sets holds a character. -/
def anyHas : List CharSet → Char → Bool
  | [], _ => false
  | s :: sets, c => s.has c || anyHas sets c

end

/-- The set of one character. -/
def single (c : Char) : CharSet := range c c

/-- The set of the characters of a text. -/
def ofList (cs : List Char) : CharSet := union (cs.map single)

/-- The set of all characters. -/
def full : CharSet := range '\x00' (.ofNat 0x10FFFF)

/-- The set of the characters that are no line feed. -/
def notLineFeed : CharSet := complement (single '\n')

/-! ## ASCII classes -/

/-- The ASCII characters. -/
def ascii : CharSet := range '\x00' '\x7f'

/-- The ASCII classes by their names. -/
def asciiClasses : List (String × CharSet) :=
  let upper := range 'A' 'Z'
  let lower := range 'a' 'z'
  let digits := range '0' '9'
  [ ("alnum", union [digits, upper, lower]),
    ("alpha", union [upper, lower]),
    ("ascii", ascii),
    ("blank", ofList ['\t', ' ']),
    ("cntrl", union [range '\x00' '\x1f', single '\x7f']),
    ("digit", digits),
    ("graph", range '!' '~'),
    ("lower", lower),
    ("print", range ' ' '~'),
    ("punct", union [range '!' '/', range ':' '@', range '[' '\x60', range '\x7b' '~']),
    ("space", ofList ['\t', '\n', '\x0b', '\x0c', '\r', ' ']),
    ("upper", upper),
    ("word", union [digits, upper, lower, single '_']),
    ("xdigit", union [digits, range 'A' 'F', range 'a' 'f']) ]

/-- The ASCII class with a name. -/
def asciiClass? (name : String) : Option CharSet := asciiClasses.lookup name

/-! ## Classes of the standard -/

/-- The general categories by their long names. -/
def categoryNames : List (String × String) :=
  [ ("letter", "L"), ("uppercaseletter", "Lu"), ("lowercaseletter", "Ll"),
    ("titlecaseletter", "Lt"), ("modifierletter", "Lm"), ("otherletter", "Lo"),
    ("mark", "M"), ("combiningmark", "M"),
    ("nonspacingmark", "Mn"), ("spacingmark", "Mc"), ("enclosingmark", "Me"), ("number", "N"),
    ("decimalnumber", "Nd"), ("letternumber", "Nl"), ("othernumber", "No"), ("punctuation", "P"),
    ("connectorpunctuation", "Pc"), ("dashpunctuation", "Pd"), ("openpunctuation", "Ps"),
    ("closepunctuation", "Pe"), ("initialpunctuation", "Pi"), ("finalpunctuation", "Pf"),
    ("otherpunctuation", "Po"), ("symbol", "S"), ("mathsymbol", "Sm"), ("currencysymbol", "Sc"),
    ("modifiersymbol", "Sk"), ("othersymbol", "So"), ("separator", "Z"), ("spaceseparator", "Zs"),
    ("lineseparator", "Zl"), ("paragraphseparator", "Zp"), ("other", "C"), ("control", "Cc"),
    ("format", "Cf"), ("unassigned", "Cn"), ("privateuse", "Co"),
    ("digit", "Nd"), ("punct", "P"), ("cntrl", "Cc") ]

/-- The short names of properties and scripts. -/
def shortNames : List (String × String) :=
  [ ("alpha", "alphabetic"), ("lower", "lowercase"), ("upper", "uppercase"), ("latn", "latin"),
    ("grek", "greek"), ("cyrl", "cyrillic"), ("armn", "armenian"), ("hebr", "hebrew"),
    ("arab", "arabic"), ("deva", "devanagari"), ("geor", "georgian"), ("hang", "hangul"),
    ("hira", "hiragana"), ("kana", "katakana"), ("hani", "han") ]

/-- A name without case, spaces, dashes and underscores, and without `is` in front. -/
def looseName (name : String) : String :=
  let cs := (name.toList.map Char.toLower).filter fun c => !(c == ' ' || c == '_' || c == '-')
  match cs with
  | 'i' :: 's' :: rest => if rest.isEmpty || rest == ['c'] then .ofList cs else .ofList rest
  | _ => .ofList cs

/-- The general category with a name. -/
def categoryClass? (name : String) : Option CharSet :=
  let name := looseName name
  let short := (Unicode.categories.map (·.1)) ++ ["Cn", "L", "M", "N", "P", "S", "Z", "C"]
  match name with
  | "any" => some full
  | "assigned" => some (complement (category "Cn"))
  | "ascii" => some ascii
  | "lc" | "casedletter" => some (union [category "Lu", category "Ll", category "Lt"])
  | _ =>
    match short.find? fun s => s.map Char.toLower == name with
    | some s => some (category s)
    | none => (categoryNames.lookup name).map category

/-- The script with a name. -/
def scriptClass? (name : String) : Option CharSet :=
  let name := looseName name
  (Unicode.scripts.lookup ((shortNames.lookup name).getD name)).map table

/-- The property, the general category or the script with a name. -/
def namedClass? (name : String) : Option CharSet :=
  let loose := looseName name
  if loose == "whitespace" || loose == "wspace" || loose == "space" then some blank
  else
    ((Unicode.properties.lookup ((shortNames.lookup loose).getD loose)).map table)
      <|> categoryClass? name <|> scriptClass? name

end CharSet

end Lintscope.Regex

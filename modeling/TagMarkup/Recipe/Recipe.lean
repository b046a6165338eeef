import TagMarkup.Parsing.Fault
import TagMarkup.Parsing.Run
import TagMarkup.Recipe.Value

/-!
# Recipes

A recipe is a parser written as data: the functions and tests inside of it are chosen from a
fixed stock. All recipes yield values of one type. Inside of a recipe a parser yields values of the
type of its kind (`Prepared`), so that they take the room of that type, and a repetition of single
characters yields characters instead of a list.

`Recipe.parser` builds the parser. Cells are named by strings.
-/

namespace TagMarkup

/-- The kinds of characters that recipes test for. -/
inductive CharClass where
  | digit
  | lower
  | nonAscii
  | among (cs : List Char)
  | always
  | never

/-- Whether a character is of a kind. -/
def CharClass.holds : CharClass → Char → Bool
  | digit, c => c.isDigit
  | lower, c => c.isLower
  | nonAscii, c => 0x80 ≤ c.toNat
  | among cs, c => c ∈ cs
  | always, _ => true
  | never, _ => false

/-- How the values of two parsers in sequence are combined. -/
inductive Combination where
  | pair
  | swap
  | concat

/-- The combined value. -/
def Combination.combine : Combination → Value → Value → Value
  | pair, a, b => .pair a b
  | swap, a, b => .pair b a
  | concat, a, b => .str (spelledText a ++ spelledText b)

/-- When the values of two parsers in sequence fit. -/
inductive Fit where
  | equal
  | differ
  | shorter
  | always
  | never

/-- Whether two values fit, by their characters. -/
def Fit.holds : Fit → Value → Value → Bool
  | equal, a, b => spelling a = spelling b
  | differ, a, b => spelling a ≠ spelling b
  | shorter, a, b => (spelling a).length < (spelling b).length
  | always, _, _ => true
  | never, _, _ => false

/-- Functions that recipes apply to values. -/
inductive Transform where
  | flat
  | len
  | upper
  | count
  | depth
  | unit

/-- The number that a value is; other values count as zero. -/
def Value.numberOrZero : Value → Nat
  | .number n => n
  | _ => 0

/-- The transformed value. -/
def Transform.apply : Transform → Value → Value
  | flat, v => .str (spelledText v)
  | len, v => .number (spelling v).length
  | upper, v => .str (String.ofList ((spelling v).map Char.toUpper))
  | count, v => .number v.items.length
  | depth, v => .number (1 + v.items.foldl (fun d v => max d v.numberOrZero) 0)
  | unit, _ => .unit

/-- Tests that recipes make on values. -/
inductive Criterion where
  | eq (cs : List Char)
  | min (n : Nat)
  | max (n : Nat)
  | distinct
  | always
  | never

/-- Whether a value passes the test. -/
def Criterion.holds : Criterion → Value → Bool
  | eq cs, v => spelling v = cs
  | min n, v => n ≤ (spelling v).length
  | max n, v => (spelling v).length ≤ n
  | distinct, v => (v.items.map spelling).Nodup
  | always, _ => true
  | never, _ => false

/-- What the values of a recipe look like. -/
inductive Kind where
  | char
  | chars
  | str
  | any
deriving DecidableEq

namespace Kind

/-- The type of the values of a kind. -/
def Carrier : Kind → Type
  | char => Char
  | chars => List Char
  | str => String
  | any => Value

instance : (kind : Kind) → Sized kind.Carrier
  | char => inferInstanceAs (Sized Char)
  | chars => inferInstanceAs (Sized (List Char))
  | str => inferInstanceAs (Sized String)
  | any => inferInstanceAs (Sized Value)

/-- A value of a kind among all values. -/
def value : (kind : Kind) → kind.Carrier → Value
  | char, c => .char c
  | chars, cs => .chars cs
  | str, s => .str s
  | any, v => v

end Kind

/-- A parser written as data. -/
inductive Recipe where
  | any
  | literal (expected : Char)
  | noneOf (excluded : List Char)
  | letterOrDigit
  | space
  | newline
  | whitespace
  | satisfy (cls : CharClass) (label : Option String)
  | nothing
  | take (count : Nat)
  | fail (reason : Reason)
  | cell (handle : String)
  | sequence (p q : Recipe) (how : Combination)
  | left (p q : Recipe)
  | right (p q : Recipe)
  | neither (p q : Recipe)
  | sequenceIf (p q : Recipe) (how : Combination) (fit : Fit)
  | orElse (p q : Recipe)
  | many (p : Recipe)
  | oneOrMore (p : Recipe)
  | exactly (p : Recipe) (count : Nat)
  | map (p : Recipe) (f : Transform)
  | text (p : Recipe)
  | chars (p : Recipe)
  | validate (p : Recipe) (criterion : Criterion)
  | toEnd (p : Recipe)
  | shared (p : Recipe)

/-- A parser whose values are of one kind. -/
structure Prepared where
  kind : Kind
  parser : Parser Fault (Uniform Value) kind.Carrier

namespace Prepared

/-- The parser with its values among all values. -/
def values (p : Prepared) : Parser Fault (Uniform Value) Value := .map p.parser p.kind.value

/-- The values of a repetition: characters stay characters, and other values become a list. -/
def gather : (kind : Kind) → Parser Fault (Uniform Value) (List kind.Carrier) → Prepared
  | .char, p => ⟨.chars, p⟩
  | kind, p => ⟨.any, .map p fun vs => .list (vs.map kind.value)⟩

/-- Applies two parsers in turn and combines their values. -/
def sequence (p q : Prepared) : Combination → Prepared
  | .concat => ⟨.str, .sequence p.values q.values fun a b => spelledText a ++ spelledText b⟩
  | how => ⟨.any, .sequence p.values q.values how.combine⟩

/-- Applies the second parser, from the same place, if the first one fails. -/
def orElse (p q : Prepared) : Prepared :=
  if h : q.kind = p.kind then ⟨p.kind, .orElse p.parser (h ▸ q.parser)⟩
  else ⟨.any, .orElse p.values q.values⟩

end Prepared

namespace Recipe

/-- The parser of a recipe, with the kind of its values. -/
def prepare : Recipe → Prepared
  | any => ⟨.char, .any⟩
  | literal c => ⟨.char, .literal c⟩
  | noneOf cs => ⟨.char, .noneOf cs⟩
  | letterOrDigit => ⟨.char, .letterOrDigit⟩
  | space => ⟨.char, .space⟩
  | newline => ⟨.char, .newline⟩
  | whitespace => ⟨.char, .whitespace⟩
  | satisfy cls label => ⟨.char, .satisfy cls.holds (label.getD Parser.defaultLabel)⟩
  | nothing => ⟨.any, .succeed Value.unit⟩
  | take n => ⟨.str, .take n⟩
  | fail reason => ⟨.any, .fail reason⟩
  | cell handle => ⟨.any, .cell handle⟩
  | sequence p q how => p.prepare.sequence q.prepare how
  | left p q =>
    let p := p.prepare
    ⟨p.kind, .left p.parser q.prepare.parser⟩
  | right p q =>
    let q := q.prepare
    ⟨q.kind, .right p.prepare.parser q.parser⟩
  | neither p q => ⟨.any, .map (.neither p.prepare.parser q.prepare.parser) fun _ => Value.unit⟩
  | sequenceIf p q how fit =>
    ⟨.any, .sequenceIf p.prepare.values q.prepare.values how.combine fit.holds⟩
  | orElse p q => p.prepare.orElse q.prepare
  | many p =>
    let p := p.prepare
    .gather p.kind (.many p.parser)
  | oneOrMore p =>
    let p := p.prepare
    .gather p.kind (.oneOrMore p.parser)
  | exactly p n =>
    let p := p.prepare
    .gather p.kind (.exactly p.parser n .noRoom)
  | map p f => ⟨.any, .map p.prepare.values f.apply⟩
  | text p => ⟨.str, .text p.prepare.values⟩
  | chars p => ⟨.chars, .chars p.prepare.values⟩
  | validate p criterion =>
    let p := p.prepare
    ⟨p.kind, .validate p.parser fun a => criterion.holds (p.kind.value a)⟩
  | toEnd p =>
    let p := p.prepare
    ⟨p.kind, .toEnd p.parser⟩
  | shared p =>
    let p := p.prepare
    ⟨p.kind, .shared p.parser⟩

/-- The parser of a recipe. -/
def parser (r : Recipe) : Parser Fault (Uniform Value) Value := r.prepare.values

end Recipe

end TagMarkup

import TagMarkup.Parsing.Outcome
import TagMarkup.Parsing.Room
import TagMarkup.Text.Alphanumeric
import TagMarkup.Text.Blank
import TagMarkup.Text.Spelling

/-!
# Parsers

A parser is a description: a tree of primitives and combinators. What it does at a cursor is
said by `Parser.run`. Recursion goes through cells: a cell stands for a parser that is given
elsewhere, so a description is always finite. The cells of a parser are named by a type `κ`,
and the parser behind the cell `k` yields values of type `ν k`. A run may be broken off for a
cause of type `ε`; a counted repetition names the cause that applies if it finds no room, so
where `ε` is empty there is no such repetition.
-/

namespace TagMarkup

/-- A parser of values of a type, with cells of types `ν`, whose runs are broken off for causes
of type `ε`. -/
inductive Parser {κ : Type} (ε : Type) (ν : κ → Type) : Type → Type 1 where
  /-- Reads any character. -/
  | any : Parser ε ν Char
  /-- Reads the given character. -/
  | literal (expected : Char) : Parser ε ν Char
  /-- Reads a character that passes a test; the label describes such characters. -/
  | satisfy (test : Char → Bool) (label : String) : Parser ε ν Char
  /-- Reads a character that is not among the given ones. -/
  | noneOf (excluded : List Char) : Parser ε ν Char
  /-- Does what a function says. -/
  | ofFn {α : Type} (f : Cursor → Outcome ε α) : Parser ε ν α
  /-- Does what the parser behind a cell does. -/
  | cell (k : κ) : Parser ε ν (ν k)
  /-- Applies two parsers in turn and combines their values. -/
  | sequence {α β γ : Type} (p : Parser ε ν α) (q : Parser ε ν β) (f : α → β → γ) : Parser ε ν γ
  /-- Applies two parsers in turn, and fails where it started if the values do not fit. -/
  | sequenceIf {α β γ : Type} (p : Parser ε ν α) (q : Parser ε ν β) (f : α → β → γ)
      (fit : α → β → Bool) : Parser ε ν γ
  /-- Applies the second parser, from the same place, if the first one fails. -/
  | orElse {α : Type} (p q : Parser ε ν α) : Parser ε ν α
  /-- Applies a parser as often as it succeeds. -/
  | many {α : Type} (p : Parser ε ν α) : Parser ε ν (List α)
  /-- Applies a parser as often as it succeeds, at least once. -/
  | oneOrMore {α : Type} (p : Parser ε ν α) : Parser ε ν (List α)
  /-- Applies a parser a given number of times; the run is broken off for the given cause if there
  is no room for so many values. -/
  | exactly {α : Type} [Sized α] (p : Parser ε ν α) (count : Nat) (cause : ε) :
      Parser ε ν (List α)
  /-- Applies a function to the value. -/
  | map {α β : Type} (p : Parser ε ν α) (f : α → β) : Parser ε ν β
  /-- Fails where it started if the value is rejected. -/
  | validate {α : Type} (p : Parser ε ν α) (valid : α → Bool) : Parser ε ν α
  /-- Fails behind the value if input is left unread. -/
  | toEnd {α : Type} (p : Parser ε ν α) : Parser ε ν α
  /-- Stands for a parser that is kept somewhere else and does what that parser does. -/
  | shared {α : Type} (p : Parser ε ν α) : Parser ε ν α

/-- The types of cells that are named by strings and all yield values of one type. -/
abbrev Uniform (ν : Type) : String → Type := fun _ => ν

namespace Parser

variable {κ ε : Type} {ν : κ → Type} {α β : Type}

/-! ## Values of sequences and other values -/

/-- Applies two parsers in turn and keeps the first value. -/
def left (p : Parser ε ν α) (q : Parser ε ν β) : Parser ε ν α := sequence p q fun a _ => a

/-- Applies two parsers in turn and keeps the second value. -/
def right (p : Parser ε ν α) (q : Parser ε ν β) : Parser ε ν β := sequence p q fun _ b => b

/-- Applies two parsers in turn and keeps neither value. -/
def neither (p : Parser ε ν α) (q : Parser ε ν β) : Parser ε ν Unit := sequence p q fun _ _ => ()

/-- Joins the characters of the value to a string. -/
def text [Spelled α] (p : Parser ε ν α) : Parser ε ν String := map p spelledText

/-- Splits the value into its characters. -/
def chars [Spelled α] (p : Parser ε ν α) : Parser ε ν (List Char) := map p spelling

/-! ## Kinds of characters -/

/-- The label of tests that have none of their own. -/
def defaultLabel : String := "a character matching the predicate"

/-- Reads a letter or a digit. -/
def letterOrDigit : Parser ε ν Char := satisfy isAlphanumeric "a letter or digit"

/-- Reads white space within a line. -/
def space : Parser ε ν Char := satisfy isSpace "a space"

/-- Reads a character that ends a line. -/
def newline : Parser ε ν Char := orElse (literal '\n') (literal '\r')

/-- Reads white space. -/
def whitespace : Parser ε ν Char := orElse space newline

/-! ## Functions as parsers -/

/-- Succeeds with a value and reads nothing. -/
def succeed (a : α) : Parser ε ν α := ofFn fun c => .success a c

/-- Fails where it started. -/
def fail (reason : Reason) : Parser ε ν α := ofFn fun c => .failure ⟨reason, c⟩

/-- Reads the given number of characters, or none if fewer are left. -/
def take (count : Nat) : Parser ε ν String :=
  ofFn fun c =>
    match c.readMany count with
    | .ok (cs, d) => .success (String.ofList cs) d
    | .error _ => .failure ⟨.endOfInput, c⟩

end Parser

end TagMarkup

/-!
# Positions in a text

A position is a zero-based line and a zero-based column. Only a line feed starts a new line;
every other character, the carriage return and the other line separators of Unicode included,
moves one column to the right.

`Position.after` is the reference scan: it walks over all characters from the start of the
text. `Cursor.position` computes the same position from the characters behind a cursor.
-/

namespace TagMarkup

/-- A line and a column, both counted from zero; the column counts characters. -/
structure Position where
  line : Nat
  column : Nat
deriving DecidableEq, Repr, Inhabited

namespace Position

/-- The start of a text. -/
def origin : Position := ⟨0, 0⟩

/-- The position behind one more character. -/
def advance (p : Position) (c : Char) : Position :=
  if c = '\n' then ⟨p.line + 1, 0⟩ else ⟨p.line, p.column + 1⟩

/-- The position behind a text, by a scan from left to right. -/
def after (text : List Char) : Position := text.foldl advance origin

/-- Positions are ordered by line, and by column within a line. -/
def compare (p q : Position) : Ordering :=
  (Ord.compare p.line q.line).then (Ord.compare p.column q.column)

instance : Ord Position := ⟨compare⟩

/-- The position as messages show it: `(line, column)`. -/
def render (p : Position) : String :=
  "(" ++ toString p.line ++ ", " ++ toString p.column ++ ")"

theorem advance_newline (p : Position) : p.advance '\n' = ⟨p.line + 1, 0⟩ := rfl

theorem advance_of_ne {c : Char} (h : c ≠ '\n') (p : Position) :
    p.advance c = ⟨p.line, p.column + 1⟩ := if_neg h

@[simp] theorem after_nil : after [] = origin := rfl

@[simp] theorem after_concat (text : List Char) (c : Char) :
    after (text ++ [c]) = (after text).advance c := by
  simp [after, List.foldl_append]

end Position

end TagMarkup

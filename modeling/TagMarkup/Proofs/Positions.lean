import Mathlib.Tactic.Common
import TagMarkup.Text.Cursor

/-!
# Offsets and positions

The byte offset of a cursor is the size of the text before it, and its line and column are those
of a scan over the same text from left to right.
-/

namespace TagMarkup

/-- The bytes of a list of characters are those of the string made of them. -/
theorem utf8ByteSize_ofList (cs : List Char) :
    (String.ofList cs).utf8ByteSize = utf8Length cs := by
  induction cs with
  | nil => rfl
  | cons c cs ih =>
    rw [← List.singleton_append, String.ofList_append, String.utf8ByteSize_append, ih,
      utf8Length_append, ← String.singleton_eq_ofList, String.utf8ByteSize_singleton]
    simp

/-- The bytes of a string are those of its characters. -/
@[simp] theorem utf8Length_toList (s : String) : utf8Length s.toList = s.utf8ByteSize := by
  rw [← utf8ByteSize_ofList, String.ofList_toList]

namespace Cursor

/-- The position is found from the end of the text as well as from its start. -/
theorem position_between (b u : List Char) :
    (between b u).position = Position.after b.reverse := by
  induction b with
  | nil => rfl
  | cons x b ih =>
    rw [List.reverse_cons, Position.after_concat, ← ih]
    by_cases hx : x = '\n'
    · subst hx
      rw [Position.advance_newline]
      simp [position, between]
    · rw [Position.advance_of_ne hx]
      simp [position, between, hx]

end Cursor

end TagMarkup

/-!
# Lines

A line ends behind a line feed, or where the text ends. Its terminator, a line feed with or
without a carriage return before it, is no part of it. A text that ends with a line feed has no
further line behind it, and a carriage return at the very end of a text belongs to its line.

The functions work on any alphabet in which the two terminators are given, so on characters as
well as on bytes.
-/

namespace TagMarkup

namespace Lines

variable {α : Type} [BEq α]

/-- A line without the carriage return at its end. -/
def dropReturn (cr : α) (line : List α) : List α :=
  if line.getLast? == some cr then line.dropLast else line

/-- The first line and what is behind it; a text without characters has no line. -/
def next? (lf cr : α) (text : List α) : Option (List α × List α) :=
  match text with
  | [] => none
  | _ :: _ =>
    match text.dropWhile (· != lf) with
    | [] => some (text, [])
    | _ :: rest => some (dropReturn cr (text.takeWhile (· != lf)), rest)

theorem next?_length {lf cr : α} {text line rest : List α}
    (h : next? lf cr text = some (line, rest)) : rest.length < text.length := by
  cases text with
  | nil => simp [next?] at h
  | cons x xs =>
    have hle : ((x :: xs).dropWhile (· != lf)).length ≤ (x :: xs).length :=
      (List.dropWhile_suffix _).length_le
    simp only [next?] at h
    split at h
    · simp only [Option.some.injEq, Prod.mk.injEq] at h
      simp [← h.2]
    · rename_i heq
      rw [heq] at hle
      simp only [Option.some.injEq, Prod.mk.injEq] at h
      rw [← h.2]
      simp only [List.length_cons] at hle ⊢
      omega

/-- The lines of a text. -/
def all (lf cr : α) (text : List α) : List (List α) :=
  match _h : next? lf cr text with
  | none => []
  | some (line, rest) => line :: all lf cr rest
termination_by text.length
decreasing_by exact next?_length (by assumption)

end Lines

end TagMarkup

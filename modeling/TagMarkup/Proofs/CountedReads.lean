import Mathlib.Tactic.Common
import TagMarkup.Parsing.Fault
import TagMarkup.Proofs.Places
import TagMarkup.Proofs.Repetition

/-!
# Reading a number of characters

A number of characters can be read at once, one after the other, or by a counted repetition.

**Theorem (`Cursor.readMany_agrees`).** If so many characters are unread, all three read the same
characters and end at the same cursor. If there are fewer, all three fail, and not all at one place:
reading at once and the repetition fail where they started, and reading one after the other fails at
the end of the text. Where there is no room for the characters, the repetition is broken off, on
every text, so it does not agree with the other two (`Cursor.readMany_refused`). Reading at once may
be cut in two anywhere.

What each of the three does at a place is told by induction on the number, for all places of the
text at once: behind the first character the same question is asked of the next place. Reading at
once goes over the characters only to add up their bytes (`utf8Width?_eq`); the slice of so many
bytes is cut where a character ends, so it holds these characters (`Cut.behind_eq`), and the cursor
advances once, by the sum, where the other two advance by one character at a time.
-/

namespace TagMarkup

open Outcome

namespace Cursor

/-! ## One character after the other -/

/-- Reads characters one after the other. -/
def readEach : Nat → Cursor → Except EndOfInput (List Char × Cursor)
  | 0, c => .ok ([], c)
  | n + 1, c => do
    let (x, d) ← c.readOne
    let (xs, e) ← readEach n d
    return (x :: xs, e)

theorem readEach_nil (n : Nat) (b : List Char) :
    readEach (n + 1) (between b []) = .error ⟨utf8Length b⟩ := rfl

theorem readEach_cons (n : Nat) (b : List Char) (x : Char) (u : List Char) :
    readEach (n + 1) (between b (x :: u)) =
      (readEach n (between (x :: b) u)).map fun read => (x :: read.1, read.2) := by
  have hread : (between b (x :: u)).readOne = .ok (x, between (x :: b) u) := by simp [readOne]
  rw [readEach, hread]
  show (readEach n (between (x :: b) u)).bind _ = _
  cases readEach n (between (x :: b) u) <;> rfl

/-- The first character that is missing is missed at the end of the text. -/
theorem readEach_between (n : Nat) (b u : List Char) :
    readEach n (between b u) =
      if n ≤ u.length then .ok (u.take n, between ((u.take n).reverse ++ b) (u.drop n))
      else .error ⟨utf8Length b + utf8Length u⟩ := by
  induction n generalizing b u with
  | zero => simp [readEach]
  | succ n ih =>
    cases u with
    | nil => simp [readEach_nil]
    | cons x u =>
      rw [readEach_cons, ih]
      by_cases h : n ≤ u.length
      · simp [h, Except.map]
      · simp [h, Except.map, Nat.add_assoc, Nat.add_left_comm]

end Cursor

/-! ## By repetition -/

section Repetition

variable {ε κ : Type} {ν : κ → Type}

theorem Outcome.collectExactly_any_between (n : Nat) (b u : List Char) :
    collectExactly (ofChar fun _ => none : Cursor → Outcome ε Char) [] n (.between b u) =
      if n ≤ u.length then success (u.take n) (.between ((u.take n).reverse ++ b) (u.drop n))
      else failure ⟨.endOfInput, .between (u.reverse ++ b) []⟩ := by
  induction n generalizing b u with
  | zero => simp [collectExactly]
  | succ n ih =>
    rw [collectExactly_succ]
    cases u with
    | nil => simp [ofChar]
    | cons x u =>
      have hread : (ofChar (fun _ => none) (.between b (x :: u)) : Outcome ε Char) =
          success x (.between (x :: b) u) := by simp [ofChar]
      rw [hread, andThen_success, ih]
      by_cases h : n ≤ u.length
      · simp [h]
      · simp [h, Outcome.map]

/-- The repetition is broken off for want of room, or reads all characters, or fails where it
started. -/
theorem Parser.run_exactly_any (enter : (k : κ) → Cursor → Outcome ε (ν k)) (n : Nat)
    (cause : ε) (b u : List Char) :
    (text (exactly any n cause)).run enter (.between b u) =
      if Room.holds Char n then
        if n ≤ u.length then
          success (.ofList (u.take n)) (.between ((u.take n).reverse ++ b) (u.drop n))
        else failure ⟨.endOfInput, .between b u⟩
      else broken cause := by
  have hrun : (text (exactly any n cause)).run enter (.between b u) =
      (if Room.holds Char n then
        (collectExactly (ofChar fun _ => none) [] n (.between b u)).relocate (.between b u)
      else broken cause).map spelledText := rfl
  rw [hrun, collectExactly_any_between]
  split_ifs
  · show success (spelledText (u.take n)) _ = _
    rw [spelledText_chars]
  · rfl
  · rfl

end Repetition

namespace Cursor

/-! ## All three -/

/-- Reading so many characters at once is reading some of them and then the others. -/
theorem exists_readMany_of_add {c d : Cursor} {m n : Nat} {cs : List Char}
    (h : c.readMany (m + n) = .ok (cs, d)) :
    ∃ xs e ys, c.readMany m = .ok (xs, e) ∧ e.readMany n = .ok (ys, d) ∧ cs = xs ++ ys := by
  rw [c.eq_between, readMany_between] at h
  split_ifs at h with hle
  simp only [Except.ok.injEq, Prod.mk.injEq] at h
  obtain ⟨rfl, rfl⟩ := h
  refine ⟨c.unread.take m, between ((c.unread.take m).reverse ++ c.before) (c.unread.drop m),
    (c.unread.drop m).take n, ?_, ?_, List.take_add⟩
  · rw [c.eq_between, readMany_between]
    exact if_pos (Nat.le_trans (Nat.le_add_right m n) hle)
  · rw [readMany_between, if_pos (by rw [List.length_drop]; omega), List.drop_drop, List.take_add,
      List.reverse_append, List.append_assoc]

/-- **Three ways to read a number of characters.** If so many are unread, they all read the next
characters of the text. If there are fewer, reading at once fails where it started, reading one
after the other fails at the end of the text, and the repetition reports that the input ended, where
it started. If there is no room for the characters, the repetition is broken off instead. What is
read at once can be read in two goes. -/
theorem readMany_agrees {ε κ : Type} {ν : κ → Type} (enter : (k : κ) → Cursor → Outcome ε (ν k))
    (cause : ε) (c : Cursor) (n : Nat) :
    (n ≤ c.remaining → ∃ cs d, c.Leads cs d ∧ cs.length = n ∧
      c.readMany n = .ok (cs, d) ∧ c.readEach n = .ok (cs, d) ∧
        (Room.holds Char n = true →
          (Parser.text (.exactly .any n cause)).run enter c = success (.ofList cs) d)) ∧
      (c.remaining < n →
        c.readMany n = .error ⟨c.offset⟩ ∧ c.readEach n = .error ⟨c.sourceLength⟩ ∧
          (Room.holds Char n = true →
            (Parser.text (.exactly .any n cause)).run enter c = failure ⟨.endOfInput, c⟩)) ∧
      (Room.holds Char n = false →
        (Parser.text (.exactly .any n cause)).run enter c = broken cause) ∧
      ∀ a b cs d, c.readMany (a + b) = .ok (cs, d) →
        ∃ xs e ys, c.readMany a = .ok (xs, e) ∧ e.readMany b = .ok (ys, d) ∧ cs = xs ++ ys := by
  obtain ⟨u, v, rfl⟩ : ∃ u v, c = between u v := ⟨_, _, c.eq_between⟩
  refine ⟨fun hn => ?enough, fun hn => ?short, fun hroom => ?refused,
    fun a b cs d h => exists_readMany_of_add h⟩
  case enough =>
    rw [remaining_between] at hn
    refine ⟨v.take n, between ((v.take n).reverse ++ u) (v.drop n),
      ⟨(List.take_append_drop n v).symm, rfl⟩, List.length_take_of_le hn, ?_, ?_, fun hroom => ?_⟩
    · rw [readMany_between, if_pos hn]
    · rw [readEach_between, if_pos hn]
    · rw [Parser.run_exactly_any, if_pos hroom, if_pos hn]
  case short =>
    rw [remaining_between, ← Nat.not_le] at hn
    refine ⟨?_, ?_, fun hroom => ?_⟩
    · rw [readMany_between, if_neg hn, offset_between]
    · rw [readEach_between, if_neg hn, sourceLength, offset_between, unread_between]
    · rw [Parser.run_exactly_any, if_pos hroom, if_neg hn]
  case refused =>
    rw [Parser.run_exactly_any, if_neg (by simp [hroom])]

/-- Far beyond the end of a text there is no room for the characters, and the repetition does not
fail as the other two do. -/
theorem readMany_refused :
    (start "ab").readMany 18446744073709551615 = .error ⟨0⟩ ∧
      (start "ab").readEach 18446744073709551615 = .error ⟨2⟩ ∧
      (Parser.text (.exactly .any 18446744073709551615 .noRoom) :
        Parser Fault (Uniform Unit) String).run (fun _ c => success () c) (start "ab") =
          broken .noRoom ∧
      (Parser.text (.exactly .any 18446744073709551615 .noRoom) :
        Parser Fault (Uniform Unit) String).run (fun _ c => success () c) (start "ab") ≠
          failure ⟨.endOfInput, start "ab"⟩ := by
  decide +kernel

end Cursor

end TagMarkup

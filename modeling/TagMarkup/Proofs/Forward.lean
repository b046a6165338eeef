import TagMarkup.Proofs.Cells
import TagMarkup.Proofs.Places
import TagMarkup.Proofs.Repetition

/-!
# Parsers only move forward

**Theorem (`Registry.run_forward`).** Whatever cursor a parser comes back with, of a success or
of a failure, is a place in the text that it was applied to, and lies no earlier than where it
was applied. The offset of such a cursor falls between two characters, and what was read and
what is unread make up the text.

Success and failure go together in the induction. A sequence hands on the failure of a part that
was applied further on, and an alternative starts again at a place it has kept, so neither half
would go through by itself. Every combinator either reports a cursor that it got from a part, or
one that it was given.
-/

namespace TagMarkup

open Cursor

variable {ε α β : Type}

namespace Outcome

/-- The cursor of a success or of a failure. -/
def cursor? : Outcome ε α → Option Cursor
  | success _ d => some d
  | failure f => some f.cursor
  | broken _ => none

/-- The cursor of the outcome, if there is one, lies further on than the given one. -/
def Ahead (c : Cursor) (o : Outcome ε α) : Prop := ∀ d, o.cursor? = some d → c.Onward d

variable {c d : Cursor} {o : Outcome ε α}

@[simp] theorem ahead_success {a : α} :
    (success a d : Outcome ε α).Ahead c ↔ c.Onward d := by simp [Ahead, cursor?]

@[simp] theorem ahead_failure {f : Failure} :
    (failure f : Outcome ε α).Ahead c ↔ c.Onward f.cursor := by simp [Ahead, cursor?]

@[simp] theorem ahead_broken {cause : ε} : (broken cause : Outcome ε α).Ahead c := by
  simp [Ahead, cursor?]

@[simp] theorem ahead_map {f : α → β} : (o.map f).Ahead c ↔ o.Ahead c := by
  cases o <;> simp [Outcome.map]

namespace Ahead

theorem of_onward (h : c.Onward d) (ho : o.Ahead d) : o.Ahead c := fun e he => h.trans (ho e he)

theorem andThen {f : α → Cursor → Outcome ε β} (ho : o.Ahead c)
    (hf : ∀ a d, c.Onward d → (f a d).Ahead c) : (o.andThen f).Ahead c := by
  cases o with
  | success a d => exact hf a d (ahead_success.1 ho)
  | failure e => simpa [Outcome.andThen] using ho
  | broken cause => exact ahead_broken

theorem relocate (ho : o.Ahead c) : (o.relocate c).Ahead c := by
  cases o with
  | failure e => exact ahead_failure.2 (.refl c)
  | success a d => exact ho
  | broken cause => exact ho

end Ahead

end Outcome

open Outcome

/-- The cursors an attempt comes back with are in the same text and no further back. -/
def MovesForward (attempt : Cursor → Outcome ε α) : Prop := ∀ c, (attempt c).Ahead c

theorem MovesForward.onward {attempt : Cursor → Outcome ε α} (h : MovesForward attempt)
    {c d : Cursor} {a : α} (ho : attempt c = success a d) : c.Onward d :=
  ahead_success.1 (ho ▸ h c)

/-! ## Primitives -/

theorem movesForward_ofChar (refuse : Char → Option Reason) :
    MovesForward (ofChar refuse : Cursor → Outcome ε Char) := by
  intro c
  unfold ofChar
  cases hn : c.next? with
  | none => exact ahead_failure.2 (.refl c)
  | some read =>
    obtain ⟨x, d⟩ := read
    have hd := (leads_of_next? hn).onward
    cases hx : refuse x with
    | none => simpa [hx] using hd
    | some reason => simpa [hx] using hd

theorem movesForward_take {κ : Type} {ν : κ → Type}
    (enter : (k : κ) → Cursor → Outcome ε (ν k)) (count : Nat) :
    MovesForward ((Parser.take count).run enter) := by
  intro c
  simp only [Parser.take, Parser.run]
  cases hr : c.readMany count with
  | error e => exact ahead_failure.2 (.refl c)
  | ok read => exact ahead_success.2 (leads_of_readMany hr).onward

/-! ## Repetitions -/

namespace MovesForward

variable {attempt : Cursor → Outcome ε α}

theorem collect (h : MovesForward attempt) : MovesForward (collect attempt []) := by
  refine collect_induction ?failed ?brokenOff ?still ?goesOn
  case failed => exact fun c f _ => ahead_success.2 (.refl c)
  case brokenOff => exact fun c cause _ => ahead_broken
  case still =>
    intro c a d ho _
    exact ahead_success.2 (h.onward ho)
  case goesOn =>
    intro c a d ho _ ih
    exact ahead_map.2 (ih.of_onward (h.onward ho))

theorem collectOne (h : MovesForward attempt) : MovesForward (collectOne attempt) := by
  intro c
  rw [collectOne_eq]
  split
  · exact ahead_failure.2 (.refl c)
  · exact h.collect c

theorem collectExactly (h : MovesForward attempt) (n : Nat) :
    MovesForward (collectExactly attempt [] n) := by
  intro c
  induction n generalizing c with
  | zero => exact ahead_success.2 (.refl c)
  | succ n ih =>
    rw [collectExactly_succ]
    exact (h c).andThen fun a d hd => ahead_map.2 ((ih d).of_onward hd)

end MovesForward

/-! ## All parsers -/

/-- A parser moves forward if the functions and the cells inside of it do. -/
theorem Parser.movesForward_run {κ : Type} {ν : κ → Type}
    {enter : (k : κ) → Cursor → Outcome ε (ν k)} (henter : ∀ k, MovesForward (enter k))
    {p : Parser ε ν α} (hp : p.Leaves fun _ => MovesForward) : MovesForward (p.run enter) := by
  induction p with
  | any => exact movesForward_ofChar _
  | literal => exact movesForward_ofChar _
  | satisfy => exact movesForward_ofChar _
  | noneOf => exact movesForward_ofChar _
  | ofFn f => exact hp
  | cell k => exact henter k
  | sequence p q f ihp ihq =>
    intro c
    exact (ihp hp.1 c).andThen fun a d hd => ahead_map.2 ((ihq hp.2 d).of_onward hd)
  | sequenceIf p q f fit ihp ihq =>
    intro c
    refine (ihp hp.1 c).andThen fun a d hd => ?_
    refine ((ihq hp.2 d).of_onward hd).andThen fun b e he => ?_
    -- values that do not fit are reported where the first part was applied
    split
    · exact ahead_success.2 he
    · exact ahead_failure.2 (.refl c)
  | orElse p q ihp ihq =>
    intro c
    simp only [Parser.run]
    split
    · exact ihq hp.2 c
    · exact ihp hp.1 c
  | many p ih => exact (ih hp).collect
  | oneOrMore p ih => exact (ih hp).collectOne
  | exactly p count cause ih =>
    intro c
    simp only [Parser.run]
    split
    · exact ((ih hp).collectExactly count c).relocate
    · exact ahead_broken
  | map p f ih => exact fun c => ahead_map.2 (ih hp c)
  | validate p valid ih =>
    intro c
    refine (ih hp c).andThen fun a d hd => ?_
    split
    · exact ahead_success.2 hd
    · exact ahead_failure.2 (.refl c)
  | toEnd p ih =>
    intro c
    refine (ih hp c).andThen fun a d hd => ?_
    split
    · exact ahead_success.2 hd
    · exact ahead_failure.2 hd
  | shared p ih => exact ih hp

/-- The cells of a registry move forward if the functions inside the held parsers do. -/
theorem Registry.movesForward_enter {ν : Type} {r : Registry ν}
    (hr : ∀ slot ∈ r.slots, slot.2.parser.Leaves fun _ => MovesForward) (entries : Nat)
    (scope : List (String × CellId)) (handle : String) :
    MovesForward (r.enter entries scope handle) := by
  refine r.enter_induction (P := MovesForward) ?brokenOff ?runs entries scope handle
  case brokenOff => exact fun fault c => ahead_broken
  case runs => exact fun slot hslot enter h => Parser.movesForward_run h (hr slot hslot)

/-- **Parsers only move forward.** Let the functions inside of a parser and of the parsers that a
registry holds move forward. The cursor that a parser comes back with, of a success or of a
failure, points into the same text, at the start of a character or at the end, and no further
back than where the parser was applied; the text is what lies before that cursor and then what is
unread. -/
theorem Registry.run_forward {ν : Type} (r : Registry ν)
    (hr : ∀ slot ∈ r.slots, slot.2.parser.Leaves fun _ => MovesForward)
    (p : Parser Fault (Uniform ν) α) (hp : p.Leaves fun _ => MovesForward)
    (entries : Nat) (scope : List (String × CellId)) (c d : Cursor)
    (hd : (p.run (r.enter entries scope) c).cursor? = some d) :
    d.sourceText = c.sourceText ∧ c.offset ≤ d.offset ∧
      d.offset ≤ c.sourceText.utf8ByteSize ∧
      String.Pos.Raw.IsValid c.sourceText ⟨d.offset⟩ ∧
      d.consumed.utf8ByteSize = d.offset ∧ d.consumed ++ d.rest = c.sourceText := by
  have h : c.Onward d := Parser.movesForward_run (r.movesForward_enter hr entries scope) hp c d hd
  have htext := h.sourceText_eq
  refine ⟨htext, h.2, ?_, ?_, d.utf8ByteSize_consumed, ?_⟩
  · rw [sourceText, utf8ByteSize_ofList, ← sourceLength_eq]
    exact h.offset_le_sourceLength
  · rw [← htext]
    exact d.isValid_offset
  · rw [← htext]
    exact d.consumed_append_rest

/-- A bracket that is never closed, with a character of two bytes inside: the failure is reported
at the end of the text. -/
theorem Registry.run_forward_unclosed :
    (Parser.nested.run (nested.enter 3 [("nested", 0)]) (between ['x'] "((é)".toList)).cursor? =
        some (between "x((é)".toList.reverse []) ∧
      (between "x((é)".toList.reverse []).sourceText = "x((é)" ∧ 1 ≤ 6 ∧
      6 ≤ "x((é)".utf8ByteSize ∧ String.Pos.Raw.IsValid "x((é)" ⟨6⟩ ∧
      (between "x((é)".toList.reverse []).consumed.utf8ByteSize = 6 ∧
      (between "x((é)".toList.reverse []).consumed ++ "" = "x((é)" := by
  have hp : Parser.nested.Leaves fun _ => MovesForward :=
    ⟨⟨trivial, trivial, movesForward_take (nested.enter 0 []) 1⟩, trivial⟩
  have hd : (Parser.nested.run (nested.enter 3 [("nested", 0)])
      (between ['x'] "((é)".toList)).cursor? = some (between "x((é)".toList.reverse []) := by
    decide +kernel
  exact ⟨hd, nested.run_forward (leaves_nested hp) .nested hp 3 [("nested", 0)] _ _ hd⟩

end TagMarkup

import TagMarkup.Parsing.Fault
import TagMarkup.Proofs.Repetition

/-!
# Control and values

**Theorem (`Parser.control_run_of_alike`).** Where a parser goes does not depend on its values, as
long as there is room for them. Take a parser without tests on values, combine the values of its
sequences in other ways, put functions on values in or leave them out, and share its parts or not.
The new parser succeeds where the old one does, with its cursor behind the same text, and fails with
the same failure.

`p.Alike q` says that `q` arises from `p` in this way; `left`, `right` and `neither` are
sequences, and `text` and `chars` are functions on values. The proof is an induction over the two
parsers at once, with an induction along the attempts of each repetition. A repetition decides by
its cursors whether it goes on, and those are the same on both sides.

Values of another type may take more room or less. So a counted repetition may find no room in one
of the two parsers, which breaks that run off, while the other one goes on (`Parser.alike_refused`).
Where both have room for what they count, this does not happen.
-/

namespace TagMarkup

open Outcome

variable {ε α β α' β' : Type}

/-! ## Outcomes without values -/

namespace Outcome

/-- The outcome without its value. -/
def control (o : Outcome ε α) : Outcome ε Unit := o.map fun _ => ()

/-- Whether the run was broken off. -/
def isBroken : Outcome ε α → Bool
  | broken _ => true
  | _ => false

/-- The outcomes differ in their values at most; without `room` one of them may be broken off by
itself. -/
inductive Agrees (room : Prop) : Outcome ε α → Outcome ε β → Prop
  | success (a : α) (b : β) (c : Cursor) : Agrees room (success a c) (success b c)
  | failure (f : Failure) : Agrees room (failure f) (failure f)
  | broken (cause : ε) : Agrees room (broken cause) (broken cause)
  | left (h : ¬ room) (cause : ε) (o : Outcome ε β) : Agrees room (broken cause) o
  | right (h : ¬ room) (o : Outcome ε α) (cause : ε) : Agrees room o (broken cause)

namespace Agrees

variable {room : Prop} {o : Outcome ε α} {o' : Outcome ε β} {c : Cursor}

theorem of_control_eq (h : o.control = o'.control) : Agrees room o o' := by
  cases o <;> cases o' <;> cases h
  · exact .success _ _ _
  · exact .failure _
  · exact .broken _

theorem control_eq (h : Agrees room o o')
    (hroom : room ∨ o.isBroken = false ∧ o'.isBroken = false) : o.control = o'.control := by
  cases h with
  | success a b c => rfl
  | failure f => rfl
  | broken cause => rfl
  | left h cause o => exact absurd hroom (by simp [h, isBroken])
  | right h o cause => exact absurd hroom (by simp [h, isBroken])

theorem mapLeft (h : Agrees room o o') (f : α → α') : Agrees room (o.map f) o' := by
  cases h with
  | success a b c => exact .success _ b c
  | failure f => exact .failure f
  | broken cause => exact .broken cause
  | left h cause o => exact .left h cause _
  | right h o cause => exact .right h _ cause

theorem mapRight (h : Agrees room o o') (f : β → β') : Agrees room o (o'.map f) := by
  cases h with
  | success a b c => exact .success a _ c
  | failure f => exact .failure f
  | broken cause => exact .broken cause
  | left h cause o => exact .left h cause _
  | right h o cause => exact .right h _ cause

theorem map (h : Agrees room o o') (f : α → α') (g : β → β') :
    Agrees room (o.map f) (o'.map g) := (h.mapLeft f).mapRight g

theorem relocate (h : Agrees room o o') (c : Cursor) :
    Agrees room (o.relocate c) (o'.relocate c) := by
  cases h with
  | success a b d => exact .success a b d
  | failure f => exact .failure _
  | broken cause => exact .broken cause
  | left h cause o => exact .left h cause _
  | right h o cause => exact .right h _ cause

/-- Behind a success both go on from the same cursor. -/
theorem andThen (h : Agrees room o o') {f : α → Cursor → Outcome ε α'}
    {g : β → Cursor → Outcome ε β'} (hfg : ∀ a b d, Agrees room (f a d) (g b d)) :
    Agrees room (o.andThen f) (o'.andThen g) := by
  cases h with
  | success a b d => exact hfg a b d
  | failure f => exact .failure f
  | broken cause => exact .broken cause
  | left h cause o => exact .left h cause _
  | right h o cause => exact .right h _ cause

end Agrees

/-! ## Repetitions -/

section Repetition

variable {room : Prop} {f : Cursor → Outcome ε α} {g : Cursor → Outcome ε β}

theorem agrees_collect (h : ∀ c, Agrees room (f c) (g c)) (c : Cursor) :
    Agrees room (collect f [] c) (collect g [] c) := by
  induction hn : c.remaining using Nat.strongRecOn generalizing c with
  | _ n ih =>
    have hc := h c
    rw [collect_step f, collect_step g]
    generalize f c = o at hc
    generalize g c = o' at hc
    cases hc with
    | success a b d =>
      -- whether it goes on depends on the two cursors, which are the same for both
      dsimp only
      split_ifs with hlt
      · exact (ih _ (hn ▸ hlt) d rfl).map _ _
      · exact .success _ _ d
    | failure e => exact .success _ _ c
    | broken cause => exact .broken cause
    | left h cause o => exact .left h cause _
    | right h o cause => exact .right h _ cause

theorem agrees_collectOne (h : ∀ c, Agrees room (f c) (g c)) (c : Cursor) :
    Agrees room (collectOne f c) (collectOne g c) := by
  have hc := h c
  rw [collectOne, collectOne]
  generalize f c = o at hc
  generalize g c = o' at hc
  cases hc with
  | success a b d =>
    dsimp only
    split_ifs with hlt
    · rw [collect_eq_map, collect_eq_map g]
      exact (agrees_collect h d).map _ _
    · exact .success _ _ d
  | failure e => exact .failure _
  | broken cause => exact .broken cause
  | left h cause o => exact .left h cause _
  | right h o cause => exact .right h _ cause

theorem agrees_collectExactly (h : ∀ c, Agrees room (f c) (g c)) (n : Nat) (c : Cursor) :
    Agrees room (collectExactly f [] n c) (collectExactly g [] n c) := by
  induction n generalizing c with
  | zero => exact .success _ _ c
  | succ n ih =>
    rw [collectExactly_succ, collectExactly_succ]
    exact (h c).andThen fun a b d => (ih d).map _ _

end Repetition

end Outcome

/-! ## Parsers -/

namespace Parser

variable {κ : Type} {ν : κ → Type}

/-- The parsers differ at most in how values are combined and transformed and in what is shared.
Neither of them tests values. A sequence corresponds to any other sequence, and a function on
values or a shared part to none. -/
inductive Alike : {α β : Type} → Parser ε ν α → Parser ε ν β → Prop
  | any : Alike any any
  | literal (expected : Char) : Alike (literal expected) (literal expected)
  | satisfy (test : Char → Bool) (label : String) : Alike (satisfy test label) (satisfy test label)
  | noneOf (excluded : List Char) : Alike (noneOf excluded) (noneOf excluded)
  | ofFn {α β : Type} {f : Cursor → Outcome ε α} {g : Cursor → Outcome ε β} :
      (∀ c, (f c).control = (g c).control) → Alike (ofFn f) (ofFn g)
  | cell (k : κ) : Alike (cell k) (cell k)
  | sequence {α β γ α' β' γ' : Type} {p : Parser ε ν α} {q : Parser ε ν β} {p' : Parser ε ν α'}
      {q' : Parser ε ν β'} {f : α → β → γ} {g : α' → β' → γ'} : Alike p p' → Alike q q' →
      Alike (sequence p q f) (sequence p' q' g)
  | orElse {α α' : Type} {p q : Parser ε ν α} {p' q' : Parser ε ν α'} : Alike p p' → Alike q q' →
      Alike (orElse p q) (orElse p' q')
  | many {α α' : Type} {p : Parser ε ν α} {p' : Parser ε ν α'} : Alike p p' →
      Alike (many p) (many p')
  | oneOrMore {α α' : Type} {p : Parser ε ν α} {p' : Parser ε ν α'} : Alike p p' →
      Alike (oneOrMore p) (oneOrMore p')
  | exactly {α α' : Type} [Sized α] [Sized α'] {p : Parser ε ν α} {p' : Parser ε ν α'}
      {count : Nat} {cause cause' : ε} : Alike p p' →
      Alike (exactly p count cause) (exactly p' count cause')
  | toEnd {α α' : Type} {p : Parser ε ν α} {p' : Parser ε ν α'} : Alike p p' →
      Alike (toEnd p) (toEnd p')
  | mapLeft {α β α' : Type} {p : Parser ε ν α} {p' : Parser ε ν α'} {f : α → β} : Alike p p' →
      Alike (map p f) p'
  | mapRight {α α' β' : Type} {p : Parser ε ν α} {p' : Parser ε ν α'} {f : α' → β'} :
      Alike p p' → Alike p (map p' f)
  | sharedLeft {α α' : Type} {p : Parser ε ν α} {p' : Parser ε ν α'} : Alike p p' →
      Alike (shared p) p'
  | sharedRight {α α' : Type} {p : Parser ε ν α} {p' : Parser ε ν α'} : Alike p p' →
      Alike p (shared p')

/-- The parser tests no values. -/
def Untested : {α : Type} → Parser ε ν α → Prop
  | _, any | _, literal _ | _, satisfy .. | _, noneOf _ | _, ofFn _ | _, cell _ => True
  | _, sequenceIf .. | _, validate .. => False
  | _, sequence p q _ | _, orElse p q => p.Untested ∧ q.Untested
  | _, many p | _, oneOrMore p | _, exactly p _ _ | _, map p _ | _, toEnd p | _, shared p =>
    p.Untested

/-- Every counted repetition inside of the parser has room for its values. -/
def HasRoom : {α : Type} → Parser ε ν α → Prop
  | _, any | _, literal _ | _, satisfy .. | _, noneOf _ | _, ofFn _ | _, cell _ => True
  | _, @exactly _ _ _ α _ p count _ => p.HasRoom ∧ Room.holds α count = true
  | _, sequence p q _ | _, sequenceIf p q _ _ | _, orElse p q => p.HasRoom ∧ q.HasRoom
  | _, many p | _, oneOrMore p | _, map p _ | _, validate p _ | _, toEnd p | _, shared p =>
    p.HasRoom

/-- A parser that tests no values may stay as it is. -/
theorem Alike.refl {p : Parser ε ν α} (hp : p.Untested) : p.Alike p := by
  induction p with
  | any => exact .any
  | literal expected => exact .literal expected
  | satisfy test label => exact .satisfy test label
  | noneOf excluded => exact .noneOf excluded
  | ofFn f => exact .ofFn fun c => rfl
  | cell k => exact .cell k
  | sequence p q f ihp ihq => exact .sequence (ihp hp.1) (ihq hp.2)
  | sequenceIf p q f fit => exact hp.elim
  | orElse p q ihp ihq => exact .orElse (ihp hp.1) (ihq hp.2)
  | many p ih => exact .many (ih hp)
  | oneOrMore p ih => exact .oneOrMore (ih hp)
  | exactly p count cause ih => exact .exactly (ih hp)
  | map p f ih => exact .mapLeft (.mapRight (ih hp))
  | validate p valid => exact hp.elim
  | toEnd p ih => exact .toEnd (ih hp)
  | shared p ih => exact .sharedLeft (.sharedRight (ih hp))

/-- Parsers that are alike agree at every cursor. -/
theorem Alike.agrees {p : Parser ε ν α} {q : Parser ε ν β} (h : p.Alike q) {roomy : Prop}
    (hp : roomy → p.HasRoom) (hq : roomy → q.HasRoom) (enter : (k : κ) → Cursor → Outcome ε (ν k))
    (c : Cursor) : Agrees roomy (p.run enter c) (q.run enter c) := by
  induction h generalizing c with
  | any | literal | satisfy | noneOf | cell => exact .of_control_eq rfl
  | ofFn h => exact .of_control_eq (h c)
  | sequence _ _ ihp ihq =>
    have h := ihp (fun h => (hp h).1) (fun h => (hq h).1) c
    exact h.andThen fun a b d => (ihq (fun h => (hp h).2) (fun h => (hq h).2) d).map _ _
  | @orElse _ _ p q p' q' _ _ ihp ihq =>
    have h := ihp (fun h => (hp h).1) (fun h => (hq h).1) c
    simp only [Parser.run]
    generalize p.run enter c = o at h
    generalize p'.run enter c = o' at h
    cases h with
    | success a b d => exact .success a b d
    | failure f => exact ihq (fun h => (hp h).2) (fun h => (hq h).2) c
    | broken cause => exact .broken cause
    | left h cause o => exact .left h cause _
    | right h o cause => exact .right h _ cause
  | many _ ih => exact agrees_collect (ih hp hq) c
  | oneOrMore _ ih => exact agrees_collectOne (ih hp hq) c
  | @exactly α α' _ _ p p' count _ _ _ ih =>
    simp only [Parser.run]
    by_cases hroom : Room.holds α count = true
    · by_cases hroom' : Room.holds α' count = true
      · rw [if_pos hroom, if_pos hroom']
        exact (agrees_collectExactly (ih (fun h => (hp h).1) fun h => (hq h).1) count c).relocate c
      · rw [if_neg hroom']
        exact .right (fun h => hroom' (hq h).2) _ _
    · rw [if_neg hroom]
      exact .left (fun h => hroom (hp h).2) _ _
  | toEnd _ ih =>
    refine (ih hp hq c).andThen fun a b d => ?_
    split
    · exact .success a b d
    · exact .failure _
  | mapLeft _ ih => exact (ih hp hq c).mapLeft _
  | mapRight _ ih => exact (ih hp hq c).mapRight _
  | sharedLeft _ ih => exact ih hp hq c
  | sharedRight _ ih => exact ih hp hq c

/-- **Control does not depend on values.** Let two parsers be alike. If their counted repetitions
have room for their values, then wherever they are applied both succeed with their cursors at the
same place, or both fail for the same reason at the same place, or both are broken off for the
same cause. Whatever room there is, this holds wherever neither of them is broken off. -/
theorem control_run_of_alike {p : Parser ε ν α} {q : Parser ε ν β} (h : p.Alike q)
    (enter : (k : κ) → Cursor → Outcome ε (ν k)) (c : Cursor) :
    (p.HasRoom → q.HasRoom → (p.run enter c).control = (q.run enter c).control) ∧
      ((p.run enter c).isBroken = false → (q.run enter c).isBroken = false →
        (p.run enter c).control = (q.run enter c).control) := by
  refine ⟨fun hp hq => ?_, fun hp hq => ?_⟩
  · exact (h.agrees (fun _ => hp) (fun _ => hq) enter c).control_eq (.inl trivial)
  · have hagrees : Agrees (p.HasRoom ∧ q.HasRoom) (p.run enter c) (q.run enter c) :=
      h.agrees And.left And.right enter c
    exact hagrees.control_eq (.inr ⟨hp, hq⟩)

/-- Letters `a` and digits, as many as there are, and two characters behind them. -/
def marksAndTwo : Parser Fault (Uniform Unit) (List Char × List Char) :=
  sequence (many (orElse (literal 'a') (satisfy Char.isDigit "a digit")))
    (exactly any 2 .noRoom) Prod.mk

/-- The two characters as texts. What stands before them is read as numbers and left out. -/
def twoBehindMarks : Parser Fault (Uniform Unit) (List String) :=
  shared (right
    (many (orElse (map (literal 'a') fun _ => 0)
      (shared (map (satisfy Char.isDigit "a digit") Char.toNat))))
    (exactly (text any) 2 .noRoom))

theorem alike_marksAndTwo : marksAndTwo.Alike twoBehindMarks :=
  .sharedRight (.sequence
    (.many (.orElse (.mapRight (.refl trivial)) (.sharedRight (.mapRight (.refl trivial)))))
    (.exactly (.mapRight (.refl trivial))))

/-- Only one character is left behind the marks, and the first parser fails there. So the second
one fails there, too. -/
theorem control_run_of_alike_marks :
    (marksAndTwo.run (fun _ c => .success () c) (.between ['x'] "a1é".toList)).control =
        .failure ⟨.endOfInput, .between "xa1".toList.reverse ['é']⟩ ∧
      (twoBehindMarks.run (fun _ c => .success () c) (.between ['x'] "a1é".toList)).control =
        .failure ⟨.endOfInput, .between "xa1".toList.reverse ['é']⟩ := by
  have h : (marksAndTwo.run (fun _ c => .success () c) (.between ['x'] "a1é".toList)).control =
      .failure ⟨.endOfInput, .between "xa1".toList.reverse ['é']⟩ := by decide +kernel
  refine ⟨h, ?_⟩
  rw [← h]
  refine ((control_run_of_alike alike_marksAndTwo (fun _ c => .success () c) _).1 ?_ ?_).symm
  · exact ⟨⟨trivial, trivial⟩, trivial, by decide⟩
  · exact ⟨⟨trivial, trivial⟩, trivial, by decide⟩

/-- Far more characters than there is room for. -/
def tooMany : Parser Fault (Uniform Unit) (List Char) := exactly any 2305843009213693952 .noRoom

/-- As many characters, of which no values are kept. -/
def tooManyUnits : Parser Fault (Uniform Unit) (List Unit) :=
  exactly (map any fun _ => ()) 2305843009213693952 .noRoom

/-- Where there is no room for the values of one of two parsers, they part: the characters take too
much room, and that run is broken off before the first attempt. The other values take no room, and
that run fails when the input ends. -/
theorem alike_refused :
    tooMany.Alike tooManyUnits ∧
      (tooMany.run (fun _ c => .success () c) (.start "ab")).control = .broken .noRoom ∧
      (tooManyUnits.run (fun _ c => .success () c) (.start "ab")).control =
        .failure ⟨.endOfInput, .start "ab"⟩ ∧
      (tooMany.run (fun _ c => .success () c) (.start "ab")).control ≠
        (tooManyUnits.run (fun _ c => .success () c) (.start "ab")).control := by
  refine ⟨.exactly (.mapRight (.refl trivial)), ?_⟩
  decide +kernel

end Parser

end TagMarkup

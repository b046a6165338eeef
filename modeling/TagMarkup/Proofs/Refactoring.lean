import TagMarkup.Proofs.Cells
import TagMarkup.Proofs.Failures

/-!
# Refactoring parsers

Parsers that are written differently and come to the same everywhere: with the same value, the same
cursor, and the same reason for a failure at the same place.

**Theorem (`Parser.run_eq_of_pairs`).** What two alternatives start with may be taken out of them.
Alternatives and sequences may be grouped to either side. A sequence on a condition is a sequence
whose pair of values is validated and then combined. Two validations in a row are one.

The two sides of a pair report a failure along different ways. An alternative restarts where it was
applied and reports what its second branch reports, a sequence hands failures on, and a validation
reports where it started. So each pair is looked at by what its parts come to, and where a part is
applied a second time, it comes to the same again.

**Theorem (`Registry.run_eq_of_refactors`).** The pairs may be used anywhere inside of a grammar,
and as often as one likes: in a parser, and in all parsers that are behind its cells. A run does not
depend on how its parts are written, so the relation that is generated by the pairs
(`Parser.Refactors`) is carried through every combinator, and through the cells by induction on how
deep they are entered.
-/

namespace TagMarkup

open Outcome

namespace Parser

variable {κ ε : Type} {ν : κ → Type} {α β γ δ η : Type}

/-! ## The pairs -/

section Pairs

variable (enter : (k : κ) → Cursor → Outcome ε (ν k)) (c : Cursor)

/-- What two alternatives start with may be taken out of them. -/
theorem run_sequence_orElse (p : Parser ε ν α) (q r : Parser ε ν β) (f : α → β → γ) :
    (sequence p (orElse q r) f).run enter c =
      (orElse (sequence p q f) (sequence p r f)).run enter c := by
  cases hp : p.run enter c with
  | failure e =>
    have hfails (s : Parser ε ν β) : (sequence p s f).run enter c = failure e := by
      rw [run, hp, andThen_failure]
    rw [run_orElse_of_failure (hfails q), hfails, hfails]
  | broken cause =>
    have hbreaks (s : Parser ε ν β) : (sequence p s f).run enter c = broken cause := by
      rw [run, hp, andThen_broken]
    rw [run_orElse_of_ne_failure (by simp [hbreaks]), hbreaks, hbreaks]
  | success a d =>
    have hbehind (s : Parser ε ν β) :
        (sequence p s f).run enter c = (s.run enter d).map (f a) := by
      rw [run, hp, andThen_success]
    by_cases hq : ∃ e, q.run enter d = failure e
    · obtain ⟨e, hq⟩ := hq
      have hfails : (sequence p q f).run enter c = failure e := by
        rw [hbehind, map_eq_failure]
        exact hq
      rw [run_orElse_of_failure hfails, hbehind, hbehind, run_orElse_of_failure hq]
    · have hq := not_exists.1 hq
      have hfirst (e : Failure) : (sequence p q f).run enter c ≠ failure e := by
        rw [hbehind, Ne, map_eq_failure]
        exact hq e
      rw [run_orElse_of_ne_failure hfirst, hbehind, hbehind, run_orElse_of_ne_failure hq]

/-- Alternatives may be grouped to either side. -/
theorem run_orElse_orElse (p q r : Parser ε ν α) :
    (orElse (orElse p q) r).run enter c = (orElse p (orElse q r)).run enter c := by
  by_cases hp : ∃ e, p.run enter c = failure e
  · obtain ⟨e, hp⟩ := hp
    have hsecond : (orElse p q).run enter c = q.run enter c := run_orElse_of_failure hp
    rw [run_orElse_of_failure hp]
    by_cases hq : ∃ e, q.run enter c = failure e
    · obtain ⟨e, hq⟩ := hq
      rw [run_orElse_of_failure (hsecond.trans hq), run_orElse_of_failure hq]
    · have hq := not_exists.1 hq
      rw [run_orElse_of_ne_failure (by rwa [hsecond]), hsecond, run_orElse_of_ne_failure hq]
  · have hp := not_exists.1 hp
    have hfirst : (orElse p q).run enter c = p.run enter c := run_orElse_of_ne_failure hp
    rw [run_orElse_of_ne_failure (by rwa [hfirst]), hfirst, run_orElse_of_ne_failure hp]

/-- Sequences may be grouped to either side, if the values are put together in the same way. -/
theorem run_sequence_sequence (p : Parser ε ν α) (q : Parser ε ν β) (r : Parser ε ν γ)
    {δ' : Type} {f : α → β → δ} {g : δ → γ → η} {f' : β → γ → δ'} {g' : α → δ' → η}
    (h : ∀ x y z, g (f x y) z = g' x (f' y z)) :
    (sequence (sequence p q f) r g).run enter c =
      (sequence p (sequence q r f') g').run enter c := by
  simp only [run]
  rw [andThen_andThen]
  congr 1
  funext x d
  rw [andThen_map, map_andThen]
  congr 1
  funext y e
  have hvalue : g (f x y) = fun z => g' x (f' y z) := funext (h x y)
  rw [map_map, hvalue]

/-- A sequence on a condition combines its values behind the test. -/
theorem run_sequenceIf (p : Parser ε ν α) (q : Parser ε ν β) (f : α → β → γ)
    (fit : α → β → Bool) :
    (sequenceIf p q f fit).run enter c =
      (map (validate (sequence p q Prod.mk) fun ab => fit ab.1 ab.2)
        fun ab => f ab.1 ab.2).run enter c := by
  simp only [run]
  rw [andThen_andThen, map_andThen]
  congr 1
  funext a d
  rw [andThen_map, map_andThen]
  congr 1
  funext b e
  by_cases h : fit a b = true
  · rw [if_pos h, if_pos h, map_success]
  · rw [if_neg h, if_neg h]
    rfl

/-- Two validations in a row are one. -/
theorem run_validate_validate (p : Parser ε ν α) (v w : α → Bool) :
    (validate (validate p v) w).run enter c =
      (validate p fun a => v a && w a).run enter c := by
  simp only [run]
  rw [andThen_andThen]
  congr 1
  funext a d
  by_cases h : v a = true
  · simp [h]
  · simp [h]

end Pairs

/-- **Refactorings.** The two parsers of each pair come to the same at every cursor, whatever their
cells do, failures included: for all parts, for all functions that combine values, and for all
tests. -/
theorem run_eq_of_pairs (enter : (k : κ) → Cursor → Outcome ε (ν k)) (c : Cursor) :
    (∀ (p : Parser ε ν α) (q r : Parser ε ν β) (f : α → β → γ),
      (sequence p (orElse q r) f).run enter c =
        (orElse (sequence p q f) (sequence p r f)).run enter c) ∧
    (∀ p q r : Parser ε ν α,
      (orElse (orElse p q) r).run enter c = (orElse p (orElse q r)).run enter c) ∧
    (∀ (p : Parser ε ν α) (q : Parser ε ν β) (r : Parser ε ν γ) (f : α → β → δ) (g : δ → γ → η),
      (sequence (sequence p q f) r g).run enter c =
        (sequence p (sequence q r Prod.mk) fun x yz => g (f x yz.1) yz.2).run enter c) ∧
    (∀ (p : Parser ε ν α) (q : Parser ε ν β) (r : Parser ε ν γ) (f : β → γ → δ) (g : α → δ → η),
      (sequence p (sequence q r f) g).run enter c =
        (sequence (sequence p q Prod.mk) r fun xy z => g xy.1 (f xy.2 z)).run enter c) ∧
    (∀ (p : Parser ε ν α) (q : Parser ε ν β) (f : α → β → γ) (fit : α → β → Bool),
      (sequenceIf p q f fit).run enter c =
        (map (validate (sequence p q Prod.mk) fun ab => fit ab.1 ab.2)
          fun ab => f ab.1 ab.2).run enter c) ∧
    ∀ (p : Parser ε ν α) (v w : α → Bool),
      (validate (validate p v) w).run enter c =
        (validate p fun a => v a && w a).run enter c := by
  refine ⟨run_sequence_orElse enter c, run_orElse_orElse enter c, fun p q r f g => ?_,
    fun p q r f g => ?_, run_sequenceIf enter c, run_validate_validate enter c⟩
  · exact run_sequence_sequence enter c p q r fun _ _ _ => rfl
  · exact (run_sequence_sequence enter c p q r (f := Prod.mk)
      (g := fun xy z => g xy.1 (f xy.2 z)) fun _ _ _ => rfl).symm

/-! ## Anywhere inside of a parser -/

/-- The second parser comes from the first one by the pairs, used anywhere inside. -/
inductive Refactors : {α : Type} → Parser ε ν α → Parser ε ν α → Prop
  | distribute {α β γ : Type} (p : Parser ε ν α) (q r : Parser ε ν β) (f : α → β → γ) :
      Refactors (sequence p (orElse q r) f) (orElse (sequence p q f) (sequence p r f))
  | regroupAlternatives {α : Type} (p q r : Parser ε ν α) :
      Refactors (orElse (orElse p q) r) (orElse p (orElse q r))
  | regroupSequence {α β γ δ δ' η : Type} (p : Parser ε ν α) (q : Parser ε ν β) (r : Parser ε ν γ)
      {f : α → β → δ} {g : δ → γ → η} {f' : β → γ → δ'} {g' : α → δ' → η} :
      (∀ x y z, g (f x y) z = g' x (f' y z)) →
        Refactors (sequence (sequence p q f) r g) (sequence p (sequence q r f') g')
  | combineLater {α β γ : Type} (p : Parser ε ν α) (q : Parser ε ν β) (f : α → β → γ)
      (fit : α → β → Bool) :
      Refactors (sequenceIf p q f fit)
        (map (validate (sequence p q Prod.mk) fun ab => fit ab.1 ab.2) fun ab => f ab.1 ab.2)
  | validateOnce {α : Type} (p : Parser ε ν α) (v w : α → Bool) :
      Refactors (validate (validate p v) w) (validate p fun a => v a && w a)
  | refl {α : Type} (p : Parser ε ν α) : Refactors p p
  | symm {α : Type} {p q : Parser ε ν α} : Refactors p q → Refactors q p
  | trans {α : Type} {p q r : Parser ε ν α} : Refactors p q → Refactors q r → Refactors p r
  | sequence {α β γ : Type} {p p' : Parser ε ν α} {q q' : Parser ε ν β} {f : α → β → γ} :
      Refactors p p' → Refactors q q' → Refactors (sequence p q f) (sequence p' q' f)
  | sequenceIf {α β γ : Type} {p p' : Parser ε ν α} {q q' : Parser ε ν β} {f : α → β → γ}
      {fit : α → β → Bool} : Refactors p p' → Refactors q q' →
        Refactors (sequenceIf p q f fit) (sequenceIf p' q' f fit)
  | orElse {α : Type} {p p' q q' : Parser ε ν α} : Refactors p p' → Refactors q q' →
      Refactors (orElse p q) (orElse p' q')
  | many {α : Type} {p p' : Parser ε ν α} : Refactors p p' → Refactors (many p) (many p')
  | oneOrMore {α : Type} {p p' : Parser ε ν α} : Refactors p p' →
      Refactors (oneOrMore p) (oneOrMore p')
  | exactly {α : Type} [Sized α] {p p' : Parser ε ν α} {count : Nat} {cause : ε} :
      Refactors p p' → Refactors (exactly p count cause) (exactly p' count cause)
  | map {α β : Type} {p p' : Parser ε ν α} {f : α → β} : Refactors p p' →
      Refactors (map p f) (map p' f)
  | validate {α : Type} {p p' : Parser ε ν α} {valid : α → Bool} : Refactors p p' →
      Refactors (validate p valid) (validate p' valid)
  | toEnd {α : Type} {p p' : Parser ε ν α} : Refactors p p' → Refactors (toEnd p) (toEnd p')
  | shared {α : Type} {p p' : Parser ε ν α} : Refactors p p' → Refactors (shared p) (shared p')

/-- A refactored parser does what the parser did. -/
theorem Refactors.run_eq {p q : Parser ε ν α} (h : p.Refactors q)
    (enter : (k : κ) → Cursor → Outcome ε (ν k)) : p.run enter = q.run enter := by
  induction h with
  | distribute p q r f => exact funext fun c => run_sequence_orElse enter c p q r f
  | regroupAlternatives p q r => exact funext fun c => run_orElse_orElse enter c p q r
  | regroupSequence p q r h => exact funext fun c => run_sequence_sequence enter c p q r h
  | combineLater p q f fit => exact funext fun c => run_sequenceIf enter c p q f fit
  | validateOnce p v w => exact funext fun c => run_validate_validate enter c p v w
  | refl p => rfl
  | symm _ ih => exact ih.symm
  | trans _ _ ihp ihq => exact ihp.trans ihq
  | sequence _ _ ihp ihq | sequenceIf _ _ ihp ihq | orElse _ _ ihp ihq =>
    funext c
    simp only [run, ihp, ihq]
  | many _ ih | oneOrMore _ ih | exactly _ ih | map _ ih | validate _ ih | toEnd _ ih
  | shared _ ih =>
    funext c
    simp only [run, ih]

end Parser

/-! ## Anywhere inside of a grammar -/

namespace Registry

variable {ν α : Type}

/-- The second registry comes from the first one by refactoring the parsers that are held. -/
structure Refactors (r s : Registry ν) : Prop where
  cells : s.cells = r.cells
  slots : List.Forall₂ (fun x y => x.1 = y.1 ∧ x.2.id = y.2.id ∧ x.2.scope = y.2.scope ∧
    x.2.parser.Refactors y.2.parser) r.slots s.slots

variable {r s : Registry ν}

/-- Both registries hold a parser with the same number, or neither of them does. -/
theorem Refactors.live? (h : r.Refactors s) (id : ParserId) :
    (r.live? id = none ∧ s.live? id = none) ∨ ∃ x y, r.live? id = some x ∧ s.live? id = some y ∧
      x.scope = y.scope ∧ x.parser.Refactors y.parser := by
  have hslots := h.slots
  unfold Registry.live?
  generalize r.slots = xs at hslots ⊢
  generalize s.slots = ys at hslots ⊢
  induction hslots with
  | nil => exact .inl ⟨rfl, rfl⟩
  | @cons x y xs ys hxy _ ih =>
    obtain ⟨-, hid, hscope, hparser⟩ := hxy
    by_cases hx : x.2.id = id
    · refine .inr ⟨x.2, y.2, ?_, ?_, hscope, hparser⟩
      · simp [hx]
      · simp [← hid, hx]
    · have hy : ¬ y.2.id = id := fun hy => hx (hid.trans hy)
      rw [List.find?_cons_of_neg (by simpa using hx), List.find?_cons_of_neg (by simpa using hy)]
      exact ih

theorem Refactors.target? (h : r.Refactors s) (cell : Cell) :
    (r.target? cell = none ∧ s.target? cell = none) ∨
      ∃ x y, r.target? cell = some x ∧ s.target? cell = some y ∧
        x.scope = y.scope ∧ x.parser.Refactors y.parser := by
  unfold Registry.target?
  cases cell.target with
  | none => exact .inl ⟨rfl, rfl⟩
  | some id => exact h.live? id

/-- A cell does what it did before the parsers were refactored. -/
theorem Refactors.enter_eq (h : r.Refactors s) (entries : Nat) (scope : List (String × CellId)) :
    r.enter entries scope = s.enter entries scope := by
  induction entries using Nat.strongRecOn generalizing scope with
  | _ entries ih =>
    funext handle c
    unfold enter
    rw [h.cells]
    cases (scope.lookup handle).bind fun id => r.cells[id]? with
    | none => rfl
    | some cell =>
      rcases h.target? cell with ⟨hx, hy⟩ | ⟨x, y, hx, hy, hscope, hparser⟩
      · simp only [hx, hy]
      · simp only [hx, hy]
        cases entries with
        | zero => rfl
        | succ n => simp only [ih n (Nat.lt_succ_self n), hscope, hparser.run_eq]

/-- **Refactoring a grammar.** Let a parser and all parsers that a registry holds be refactored.
Then the parser comes to the same at every cursor, however deep the cells are entered. -/
theorem run_eq_of_refactors (h : r.Refactors s) {p q : Parser Fault (Uniform ν) α}
    (hpq : p.Refactors q) (entries : Nat) (scope : List (String × CellId)) (c : Cursor) :
    p.run (r.enter entries scope) c = q.run (s.enter entries scope) c := by
  rw [h.enter_eq, hpq.run_eq]

end Registry

end TagMarkup

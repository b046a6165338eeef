import TagMarkup.Proofs.Parts

/-!
# What failures report

**Theorem (`Registry.run_truthful`).** The failure of a parser without functions inside tells the
truth about the text. If the parser holds no part that reports failures where it started, the end of
the input is reported at the end of the text, a character that was found is reported directly behind
it by a primitive that refuses it, and trailing input is reported where something is unread. In any
case a character that was found stands in the text, no earlier than where the parser was applied.

On its way out of a parser a failure is dropped, handed on, or reported elsewhere. A `FailureLaw` is
a property of failures, relative to where a parser was applied, that survives all of this; it may
rely on the parts of the parser being of some kind. The induction is done once, over the parser
(`Parser.reports_run`) and over how deep cells are entered (`Registry.reports_run`), and both halves
of the theorem are laws.
-/

namespace TagMarkup

open Cursor Outcome

variable {ε α β : Type}

/-! ## Where failures come from -/

namespace Outcome

@[simp] theorem map_eq_failure {o : Outcome ε α} {f : α → β} {e : Failure} :
    o.map f = failure e ↔ o = failure e := by
  cases o <;> simp [map]

/-- What goes on after a success fails by itself or because there is no success. -/
theorem andThen_eq_failure {o : Outcome ε α} {f : α → Cursor → Outcome ε β} {e : Failure} :
    o.andThen f = failure e ↔ o = failure e ∨ ∃ a d, o = success a d ∧ f a d = failure e := by
  cases o <;> simp [andThen]

theorem relocate_eq_failure {o : Outcome ε α} {c : Cursor} {e : Failure} :
    o.relocate c = failure e ↔ ∃ e', o = failure e' ∧ e'.relocate c = e := by
  cases o <;> simp [relocate]

/-- What is accepted on a condition fails only where the condition does not hold. -/
theorem ite_eq_failure {P : Prop} [Decidable P] {a : α} {c : Cursor} {e e' : Failure} :
    (if P then success a c else failure e : Outcome ε α) = failure e' ↔ ¬ P ∧ e = e' := by
  by_cases h : P <;> simp [h]

/-- A character is refused behind it, and the end of the input where it is. -/
theorem ofChar_eq_failure {refuse : Char → Option Reason} {c : Cursor} {e : Failure} :
    (ofChar refuse c : Outcome ε Char) = failure e ↔
      (c.next? = none ∧ e = ⟨.endOfInput, c⟩) ∨
        ∃ x d reason, c.next? = some (x, d) ∧ refuse x = some reason ∧ e = ⟨reason, d⟩ := by
  unfold ofChar
  cases c.next? with
  | none => simp [eq_comm]
  | some read =>
    obtain ⟨x, d⟩ := read
    cases h : refuse x <;> simp [h, eq_comm]

/-- A repetition never fails. -/
theorem collect_ne_failure (attempt : Cursor → Outcome ε α) (c : Cursor) (e : Failure) :
    collect attempt [] c ≠ failure e := by
  refine collect_induction (P := fun _ o => o ≠ failure e) ?failed ?brokenOff ?still ?goesOn c
  case failed => exact fun c f _ => nofun
  case brokenOff => exact fun c cause _ => nofun
  case still => exact fun c a d _ _ => nofun
  case goesOn => exact fun c a d _ _ ih h => ih (map_eq_failure.1 h)

/-- The attempt that makes a number of attempts fail is made further on. -/
theorem exists_of_collectExactly_eq_failure {attempt : Cursor → Outcome ε α}
    (h : MovesForward attempt) {n : Nat} {c : Cursor} {e : Failure}
    (hf : collectExactly attempt [] n c = failure e) :
    ∃ d, c.Onward d ∧ attempt d = failure e := by
  induction n generalizing c with
  | zero => cases hf
  | succ n ih =>
    rw [collectExactly_succ] at hf
    rcases andThen_eq_failure.1 hf with ho | ⟨a, d, ho, hf⟩
    · exact ⟨c, .refl c, ho⟩
    · have hcd := h.onward ho
      obtain ⟨e', hde, ho'⟩ := ih (map_eq_failure.1 hf)
      exact ⟨e', hcd.trans hde, ho'⟩

end Outcome

/-- The character that was found, if the reason names one. -/
def Reason.found? : Reason → Option Char
  | mismatch found _ | excluded found | unsatisfied found _ => some found
  | endOfInput | validationFailed | trailingInput => none

/-- A primitive fails at the end of the input, or behind a character that it names. -/
theorem Parser.failure_of_isPrimitive {κ : Type} {ν : κ → Type}
    {enter : (k : κ) → Cursor → Outcome ε (ν k)} {p : Parser ε ν α} (hp : p.isPrimitive = true)
    {c : Cursor} {f : Failure} (h : p.run enter c = failure f) :
    (c.atEnd = true ∧ f = ⟨.endOfInput, c⟩) ∨
      ∃ x, c.next? = some (x, f.cursor) ∧ f.reason.found? = some x ∧
        ∀ y, f.reason = .mismatch x y → x ≠ y := by
  cases p with
  | any =>
    rcases ofChar_eq_failure.1 h with ⟨hc, rfl⟩ | ⟨x, d, reason, -, hx, -⟩
    · exact .inl ⟨atEnd_of_next?_eq_none hc, rfl⟩
    · cases hx
  | literal | satisfy | noneOf =>
    rcases ofChar_eq_failure.1 h with ⟨hc, rfl⟩ | ⟨x, d, reason, hc, hx, rfl⟩
    · exact .inl ⟨atEnd_of_next?_eq_none hc, rfl⟩
    · refine .inr ⟨x, hc, ?_⟩
      split_ifs at hx with hif
      all_goals
        cases hx
        exact ⟨rfl, by simp_all⟩
  | _ => cases hp

/-! ## Laws of failures -/

/-- The attempt moves forward, and each of its failures has a property where it is made. -/
structure Reports (T : Cursor → Failure → Prop) (attempt : Cursor → Outcome ε α) : Prop where
  forward : MovesForward attempt
  failed {c : Cursor} {f : Failure} : attempt c = failure f → T c f

theorem reports_broken (T : Cursor → Failure → Prop) (cause : ε) :
    Reports T fun _ => (broken cause : Outcome ε α) where
  forward _ := ahead_broken
  failed := nofun

namespace Parser

variable {κ : Type} {ν : κ → Type}

/-- A property of failures that holds of what the admitted parts report, and still holds when it is
handed on. -/
structure FailureLaw (A : Part ε ν → Prop) (T : Cursor → Failure → Prop) : Prop where
  /-- Failures are handed on to where a parser was applied before. -/
  handedOn {c d : Cursor} {f : Failure} : c.Onward d → T d f → T c f
  noFunction {p : Part ε ν} : A p → p.2.isFunction = false
  primitive {p : Part ε ν} {c : Cursor} {f : Failure} : A p → p.2.isPrimitive = true →
    (∀ enter, p.2.run enter c = failure f) → T c f
  relocated {p : Part ε ν} {c : Cursor} {f : Failure} : A p → p.2.relocates = true → T c f →
    T c (f.relocate c)
  rejected {p : Part ε ν} {c : Cursor} : A p → p.2.validates = true → T c ⟨.validationFailed, c⟩
  trailing {c : Cursor} : c.atEnd = false → T c ⟨.trailingInput, c⟩

variable {A : Part ε ν → Prop} {T : Cursor → Failure → Prop}
  {enter : (k : κ) → Cursor → Outcome ε (ν k)}

/-- **Failures obey laws.** What the parts of a parser and its cells report, the parser reports. -/
theorem reports_run (hT : FailureLaw A T) (henter : ∀ k, Reports T (enter k))
    {p : Parser ε ν α} (hp : ∀ q ∈ p.parts, A q) : Reports T (p.run enter) := by
  -- the parts move forward as well
  have hforward {β : Type} {q : Parser ε ν β} (hq : ∀ x ∈ q.parts, A x) :
      MovesForward (q.run enter) :=
    movesForward_run (fun k => (henter k).forward)
      (leaves_of_parts fun x hx => hT.noFunction (hq x hx))
  refine ⟨hforward hp, fun {c f} h => ?_⟩
  induction p generalizing c f with
  | any | literal | satisfy | noneOf =>
    exact hT.primitive (hp _ (mem_parts_self _)) rfl fun _ => h
  | ofFn => cases hT.noFunction (hp _ (mem_parts_self _))
  | cell k => exact (henter k).failed h
  | sequence p q g ihp ihq =>
    obtain ⟨hpp, hqp⟩ := List.forall_mem_append.1 (List.forall_mem_cons.1 hp).2
    rcases andThen_eq_failure.1 h with ho | ⟨a, d, ho, h⟩
    · exact ihp hpp ho
    · exact hT.handedOn ((hforward hpp).onward ho) (ihq hqp (map_eq_failure.1 h))
  | sequenceIf p q g fit ihp ihq =>
    obtain ⟨hself, hparts⟩ := List.forall_mem_cons.1 hp
    obtain ⟨hpp, hqp⟩ := List.forall_mem_append.1 hparts
    rcases andThen_eq_failure.1 h with ho | ⟨a, d, ho, h⟩
    · exact ihp hpp ho
    rcases andThen_eq_failure.1 h with ho' | ⟨b, e, -, h⟩
    · exact hT.handedOn ((hforward hpp).onward ho) (ihq hqp ho')
    · obtain ⟨-, rfl⟩ := ite_eq_failure.1 h
      exact hT.rejected hself rfl
  | orElse p q ihp ihq =>
    obtain ⟨-, hqp⟩ := List.forall_mem_append.1 (List.forall_mem_cons.1 hp).2
    simp only [run] at h
    split at h
    · exact ihq hqp h
    · rename_i hne
      exact absurd h (hne f)
  | many p ih => exact absurd h (collect_ne_failure _ c f)
  | oneOrMore p ih =>
    obtain ⟨hself, hpp⟩ := List.forall_mem_cons.1 hp
    rw [run, collectOne_eq] at h
    split at h
    · rename_i e ho
      cases h
      exact hT.relocated hself rfl (ih hpp ho)
    · exact absurd h (collect_ne_failure _ c f)
  | exactly p count cause ih =>
    obtain ⟨hself, hpp⟩ := List.forall_mem_cons.1 hp
    simp only [run] at h
    split at h
    · obtain ⟨e, he, rfl⟩ := relocate_eq_failure.1 h
      obtain ⟨d, hcd, ho⟩ := exists_of_collectExactly_eq_failure (hforward hpp) he
      exact hT.relocated hself rfl (hT.handedOn hcd (ih hpp ho))
    · cases h
  | map p g ih => exact ih (List.forall_mem_cons.1 hp).2 (map_eq_failure.1 h)
  | validate p valid ih =>
    obtain ⟨hself, hpp⟩ := List.forall_mem_cons.1 hp
    rcases andThen_eq_failure.1 h with ho | ⟨a, d, -, h⟩
    · exact ih hpp ho
    · obtain ⟨-, rfl⟩ := ite_eq_failure.1 h
      exact hT.rejected hself rfl
  | toEnd p ih =>
    obtain ⟨-, hpp⟩ := List.forall_mem_cons.1 hp
    rcases andThen_eq_failure.1 h with ho | ⟨a, d, ho, h⟩
    · exact ih hpp ho
    · obtain ⟨hend, rfl⟩ := ite_eq_failure.1 h
      exact hT.handedOn ((hforward hpp).onward ho) (hT.trailing (Bool.eq_false_iff.2 hend))
  | shared p ih => exact ih (List.forall_mem_cons.1 hp).2 h

end Parser

namespace Registry

variable {ν : Type} {r : Registry ν} {A : Parser.Part Fault (Uniform ν) → Prop}
  {T : Cursor → Failure → Prop}

/-- **Laws hold behind cells.** What a parser in a registry uses decides what it reports. The
induction is on how deep cells are entered. -/
theorem reports_run (hT : Parser.FailureLaw A T) {scope : List (String × CellId)}
    {p : Parser Fault (Uniform ν) α} (hp : ∀ q, r.Uses scope ⟨α, p⟩ q → A q) (entries : Nat) :
    Reports T (p.run (r.enter entries scope)) := by
  classical
  induction entries using Nat.strongRecOn generalizing α scope p with
  | _ n ih =>
    have hcell (k : String) (hk : ⟨ν, .cell k⟩ ∈ p.parts) : Reports T (r.enter n scope k) := by
      cases hheld : r.resolve scope k with
      | error fault =>
        have henter := funext (enter_of_refused hheld n)
        exact henter ▸ reports_broken T fault
      | ok held =>
        cases n with
        | zero =>
          obtain ⟨name, henter⟩ := enter_zero_of_ok hheld
          exact henter ▸ reports_broken T _
        | succ n =>
          have henter := funext (enter_succ_of_ok hheld n)
          exact henter ▸ ih n n.lt_succ_self fun q hq => hp q (.behind hk hheld hq)
    -- nothing is known of the other cells, and the parser does not enter them
    have hrun : p.run (r.enter n scope) = p.run fun k =>
        if ⟨ν, .cell k⟩ ∈ p.parts then r.enter n scope k else fun _ => broken .noRoom :=
      Parser.run_congr fun k hk => (if_pos hk).symm
    rw [hrun]
    refine Parser.reports_run hT (fun k => ?_) fun q hq => hp q (.inside hq)
    split
    · rename_i hk
      exact hcell k hk
    · exact reports_broken T _

/-! ## Truthful failures -/

/-- What a failure tells about the text is true. The parts are those that may be applied, and `c` is
where the parser was applied. -/
structure Truthful (U : Parser.Part Fault (Uniform ν) → Prop) (c : Cursor) (f : Failure) :
    Prop where
  onward : c.Onward f.cursor
  atEnd : f.reason = .endOfInput → f.cursor.atEnd = true
  /-- What was found stands directly before the place that is reported; a primitive refuses it. -/
  found {x : Char} : f.reason.found? = some x → c.offset < f.cursor.offset ∧
    ∃ p e, U p ∧ p.2.isPrimitive = true ∧ c.Onward e ∧ e.next? = some (x, f.cursor) ∧
      ∀ enter, p.2.run enter e = failure f
  unexpected {x y : Char} : f.reason = .mismatch x y → x ≠ y
  unread : f.reason = .trailingInput → f.cursor.atEnd = false

theorem failureLaw_truthful {U : Parser.Part Fault (Uniform ν) → Prop}
    (hfunction : ∀ p, U p → p.2.isFunction = false)
    (hrelocates : ∀ p, U p → p.2.relocates = false) : Parser.FailureLaw U (Truthful U) where
  handedOn hcd h := {
    onward := hcd.trans h.onward
    atEnd := h.atEnd
    found := fun hx =>
      have ⟨hlt, p, e, hp, hprim, hde, hnext, hrun⟩ := h.found hx
      ⟨Nat.lt_of_le_of_lt hcd.2 hlt, p, e, hp, hprim, hcd.trans hde, hnext, hrun⟩
    unexpected := h.unexpected
    unread := h.unread }
  noFunction := hfunction _
  primitive {p c f} hp hprim hrun := by
    rcases Parser.failure_of_isPrimitive hprim (hrun fun _ _ => broken .noRoom) with
      ⟨hend, rfl⟩ | ⟨x, hnext, hx, hne⟩
    · exact ⟨.refl c, fun _ => hend, nofun, nofun, nofun⟩
    · have hlead := leads_of_next? hnext
      have hlt : c.offset < f.cursor.offset := by
        have := x.utf8Size_pos
        rw [hlead.offset_eq]
        simpa using this
      refine ⟨hlead.onward, fun h => ?_, fun {y} hy => ?_, fun {y z} hy => ?_, fun h => ?_⟩
      · rw [h] at hx
        cases hx
      · obtain rfl : x = y := Option.some.inj (hx.symm.trans hy)
        exact ⟨hlt, p, c, hp, hprim, .refl c, hnext, hrun⟩
      · rw [hy] at hx
        cases hx
        exact hne z hy
      · rw [h] at hx
        cases hx
  relocated hp h := by
    rw [hrelocates _ hp] at h
    cases h
  rejected {p c} _ _ := ⟨.refl c, nofun, nofun, nofun, nofun⟩
  trailing {c} hend := ⟨.refl c, nofun, nofun, nofun, fun _ => hend⟩

/-- The character that was found, if there is one, stands in the text no earlier than at `c`. -/
def FoundInText (c : Cursor) (f : Failure) : Prop :=
  ∀ x, f.reason.found? = some x → ∃ e d, c.Onward e ∧ e.next? = some (x, d)

theorem failureLaw_foundInText {U : Parser.Part Fault (Uniform ν) → Prop}
    (hfunction : ∀ p, U p → p.2.isFunction = false) : Parser.FailureLaw U FoundInText where
  handedOn hcd h x hx :=
    have ⟨e, d, hde, hnext⟩ := h x hx
    ⟨e, d, hcd.trans hde, hnext⟩
  noFunction := hfunction _
  primitive {p c f} _ hprim hrun y hy := by
    rcases Parser.failure_of_isPrimitive hprim (hrun fun _ _ => broken .noRoom) with
      ⟨-, rfl⟩ | ⟨x, hnext, hx, -⟩
    · cases hy
    · obtain rfl : x = y := Option.some.inj (hx.symm.trans hy)
      exact ⟨c, f.cursor, .refl c, hnext⟩
  relocated _ _ h := h
  rejected _ _ := nofun
  trailing _ := nofun

/-- **Failures are truthful.** Let a parser in a registry use no functions. If nothing that it uses
reports failures where it started, then each of its failures tells the truth about the text. In any
case a character that a failure names stands in the text, no earlier than where the parser was
applied. -/
theorem run_truthful {scope : List (String × CellId)} {p : Parser Fault (Uniform ν) α}
    (hp : ∀ q, r.Uses scope ⟨α, p⟩ q → q.2.isFunction = false) (entries : Nat) {c : Cursor}
    {f : Failure} (h : p.run (r.enter entries scope) c = failure f) :
    ((∀ q, r.Uses scope ⟨α, p⟩ q → q.2.relocates = false) →
      Truthful (r.Uses scope ⟨α, p⟩) c f) ∧ FoundInText c f := by
  refine ⟨fun hq => ?_, ?_⟩
  · exact (reports_run (failureLaw_truthful hp hq) (fun _ => id) entries).failed h
  · exact (reports_run (failureLaw_foundInText hp) (fun _ => id) entries).failed h

end Registry

/-! ## Brackets around a digit -/

/-- Round brackets around the same again or around a digit. -/
def Parser.digitInBrackets : Parser Fault (Uniform Char) Char :=
  left (right (literal '(') (orElse (cell "brackets") (satisfy Char.isDigit "a digit")))
    (literal ')')

namespace Registry

/-- The registry in which the cell of `Parser.digitInBrackets` is defined. -/
def brackets : Registry Char :=
  (empty.replay [.create "brackets" "brackets", .hold "rule" .digitInBrackets,
    .define "brackets" "rule"]).1

theorem mem_parts_of_uses_brackets {q : Parser.Part Fault (Uniform Char)}
    (h : brackets.Uses [("brackets", 0)] ⟨Char, .digitInBrackets⟩ q) :
    q ∈ Parser.digitInBrackets.parts := by
  have hclosed {scope : List (String × CellId)} {p : Parser.Part Fault (Uniform Char)} {k : String}
      {held : Held Char} (hp : scope = [("brackets", 0)] ∧ p = ⟨Char, .digitInBrackets⟩)
      (hk : ⟨Char, .cell k⟩ ∈ p.2.parts) (hheld : brackets.resolve scope k = .ok held) :
      held.scope = [("brackets", 0)] ∧
        (⟨Char, held.parser⟩ : Parser.Part Fault (Uniform Char)) = ⟨Char, .digitInBrackets⟩ := by
    obtain ⟨rfl, rfl⟩ := hp
    have hcell : (.cell k : Parser Fault (Uniform Char) Char) = .cell "brackets" := by
      simpa [Parser.digitInBrackets, Parser.left, Parser.right, Parser.parts] using hk
    cases hcell
    cases hheld
    exact ⟨rfl, rfl⟩
  obtain ⟨_, _, ⟨-, rfl⟩, hq⟩ := h.exists_of_closed hclosed ⟨rfl, rfl⟩
  exact hq

/-- Inside of two brackets a character is no digit. The brackets inside fail there, and so does the
attempt to read a digit in their place; what it found is reported, one bracket further back. -/
theorem run_truthful_brackets :
    Parser.digitInBrackets.run (brackets.enter 5 [("brackets", 0)])
        (between ['é'] "((7x".toList) =
          failure ⟨.unsatisfied '(' "a digit", between "é((".toList.reverse "7x".toList⟩ ∧
      Truthful (brackets.Uses [("brackets", 0)] ⟨Char, .digitInBrackets⟩)
        (between ['é'] "((7x".toList)
        ⟨.unsatisfied '(' "a digit", between "é((".toList.reverse "7x".toList⟩ ∧
      FoundInText (between ['é'] "((7x".toList)
        ⟨.unsatisfied '(' "a digit", between "é((".toList.reverse "7x".toList⟩ := by
  have h : Parser.digitInBrackets.run (brackets.enter 5 [("brackets", 0)])
      (between ['é'] "((7x".toList) =
        failure ⟨.unsatisfied '(' "a digit", between "é((".toList.reverse "7x".toList⟩ := by
    decide +kernel
  have hparts : Parser.digitInBrackets.parts.all
      (fun q => !q.2.isFunction && !q.2.relocates) = true := rfl
  have hkinds (q) (hq : brackets.Uses [("brackets", 0)] ⟨Char, .digitInBrackets⟩ q) :
      q.2.isFunction = false ∧ q.2.relocates = false := by
    simpa using List.all_eq_true.1 hparts q (mem_parts_of_uses_brackets hq)
  have htrue := run_truthful (fun q hq => (hkinds q hq).1) 5 h
  exact ⟨h, htrue.1 fun q hq => (hkinds q hq).2, htrue.2⟩

end Registry

end TagMarkup

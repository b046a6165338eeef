import TagMarkup.Proofs.Forward

/-!
# Maximal runs

A repetition is a loop without a counter: it goes on behind an attempt that succeeds at another
offset, and it ends with an attempt that fails or stays where it was. `Outcome.Loops` says which
finite runs this loop has.

**Theorem (`Parser.many_maximal`).** Let the successes of a parser never lie further back than where
it was applied, and let its runs not be broken off. Then its repetition ends and succeeds. The
attempts whose values it collects follow each other from place to place, each one but the last ends
further on than it started, and behind them either an attempt fails or the last one stayed where it
was (`Outcome.MaximalRun`).

The measure is the number of unread characters, which every attempt but the last makes smaller; so
it bounds the number of values as well.
-/

namespace TagMarkup

open Cursor Outcome

variable {ε α : Type}

namespace Outcome

/-! ## The loop -/

/-- The loop of a repetition, entered at a cursor, ends with values and at a cursor. It is entered
again behind an attempt that succeeds at another offset. -/
inductive Loops (attempt : Cursor → Outcome ε α) : Cursor → List α → Cursor → Prop
  | failed {c : Cursor} {f : Failure} : attempt c = failure f → Loops attempt c [] c
  | still {c d : Cursor} {a : α} : attempt c = success a d → d.offset = c.offset →
      Loops attempt c [a] d
  | goesOn {c d e : Cursor} {a : α} {as : List α} : attempt c = success a d →
      d.offset ≠ c.offset → Loops attempt d as e → Loops attempt c (a :: as) e

/-- From a cursor on, no success lies further back than where the attempt was made, and no attempt
is broken off. -/
structure Proceeds (attempt : Cursor → Outcome ε α) (c : Cursor) : Prop where
  onward {d e : Cursor} {a : α} : c.Onward d → attempt d = success a e → d.Onward e
  unbroken {d : Cursor} {cause : ε} : c.Onward d → attempt d ≠ broken cause

theorem Proceeds.from_onward {attempt : Cursor → Outcome ε α} {c d : Cursor}
    (h : Proceeds attempt c) (hcd : c.Onward d) : Proceeds attempt d where
  onward hde := h.onward (hcd.trans hde)
  unbroken hde := h.unbroken (hcd.trans hde)

/-- Attempts in a row from `c` to `d`, with the values they have: the one at each place ends at the
next place, and further on unless it is the last one. Behind them an attempt fails, or the last of
them stayed where it was. -/
structure MaximalRun (attempt : Cursor → Outcome ε α) (c : Cursor) (values : List α) (d : Cursor)
    (place : Nat → Cursor) : Prop where
  first : place 0 = c
  last : place values.length = d
  step (i : Nat) (hi : i < values.length) :
    attempt (place i) = success values[i] (place (i + 1))
  advances (i : Nat) (hi : i + 1 < values.length) : (place i).offset < (place (i + 1)).offset
  ends : (∃ f, attempt d = failure f) ∨ ∃ n, values.length = n + 1 ∧ (place n).offset = d.offset

section Loops

variable {attempt : Cursor → Outcome ε α} {c d : Cursor} {values : List α}

/-- A repetition ends and succeeds, with a finite run of its loop. -/
theorem exists_loops (h : Proceeds attempt c) :
    ∃ values d, collect attempt [] c = success values d ∧ Loops attempt c values d := by
  refine collect_induction (P := fun c o => Proceeds attempt c →
    ∃ values d, o = success values d ∧ Loops attempt c values d)
    ?failed ?brokenOff ?still ?goesOn c h
  case failed => exact fun c f ho _ => ⟨[], c, rfl, .failed ho⟩
  case brokenOff => exact fun c cause ho h => absurd ho (h.unbroken (.refl c))
  case still =>
    intro c a d ho hlt h
    have hcd := h.onward (.refl c) ho
    have hle := hcd.2
    rw [hcd.remaining_lt_iff] at hlt
    exact ⟨[a], d, rfl, .still ho (by omega)⟩
  case goesOn =>
    intro c a d ho hlt ih h
    have hcd := h.onward (.refl c) ho
    obtain ⟨as, e, hs, hl⟩ := ih (h.from_onward hcd)
    rw [hcd.remaining_lt_iff] at hlt
    exact ⟨a :: as, e, by rw [hs, map_success], .goesOn ho (Nat.ne_of_gt hlt) hl⟩

/-- The loop has only one finite run. -/
theorem Loops.unique {values' : List α} {d' : Cursor} (h : Loops attempt c values d)
    (h' : Loops attempt c values' d') : values = values' ∧ d = d' := by
  induction h generalizing values' with
  | failed ho => cases h' <;> simp_all
  | still ho hoff => cases h' <;> simp_all
  | goesOn ho hoff _ ih =>
    cases h' with
    | failed ho' => simp_all
    | still ho' hoff' => simp_all
    | goesOn ho' _ h' =>
      rw [ho] at ho'
      cases ho'
      obtain ⟨rfl, rfl⟩ := ih h'
      exact ⟨rfl, rfl⟩

/-- Every attempt of a run but the last makes the number of unread characters smaller. -/
theorem Loops.length_le (h : Loops attempt c values d) (hp : Proceeds attempt c) :
    values.length ≤ c.remaining + 1 := by
  induction h with
  | failed => exact Nat.zero_le _
  | still => simp
  | @goesOn c d e a as ho hoff _ ih =>
    have hcd := hp.onward (.refl c) ho
    have hlt := hcd.remaining_lt_iff.2 (Nat.lt_of_le_of_ne hcd.2 (Ne.symm hoff))
    have := ih (hp.from_onward hcd)
    rw [List.length_cons]
    omega

/-- The run is the same for attempts with the same successes, whatever their failures are. -/
theorem Loops.of_successes (h : Loops attempt c values d) (hp : Proceeds attempt c)
    {attempt' : Cursor → Outcome ε α} (hp' : Proceeds attempt' c)
    (hs : ∀ e a e', attempt' e = success a e' ↔ attempt e = success a e') :
    Loops attempt' c values d := by
  induction h with
  | @failed c f ho =>
    cases ho' : attempt' c with
    | success a e => rw [hs, ho] at ho'; cases ho'
    | failure f' => exact .failed ho'
    | broken cause => exact absurd ho' (hp'.unbroken (.refl c))
  | still ho hoff => exact .still ((hs _ _ _).2 ho) hoff
  | @goesOn c d e a as ho hoff _ ih =>
    have hcd := hp.onward (.refl c) ho
    exact .goesOn ((hs _ _ _).2 ho) hoff (ih (hp.from_onward hcd) (hp'.from_onward hcd))

/-- The places of a run: where it was entered, and then those of what follows. -/
theorem Loops.exists_maximalRun (h : Loops attempt c values d) (hp : Proceeds attempt c) :
    ∃ place, MaximalRun attempt c values d place := by
  induction h with
  | @failed c f ho =>
    exact ⟨fun _ => c, rfl, rfl, by simp, by simp, .inl ⟨f, ho⟩⟩
  | @still c d a ho hoff =>
    refine ⟨fun i => if i = 0 then c else d, rfl, rfl, fun i hi => ?_, by simp,
      .inr ⟨0, rfl, hoff.symm⟩⟩
    obtain rfl : i = 0 := by simpa using hi
    exact ho
  | @goesOn c d e a as ho hoff _ ih =>
    have hcd := hp.onward (.refl c) ho
    obtain ⟨place, hrun⟩ := ih (hp.from_onward hcd)
    refine ⟨fun i => if i = 0 then c else place (i - 1), rfl, hrun.last, fun i hi => ?_,
      fun i hi => ?_, ?_⟩
    · cases i with
      | zero => simpa [hrun.first] using ho
      | succ i => exact hrun.step i (by simpa using hi)
    · cases i with
      | zero => simpa [hrun.first] using Nat.lt_of_le_of_ne hcd.2 (Ne.symm hoff)
      | succ i => exact hrun.advances i (by simpa using hi)
    · exact hrun.ends.imp_right fun ⟨n, hn, hlast⟩ => ⟨n + 1, by simp [hn], hlast⟩

end Loops

end Outcome

namespace Parser

variable {κ : Type} {ν : κ → Type}

/-- **Repetitions are maximal.** Let the successes of a parser never lie further back than where it
was applied, and let no run of it be broken off. Then its repetition ends and succeeds, with the
values of a maximal run of attempts. There is at most one value more than there are unread
characters. What the failing attempt reports makes no difference, nor how far it read. Where the
last attempt did not stay where it was, repeating the parser once more yields nothing. -/
theorem many_maximal {p : Parser ε ν α} {enter : (k : κ) → Cursor → Outcome ε (ν k)} {c : Cursor}
    (h : Proceeds (p.run enter) c) :
    ∃ values d place, p.many.run enter c = success values d ∧
      (∀ values' d', Loops (p.run enter) c values' d' ↔ values' = values ∧ d' = d) ∧
      MaximalRun (p.run enter) c values d place ∧
      values.length ≤ c.remaining + 1 ∧
      (∀ q : Parser ε ν α, Proceeds (q.run enter) c →
        (∀ e a e', q.run enter e = success a e' ↔ p.run enter e = success a e') →
        q.many.run enter c = success values d) ∧
      ((¬ ∃ n, values.length = n + 1 ∧ (place n).offset = d.offset) →
        p.many.run enter d = success [] d) := by
  obtain ⟨values, d, hmany, hloop⟩ := exists_loops h
  obtain ⟨place, hrun⟩ := hloop.exists_maximalRun h
  refine ⟨values, d, place, hmany, fun values' d' => ⟨fun h' => h'.unique hloop, ?_⟩, hrun,
    hloop.length_le h, fun q hq hs => ?_, fun hmoved => ?_⟩
  · rintro ⟨rfl, rfl⟩
    exact hloop
  · obtain ⟨values', d', hmany', hloop'⟩ := exists_loops hq
    obtain ⟨rfl, rfl⟩ := hloop'.unique (hloop.of_successes h hq hs)
    exact hmany'
  · obtain ⟨f, hf⟩ := hrun.ends.resolve_right hmoved
    exact collect_of_failure hf

/-- The letter `a`, or nothing. -/
def letterOrNothing : Parser Empty (Uniform Unit) String := orElse (text (literal 'a')) (succeed "")

theorem proceeds_letterOrNothing (enter : String → Cursor → Outcome Empty Unit)
    (henter : ∀ k, MovesForward (enter k)) (c : Cursor) :
    Proceeds (letterOrNothing.run enter) c where
  onward _ ho := by
    have hleaves : letterOrNothing.Leaves fun _ => MovesForward :=
      ⟨trivial, fun c => ahead_success.2 (.refl c)⟩
    exact (movesForward_run henter hleaves).onward ho
  unbroken {_ cause} _ := cause.elim

/-- The second attempt reads nothing, although it succeeds, and ends the repetition. -/
theorem many_maximal_still :
    letterOrNothing.many.run (fun _ c => success () c) (between ['x'] "aé".toList) =
        success ["a", ""] (between ['a', 'x'] ['é']) ∧
      ∃ place, MaximalRun (letterOrNothing.run fun _ c => success () c)
        (between ['x'] "aé".toList) ["a", ""] (between ['a', 'x'] ['é']) place := by
  have h : letterOrNothing.many.run (fun _ c => success () c) (between ['x'] "aé".toList) =
      success ["a", ""] (between ['a', 'x'] ['é']) := by decide +kernel
  have henter : ∀ _ : String, MovesForward fun c => (success () c : Outcome Empty Unit) :=
    fun _ c => ahead_success.2 (.refl c)
  obtain ⟨values, d, place, hmany, -, hrun, -⟩ :=
    many_maximal (proceeds_letterOrNothing _ henter (between ['x'] "aé".toList))
  rw [h] at hmany
  cases hmany
  exact ⟨h, place, hrun⟩

end Parser

end TagMarkup

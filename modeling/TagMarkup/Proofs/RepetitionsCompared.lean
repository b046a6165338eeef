import TagMarkup.Proofs.Failures
import TagMarkup.Proofs.MaximalRuns

/-!
# Repetitions compared

The three repetitions look at the same attempts. `many` makes as many as succeed, `oneOrMore` makes
them only behind a first success, and `exactly` makes a given number of them. So the maximal run of
`many` says what the other two come to.

**Theorem (`Parser.oneOrMore_agrees`).** Where the first attempt succeeds, `oneOrMore` comes to what
`many` comes to; where it fails, `oneOrMore` fails for the same reason where it started. Therefore
`many` is `oneOrMore` or nothing.

**Theorem (`Parser.exactly_agrees`).** Where there is room for the values, `exactly` comes to the
first values of the run, if there are enough of them. Beyond the run it fails as the attempt does
that ended the run, or it repeats the value of an attempt that stayed where it was: `many` stops
behind such an attempt, and `exactly` goes on. Where there is no room, `exactly` is broken off
before the first attempt, and agrees with `many` in no case (`Parser.exactly_refused`).

Both loops take the same steps as long as the run lasts, and `Outcome.collectExactly_add` cuts the
counted one at the end of the run.
-/

namespace TagMarkup

open Cursor Outcome

variable {ε α : Type}

namespace Outcome

variable {attempt : Cursor → Outcome ε α} {c d : Cursor} {values : List α} {place : Nat → Cursor}

/-! ## Cutting a number of attempts -/

@[simp] theorem collectExactly_zero (attempt : Cursor → Outcome ε α) (c : Cursor) :
    collectExactly attempt [] 0 c = success [] c := rfl

theorem collectExactly_one (attempt : Cursor → Outcome ε α) (c : Cursor) :
    collectExactly attempt [] 1 c = (attempt c).map fun a => [a] := by
  rw [collectExactly_succ]
  cases attempt c <;> rfl

/-- Attempts are made in two goes. -/
theorem collectExactly_add (attempt : Cursor → Outcome ε α) (m n : Nat) (c : Cursor) :
    collectExactly attempt [] (m + n) c =
      (collectExactly attempt [] m c).andThen fun as d =>
        (collectExactly attempt [] n d).map (as ++ ·) := by
  induction m generalizing c with
  | zero =>
    rw [Nat.zero_add, collectExactly_zero, andThen_success]
    cases collectExactly attempt [] n c <;> rfl
  | succ m ih =>
    rw [Nat.add_right_comm, collectExactly_succ, collectExactly_succ, andThen_andThen]
    congr 1
    funext a d
    rw [ih, map_andThen, andThen_map]
    congr 1
    funext as e
    rw [map_map]
    rfl

/-- What attempts come to that succeed from place to place. -/
theorem collectExactly_of_steps
    (hstep : ∀ (i : Nat) (hi : i < values.length),
      attempt (place i) = success values[i] (place (i + 1)))
    {n : Nat} (hn : n ≤ values.length) :
    collectExactly attempt [] n (place 0) = success (values.take n) (place n) := by
  induction n with
  | zero => rfl
  | succ n ih =>
    rw [collectExactly_add, ih (Nat.le_of_succ_le hn), andThen_success, collectExactly_one,
      hstep n hn, List.take_succ_eq_append_getElem hn]
    rfl

/-- An attempt that fails is the last one of any number of attempts. -/
theorem collectExactly_of_failure {f : Failure} (h : attempt c = failure f) {n : Nat}
    (hn : 0 < n) : collectExactly attempt [] n c = failure f := by
  obtain ⟨n, rfl⟩ := Nat.exists_eq_add_one_of_ne_zero (Nat.ne_of_gt hn)
  rw [collectExactly_succ, h]
  rfl

/-- An attempt that stays where it was is made again and again. -/
theorem collectExactly_of_still {a : α} (h : attempt c = success a c) (n : Nat) :
    collectExactly attempt [] n c = success (List.replicate n a) c := by
  induction n with
  | zero => rfl
  | succ n ih =>
    rw [collectExactly_succ, h, andThen_success, ih]
    rfl

/-! ## Attempts along a maximal run -/

namespace MaximalRun

theorem collectExactly_of_le (h : MaximalRun attempt c values d place) {n : Nat}
    (hn : n ≤ values.length) :
    collectExactly attempt [] n c = success (values.take n) (place n) := by
  rw [← h.first]
  exact collectExactly_of_steps h.step hn

/-- Beyond a run the attempts are made where the run ended. -/
theorem collectExactly_of_lt (h : MaximalRun attempt c values d place) {n : Nat}
    (hn : values.length < n) :
    collectExactly attempt [] n c =
      (collectExactly attempt [] (n - values.length) d).map (values ++ ·) := by
  have hcut : n = values.length + (n - values.length) := by omega
  have hrun := h.collectExactly_of_le (Nat.le_refl _)
  rw [List.take_length, h.last] at hrun
  conv => lhs; rw [hcut]
  rw [collectExactly_add, hrun]
  rfl

/-- The places of a run follow its first one. -/
theorem onward (h : MaximalRun attempt c values d place) (hp : Proceeds attempt c) {i : Nat}
    (hi : i ≤ values.length) : c.Onward (place i) := by
  induction i with
  | zero =>
    rw [h.first]
  | succ i ih =>
    have hplace := ih (Nat.le_of_succ_le hi)
    exact hplace.trans (hp.onward hplace (h.step i hi))

/-- If the last attempt of a run stayed where it was, then it was made where the run ended. -/
theorem exists_still (h : MaximalRun attempt c values d place) (hp : Proceeds attempt c) {m : Nat}
    (hm : values.length = m + 1) (hoff : (place m).offset = d.offset) :
    ∃ a, values.getLast? = some a ∧ attempt d = success a d := by
  have hlt : m < values.length := by omega
  have hstep := h.step m hlt
  have hlast : place (m + 1) = d := by
    rw [← hm]
    exact h.last
  rw [hlast] at hstep
  have hd := hp.onward (h.onward hp (Nat.le_of_lt hlt)) hstep
  have hplace : d = place m := eq_of_offset_eq hd.1 hoff.symm
  refine ⟨values[m], ?_, ?_⟩
  · rw [List.getLast?_eq_getElem?, hm, Nat.add_sub_cancel, List.getElem?_eq_getElem hlt]
  · rw [← hplace] at hstep
    exact hstep

end MaximalRun

end Outcome

namespace Parser

variable {κ : Type} {ν : κ → Type}

/-! ## At least one attempt -/

theorem run_oneOrMore_of_success {p : Parser ε ν α} {enter : (k : κ) → Cursor → Outcome ε (ν k)}
    {c d : Cursor} {a : α} (h : p.run enter c = success a d) :
    p.oneOrMore.run enter c = p.many.run enter c := collectOne_of_success h

theorem run_oneOrMore_of_failure {p : Parser ε ν α} {enter : (k : κ) → Cursor → Outcome ε (ν k)}
    {c : Cursor} {f : Failure} (h : p.run enter c = failure f) :
    p.oneOrMore.run enter c = failure (f.relocate c) := by
  show collectOne (p.run enter) c = _
  rw [collectOne_eq, h]

/-- A repetition is one with at least one attempt, or nothing. Only a failure is made good by the
second alternative, so this holds where a run is broken off as well. -/
theorem run_many_eq_orElse (p : Parser ε ν α) (enter : (k : κ) → Cursor → Outcome ε (ν k))
    (c : Cursor) :
    p.many.run enter c = (orElse p.oneOrMore (succeed [])).run enter c := by
  cases ho : p.run enter c with
  | failure f =>
    rw [run_orElse_of_failure (run_oneOrMore_of_failure ho)]
    exact collect_of_failure ho
  | broken cause =>
    have hone : p.oneOrMore.run enter c = broken cause := by
      show collectOne (p.run enter) c = _
      rw [collectOne, ho]
    rw [run_orElse_of_ne_failure (by simp [hone]), hone]
    exact collect_of_broken ho
  | success a d =>
    have hone := run_oneOrMore_of_success ho
    rw [run_orElse_of_ne_failure fun f => hone ▸ collect_ne_failure _ c f, hone]

/-- Behind a first success, `oneOrMore` succeeds as `many` does, with its value in front. -/
theorem exists_run_oneOrMore_of_success {p : Parser ε ν α}
    {enter : (k : κ) → Cursor → Outcome ε (ν k)} {c e : Cursor} {a : α}
    (h : Proceeds (p.run enter) c) (ho : p.run enter c = success a e) :
    ∃ as d, p.oneOrMore.run enter c = success (a :: as) d ∧
      p.many.run enter c = success (a :: as) d ∧ Loops (p.run enter) c (a :: as) d := by
  obtain ⟨values, d, hmany, hloop⟩ := exists_loops h
  obtain ⟨as, rfl⟩ := exists_cons_of_collect ho hmany
  refine ⟨as, d, ?_, hmany, hloop⟩
  rw [run_oneOrMore_of_success ho]
  exact hmany

theorem isSuccess_run_oneOrMore {p : Parser ε ν α} {enter : (k : κ) → Cursor → Outcome ε (ν k)}
    {c : Cursor} (h : Proceeds (p.run enter) c) :
    (p.oneOrMore.run enter c).isSuccess = (p.run enter c).isSuccess := by
  cases ho : p.run enter c with
  | success a e =>
    obtain ⟨as, d, hone, -⟩ := exists_run_oneOrMore_of_success h ho
    rw [hone]
    rfl
  | failure f =>
    rw [run_oneOrMore_of_failure ho]
    rfl
  | broken cause => exact absurd ho (h.unbroken (.refl c))

/-- **At least one attempt.** Let the successes of a parser never lie further back than where it was
applied, and let no run of it be broken off. Then `oneOrMore` succeeds where the parser does and
only there, with the values and the cursor of the run that `many` makes, whether the attempts of
this run read something or not. Everywhere else it fails for the reason that the parser has, where
it was applied. So `many` comes to what `oneOrMore` comes to, or succeeds with no values and reads
nothing. -/
theorem oneOrMore_agrees {p : Parser ε ν α} {enter : (k : κ) → Cursor → Outcome ε (ν k)}
    {c : Cursor} (h : Proceeds (p.run enter) c) :
    ((p.oneOrMore.run enter c).isSuccess = true ↔ (p.run enter c).isSuccess = true) ∧
      (∀ a e, p.run enter c = success a e → ∃ as d,
        p.oneOrMore.run enter c = success (a :: as) d ∧
          p.many.run enter c = success (a :: as) d ∧ Loops (p.run enter) c (a :: as) d) ∧
      ((p.run enter c).isSuccess = false → ∃ f, p.run enter c = failure f ∧
        p.oneOrMore.run enter c = failure ⟨f.reason, c⟩) ∧
      p.many.run enter c = (orElse p.oneOrMore (succeed [])).run enter c := by
  refine ⟨by rw [isSuccess_run_oneOrMore h],
    fun a e ho => exists_run_oneOrMore_of_success h ho, fun hs => ?_, run_many_eq_orElse p enter c⟩
  cases ho : p.run enter c with
  | success a e =>
    rw [ho] at hs
    cases hs
  | failure f => exact ⟨f, rfl, run_oneOrMore_of_failure ho⟩
  | broken cause => exact absurd ho (h.unbroken (.refl c))

/-- The first attempt reads a letter, the second one nothing; behind a letter that is not `a`, the
first attempt already reads nothing. -/
theorem oneOrMore_agrees_still :
    (∃ as d, letterOrNothing.oneOrMore.run (fun _ c => success () c)
        (between ['x'] "aé".toList) = success ("a" :: as) d ∧
      letterOrNothing.many.run (fun _ c => success () c) (between ['x'] "aé".toList) =
        success ("a" :: as) d ∧ as = [""]) ∧
      ∃ as d, letterOrNothing.oneOrMore.run (fun _ c => success () c)
          (between ['x'] ['é']) = success ("" :: as) d ∧
        letterOrNothing.many.run (fun _ c => success () c) (between ['x'] ['é']) =
          success ("" :: as) d ∧ as = [] := by
  have henter : ∀ _ : String, MovesForward fun c => (success () c : Outcome Empty Unit) :=
    fun _ c => ahead_success.2 (.refl c)
  have hletter : letterOrNothing.many.run (fun _ c => success () c) (between ['x'] "aé".toList) =
      success ["a", ""] (between ['a', 'x'] ['é']) := by decide +kernel
  have hnothing : letterOrNothing.many.run (fun _ c => success () c) (between ['x'] ['é']) =
      success [""] (between ['x'] ['é']) := by decide +kernel
  refine ⟨?_, ?_⟩
  · obtain ⟨as, d, hone, hmany, -⟩ :=
      (oneOrMore_agrees (proceeds_letterOrNothing _ henter (between ['x'] "aé".toList))).2.1 "a"
        (between ['a', 'x'] ['é']) (by decide +kernel)
    refine ⟨as, d, hone, hmany, ?_⟩
    rw [hletter] at hmany
    cases hmany
    rfl
  · obtain ⟨as, d, hone, hmany, -⟩ :=
      (oneOrMore_agrees (proceeds_letterOrNothing _ henter (between ['x'] ['é']))).2.1 ""
        (between ['x'] ['é']) (by decide +kernel)
    refine ⟨as, d, hone, hmany, ?_⟩
    rw [hnothing] at hmany
    cases hmany
    rfl

/-! ## A number of attempts -/

/-- **A number of attempts.** Let the successes of a parser never lie further back than where it was
applied, and let no run of it be broken off. The run that `many` makes says what any number `n` of
attempts comes to, as long as there is room for the values:

- the first `n` values of the run, at the place behind them, if there are so many;
- if there are fewer and an attempt failed behind them, a failure for the reason of this attempt,
  where the repetition started;
- if there are fewer and the last attempt stayed where it was, all values at the end of the run, the
  last one as often as it is needed.

If there is no room for the values, the repetition is broken off, whatever the attempts come to. -/
theorem exactly_agrees [Sized α] {p : Parser ε ν α} {enter : (k : κ) → Cursor → Outcome ε (ν k)}
    {c : Cursor} (h : Proceeds (p.run enter) c) (cause : ε) :
    ∃ values d place, p.many.run enter c = success values d ∧
      MaximalRun (p.run enter) c values d place ∧ ∀ n,
        (Room.holds α n = true →
          (n ≤ values.length →
            (p.exactly n cause).run enter c = success (values.take n) (place n)) ∧
          (values.length < n → ∀ f, p.run enter d = failure f →
            (p.exactly n cause).run enter c = failure ⟨f.reason, c⟩) ∧
          (values.length < n → ∀ m, values.length = m + 1 → (place m).offset = d.offset →
            ∃ a, values.getLast? = some a ∧ (p.exactly n cause).run enter c =
              success (values ++ List.replicate (n - values.length) a) d)) ∧
        (Room.holds α n = false → (p.exactly n cause).run enter c = broken cause) := by
  obtain ⟨values, d, hmany, hloop⟩ := exists_loops h
  obtain ⟨place, hrun⟩ := hloop.exists_maximalRun h
  refine ⟨values, d, place, hmany, hrun, fun n => ⟨fun hroom => ?_, fun hroom => ?_⟩⟩
  · have hexactly : (p.exactly n cause).run enter c =
        (collectExactly (p.run enter) [] n c).relocate c := if_pos hroom
    rw [hexactly]
    refine ⟨fun hn => ?enough, fun hn f hf => ?failed, fun hn m hm hoff => ?still⟩
    case enough =>
      rw [hrun.collectExactly_of_le hn]
      rfl
    case failed =>
      rw [hrun.collectExactly_of_lt hn, collectExactly_of_failure hf (by omega)]
      rfl
    case still =>
      obtain ⟨a, hlast, ha⟩ := hrun.exists_still h hm hoff
      refine ⟨a, hlast, ?_⟩
      rw [hrun.collectExactly_of_lt hn, collectExactly_of_still ha]
      rfl
  · show (if Room.holds α n = true then _ else _) = _
    rw [if_neg (by simp [hroom])]

/-- The letter `a`, or nothing, in a place where runs could be broken off. -/
def letterOrEmpty : Parser Fault (Uniform Unit) String := orElse (text (literal 'a')) (succeed "")

theorem proceeds_letterOrEmpty (enter : String → Cursor → Outcome Fault Unit)
    (henter : ∀ k, MovesForward (enter k)) (c : Cursor) :
    Proceeds (letterOrEmpty.run enter) c where
  onward _ ho := by
    have hleaves : letterOrEmpty.Leaves fun _ => MovesForward :=
      ⟨trivial, fun c => ahead_success.2 (.refl c)⟩
    exact (movesForward_run henter hleaves).onward ho
  unbroken {d cause} _ ho := by
    cases hletter : (text (literal 'a')).run enter d with
    | success a e =>
      rw [letterOrEmpty, run_orElse_of_ne_failure (by simp [hletter]), hletter] at ho
      cases ho
    | failure f =>
      rw [letterOrEmpty, run_orElse_of_failure hletter] at ho
      cases ho
    | broken cause => exact ofChar_ne_broken _ d cause (map_eq_broken.1 hletter)

/-- Two values are in the run. A third and a fourth one are those of an attempt that stays behind
the letter. -/
theorem exactly_agrees_still :
    letterOrEmpty.many.run (fun _ c => success () c) (between ['x'] "aé".toList) =
        success ["a", ""] (between ['a', 'x'] ['é']) ∧
      (letterOrEmpty.exactly 1 .noRoom).run (fun _ c => success () c)
        (between ['x'] "aé".toList) = success ["a"] (between ['a', 'x'] ['é']) ∧
      ∃ a, ["a", ""].getLast? = some a ∧
        (letterOrEmpty.exactly 4 .noRoom).run (fun _ c => success () c)
          (between ['x'] "aé".toList) =
            success (["a", ""] ++ List.replicate 2 a) (between ['a', 'x'] ['é']) := by
  have hmany : letterOrEmpty.many.run (fun _ c => success () c) (between ['x'] "aé".toList) =
      success ["a", ""] (between ['a', 'x'] ['é']) := by decide +kernel
  have henter : ∀ _ : String, MovesForward fun c => (success () c : Outcome Fault Unit) :=
    fun _ c => ahead_success.2 (.refl c)
  obtain ⟨values, d, place, hrun, hmax, hcount⟩ :=
    exactly_agrees (proceeds_letterOrEmpty _ henter (between ['x'] "aé".toList)) .noRoom
  rw [hmany] at hrun
  cases hrun
  -- the second attempt was made behind the letter, where the run ends
  have hfirst := hmax.step 0 (by decide)
  rw [hmax.first] at hfirst
  have hplace : place 1 = between ['a', 'x'] ['é'] := by
    have hletter : letterOrEmpty.run (fun _ c => success () c) (between ['x'] "aé".toList) =
        success "a" (between ['a', 'x'] ['é']) := by decide +kernel
    rw [hletter] at hfirst
    injection hfirst with _ hplace
    exact hplace.symm
  refine ⟨hmany, ?_, ?_⟩
  · rw [← hplace]
    exact ((hcount 1).1 (by decide)).1 (by decide)
  · exact ((hcount 4).1 (by decide)).2.2 (by decide) 1 rfl (by rw [hplace])

/-- The run of `many` ends with an attempt that fails at the end of the input. Where more values are
asked for than there is room for, this is not what the repetition reports. -/
theorem exactly_refused :
    (many any : Parser Fault (Uniform Unit) (List Char)).run (fun _ c => success () c)
        (.start "ab") = success ['a', 'b'] (between ['b', 'a'] []) ∧
      (any : Parser Fault (Uniform Unit) Char).run (fun _ c => success () c)
        (between ['b', 'a'] []) = failure ⟨.endOfInput, between ['b', 'a'] []⟩ ∧
      (exactly any 18446744073709551615 .noRoom : Parser Fault (Uniform Unit) (List Char)).run
        (fun _ c => success () c) (.start "ab") = broken .noRoom ∧
      (exactly any 18446744073709551615 .noRoom : Parser Fault (Uniform Unit) (List Char)).run
        (fun _ c => success () c) (.start "ab") ≠ failure ⟨.endOfInput, .start "ab"⟩ := by
  decide +kernel

end Parser

end TagMarkup

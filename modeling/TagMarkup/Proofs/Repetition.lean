import Mathlib.Tactic.Common
import TagMarkup.Parsing.Run

/-!
# Outcomes and repetitions

How outcomes are put together and where they come from, and how repetitions go on.

`collect` goes on until an attempt fails, reads nothing or is broken off, and each of these cases
has a lemma. What is proved about it goes along the same four cases, so the induction is done
once (`Outcome.collect_induction`), and a repetition of attempts is looked at by what a single
attempt does.

`collectOne` and `collectExactly` are brought to the same shape: both put the value of the first
attempt in front of those that follow.
-/

namespace TagMarkup

namespace Outcome

variable {ε α β γ : Type}

/-! ## Going on -/

@[simp] theorem map_success (f : α → β) (a : α) (c : Cursor) :
    (success a c : Outcome ε α).map f = success (f a) c := rfl

@[simp] theorem andThen_success (a : α) (c : Cursor) (f : α → Cursor → Outcome ε β) :
    (success a c).andThen f = f a c := rfl

@[simp] theorem andThen_failure (e : Failure) (f : α → Cursor → Outcome ε β) :
    (failure e).andThen f = failure e := rfl

@[simp] theorem andThen_broken (cause : ε) (f : α → Cursor → Outcome ε β) :
    (broken cause).andThen f = broken cause := rfl

theorem map_map (o : Outcome ε α) (f : α → β) (g : β → γ) :
    (o.map f).map g = o.map fun a => g (f a) := by
  cases o <;> rfl

theorem andThen_andThen (o : Outcome ε α) (f : α → Cursor → Outcome ε β)
    (g : β → Cursor → Outcome ε γ) :
    (o.andThen f).andThen g = o.andThen fun a c => (f a c).andThen g := by
  cases o <;> rfl

theorem andThen_map (o : Outcome ε α) (f : α → β) (g : β → Cursor → Outcome ε γ) :
    (o.map f).andThen g = o.andThen fun a c => g (f a) c := by
  cases o <;> rfl

theorem map_andThen (o : Outcome ε α) (f : α → Cursor → Outcome ε β) (g : β → γ) :
    (o.andThen f).map g = o.andThen fun a c => (f a c).map g := by
  cases o <;> rfl

/-! ## Where successes come from -/

theorem map_eq_success {o : Outcome ε α} {f : α → β} {b : β} {d : Cursor} :
    o.map f = success b d ↔ ∃ a, o = success a d ∧ f a = b := by
  cases o with
  | success a c => simp [map, and_comm]
  | failure e => simp [map]
  | broken cause => simp [map]

/-- What goes on after a success succeeds only behind one. -/
theorem andThen_eq_success {o : Outcome ε α} {f : α → Cursor → Outcome ε β} {b : β}
    {d : Cursor} :
    o.andThen f = success b d ↔ ∃ a c, o = success a c ∧ f a c = success b d := by
  cases o with
  | success a c => simp [andThen]
  | failure e => simp [andThen]
  | broken cause => simp [andThen]

theorem relocate_eq_success {o : Outcome ε α} {a : α} {c d : Cursor} :
    o.relocate c = success a d ↔ o = success a d := by
  cases o <;> simp [relocate]

/-- What is accepted on a condition is a success only where the condition holds. -/
theorem ite_eq_success {P : Prop} [Decidable P] {f : Failure} {a b : α} {c d : Cursor} :
    (if P then success a c else failure f : Outcome ε α) = success b d ↔
      P ∧ a = b ∧ c = d := by
  by_cases h : P <;> simp [h]

/-! ## Where runs are broken off -/

theorem map_eq_broken {o : Outcome ε α} {f : α → β} {cause : ε} :
    o.map f = broken cause ↔ o = broken cause := by
  cases o <;> simp [map]

/-- A character is read or refused, and neither breaks a run off. -/
theorem ofChar_ne_broken (refuse : Char → Option Reason) (c : Cursor) (cause : ε) :
    (ofChar refuse c : Outcome ε Char) ≠ broken cause := by
  unfold ofChar
  cases c.next? with
  | none => nofun
  | some read =>
    dsimp only
    cases refuse read.1 <;> nofun

/-! ## Repetition -/

section Collect

variable {attempt : Cursor → Outcome ε α} {c d : Cursor} {a : α}

/-- What was found before only stands in front of what is found later. -/
theorem collect_eq_map (attempt : Cursor → Outcome ε α) (found : List α) (c : Cursor) :
    collect attempt found c = (collect attempt [] c).map (found.reverse ++ ·) := by
  induction h : c.remaining using Nat.strongRecOn generalizing c found with
  | _ n ih =>
    rw [collect, collect]
    cases attempt c with
    | failure f => simp [Outcome.map]
    | broken cause => rfl
    | success a d =>
      dsimp only
      split_ifs with hlt
      · rw [ih _ (h ▸ hlt) (a :: found) d rfl, ih _ (h ▸ hlt) [a] d rfl]
        cases collect attempt [] d <;> simp [Outcome.map]
      · simp [Outcome.map]

/-- A failing attempt ends a repetition and leaves no trace. -/
theorem collect_of_failure {f : Failure} (h : attempt c = failure f) :
    collect attempt [] c = success [] c := by
  rw [collect, h]
  rfl

theorem collect_of_broken {cause : ε} (h : attempt c = broken cause) :
    collect attempt [] c = broken cause := by
  rw [collect, h]

/-- An attempt that reads nothing is the last one, and its value counts. -/
theorem collect_of_still (h : attempt c = success a d) (hlt : ¬ d.remaining < c.remaining) :
    collect attempt [] c = success [a] d := by
  rw [collect, h]
  dsimp only
  rw [if_neg hlt]
  rfl

/-- An attempt that reads something puts its value in front of the values that follow. -/
theorem collect_of_success (h : attempt c = success a d) (hlt : d.remaining < c.remaining) :
    collect attempt [] c = (collect attempt [] d).map (a :: ·) := by
  rw [collect, h]
  dsimp only
  rw [if_pos hlt, collect_eq_map]
  rfl

/-- One step of a repetition, whatever the attempt comes to. -/
theorem collect_step (attempt : Cursor → Outcome ε α) (c : Cursor) :
    collect attempt [] c =
      match attempt c with
      | success a d =>
        if d.remaining < c.remaining then (collect attempt [] d).map (a :: ·) else success [a] d
      | failure _ => success [] c
      | broken cause => broken cause := by
  cases ho : attempt c with
  | failure f => exact collect_of_failure ho
  | broken cause => exact collect_of_broken ho
  | success a d =>
    dsimp only
    split_ifs with hlt
    · exact collect_of_success ho hlt
    · exact collect_of_still ho hlt

/-- **Induction along a repetition.** The measure is the number of unread characters: the
repetition goes on only behind an attempt that made it smaller. -/
theorem collect_induction {P : Cursor → Outcome ε (List α) → Prop}
    (failed : ∀ c f, attempt c = failure f → P c (success [] c))
    (brokenOff : ∀ c cause, attempt c = broken cause → P c (broken cause))
    (still : ∀ c a d, attempt c = success a d → ¬ d.remaining < c.remaining → P c (success [a] d))
    (goesOn : ∀ c a d, attempt c = success a d → d.remaining < c.remaining →
      P d (collect attempt [] d) → P c ((collect attempt [] d).map (a :: ·)))
    (c : Cursor) : P c (collect attempt [] c) := by
  induction h : c.remaining using Nat.strongRecOn generalizing c with
  | _ n ih =>
    cases ho : attempt c with
    | failure f =>
      rw [collect_of_failure ho]
      exact failed c f ho
    | broken cause =>
      rw [collect_of_broken ho]
      exact brokenOff c cause ho
    | success a d =>
      by_cases hlt : d.remaining < c.remaining
      · rw [collect_of_success ho hlt]
        exact goesOn c a d ho hlt (ih _ (h ▸ hlt) d rfl)
      · rw [collect_of_still ho hlt]
        exact still c a d ho hlt

/-- A repetition looks at its attempts only where something is left of what it started with. -/
theorem collect_congr {f g : Cursor → Outcome ε α}
    (h : ∀ d, d.remaining ≤ c.remaining → f d = g d) : collect f [] c = collect g [] c := by
  refine collect_induction
    (P := fun c o => (∀ d, d.remaining ≤ c.remaining → f d = g d) → o = collect g [] c)
    ?failed ?brokenOff ?still ?goesOn c h
  case failed =>
    intro c e ho h
    rw [h c (Nat.le_refl _)] at ho
    exact (collect_of_failure ho).symm
  case brokenOff =>
    intro c cause ho h
    rw [h c (Nat.le_refl _)] at ho
    exact (collect_of_broken ho).symm
  case still =>
    intro c a d ho hlt h
    rw [h c (Nat.le_refl _)] at ho
    exact (collect_of_still ho hlt).symm
  case goesOn =>
    intro c a d ho hlt ih h
    rw [h c (Nat.le_refl _)] at ho
    rw [ih fun e he => h e (by omega), collect_of_success ho hlt]

/-- The value of the first attempt comes first. -/
theorem exists_cons_of_collect {e : Cursor} {as : List α} (h : attempt c = success a d)
    (hs : collect attempt [] c = success as e) : ∃ as', as = a :: as' := by
  by_cases hlt : d.remaining < c.remaining
  · rw [collect_of_success h hlt] at hs
    obtain ⟨as', -, has⟩ := map_eq_success.1 hs
    exact ⟨as', has.symm⟩
  · rw [collect_of_still h hlt] at hs
    injection hs with has _
    exact ⟨[], has.symm⟩

/-! ## At least one attempt -/

/-- Behind a first success, `collectOne` goes on as `collect` does. -/
theorem collectOne_of_success (h : attempt c = success a d) :
    collectOne attempt c = collect attempt [] c := by
  rw [collect, collectOne, h]
  rfl

/-- `collectOne` differs from `collect` only where the first attempt fails. -/
theorem collectOne_eq (attempt : Cursor → Outcome ε α) (c : Cursor) :
    collectOne attempt c =
      match attempt c with
      | failure f => failure (f.relocate c)
      | _ => collect attempt [] c := by
  cases ho : attempt c with
  | failure f => rw [collectOne, ho]
  | broken cause => rw [collectOne, collect, ho]
  | success a d => exact collectOne_of_success ho

/-! ## A number of attempts -/

/-- What was found before only stands in front of what is found later. -/
theorem collectExactly_eq_map (attempt : Cursor → Outcome ε α) (found : List α) (n : Nat)
    (c : Cursor) :
    collectExactly attempt found n c =
      (collectExactly attempt [] n c).map (found.reverse ++ ·) := by
  induction n generalizing found c with
  | zero => simp [collectExactly]
  | succ n ih =>
    rw [collectExactly, collectExactly]
    cases attempt c with
    | failure f => rfl
    | broken cause => rfl
    | success a d =>
      simp only [andThen]
      rw [ih (a :: found), ih [a], map_map]
      simp

/-- The first of a number of attempts puts its value in front of the values that follow. -/
theorem collectExactly_succ (attempt : Cursor → Outcome ε α) (n : Nat) (c : Cursor) :
    collectExactly attempt [] (n + 1) c =
      (attempt c).andThen fun a d => (collectExactly attempt [] n d).map (a :: ·) := by
  rw [collectExactly]
  refine congrArg _ (funext fun a => funext fun d => ?_)
  rw [collectExactly_eq_map]
  rfl

end Collect

end Outcome

end TagMarkup

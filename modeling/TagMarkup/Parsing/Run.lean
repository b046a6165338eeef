import TagMarkup.Parsing.Parser

/-!
# Running parsers

`Parser.run enter p c` applies the parser `p` at the cursor `c`, where `enter` says what the
cells do.

**Repetition.** A repetition ends with the first attempt that fails or reads nothing. An
attempt that reads nothing still counts, and what a failing attempt read is given back.

**Where failures are reported.**

- A primitive that refuses a character reports it behind the character. At the end of the input
  it reports its own place.
- A sequence reports the failure of the part that fails, unchanged.
- An alternative reports what its second parser reports.
- `oneOrMore` and `exactly` report the reason of the failing attempt where they started.
- A validation reports where it started, and `toEnd` behind the value.

**Breaking off.** Nothing is tried after a cause that breaks the run off. It comes out of a
cell, out of a function, or out of `exactly` when there is no room for its values.
-/

namespace TagMarkup

variable {ε α β γ : Type}

namespace Outcome

/-- Reads one character, unless it is refused for a reason. -/
def ofChar (refuse : Char → Option Reason) (c : Cursor) : Outcome ε Char :=
  match c.next? with
  | none => failure ⟨.endOfInput, c⟩
  | some (x, d) =>
    match refuse x with
    | none => success x d
    | some reason => failure ⟨reason, d⟩

/-- Goes on collecting values behind `found`, the last one first, until an attempt fails or
reads nothing. -/
def collect (attempt : Cursor → Outcome ε α) (found : List α) (c : Cursor) :
    Outcome ε (List α) :=
  match attempt c with
  | success a d =>
    if d.remaining < c.remaining then collect attempt (a :: found) d
    else success (a :: found).reverse d
  | failure _ => success found.reverse c
  | broken cause => broken cause
termination_by c.remaining

/-- Makes one attempt, whose failure is reported where it started, and goes on collecting. -/
def collectOne (attempt : Cursor → Outcome ε α) (c : Cursor) : Outcome ε (List α) :=
  match attempt c with
  | success a d => if d.remaining < c.remaining then collect attempt [a] d else success [a] d
  | failure e => failure (e.relocate c)
  | broken cause => broken cause

/-- Makes the given number of attempts behind `found`, the last value first; the first failure
ends them. -/
def collectExactly (attempt : Cursor → Outcome ε α) (found : List α) :
    Nat → Cursor → Outcome ε (List α)
  | 0, c => success found.reverse c
  | n + 1, c => (attempt c).andThen fun a d => collectExactly attempt (a :: found) n d

end Outcome

namespace Parser

open Outcome

variable {κ : Type} {ν : κ → Type}

/-- Applies a parser at a cursor; `enter` says what the cells do. -/
def run (enter : (k : κ) → Cursor → Outcome ε (ν k)) :
    {α : Type} → Parser ε ν α → Cursor → Outcome ε α
  | _, any, c => ofChar (fun _ => none) c
  | _, literal expected, c =>
    ofChar (fun x => if x = expected then none else some (.mismatch x expected)) c
  | _, satisfy test label, c =>
    ofChar (fun x => if test x then none else some (.unsatisfied x label)) c
  | _, noneOf excluded, c =>
    ofChar (fun x => if x ∈ excluded then some (.excluded x) else none) c
  | _, ofFn f, c => f c
  | _, cell k, c => enter k c
  | _, sequence p q f, c => (p.run enter c).andThen fun a d => (q.run enter d).map (f a)
  | _, sequenceIf p q f fit, c =>
    (p.run enter c).andThen fun a d =>
      (q.run enter d).andThen fun b e =>
        if fit a b then success (f a b) e else failure ⟨.validationFailed, c⟩
  | _, orElse p q, c =>
    match p.run enter c with
    | .failure _ => q.run enter c
    | o => o
  | _, many p, c => collect (p.run enter) [] c
  | _, oneOrMore p, c => collectOne (p.run enter) c
  | _, @exactly _ _ _ α _ p count cause, c =>
    if Room.holds α count then (collectExactly (p.run enter) [] count c).relocate c
    else broken cause
  | _, map p f, c => (p.run enter c).map f
  | _, validate p valid, c =>
    (p.run enter c).andThen fun a d =>
      if valid a then success a d else failure ⟨.validationFailed, c⟩
  | _, toEnd p, c =>
    (p.run enter c).andThen fun a d =>
      if d.atEnd then success a d else failure ⟨.trailingInput, d⟩
  | _, shared p, c => p.run enter c

section OrElse

variable {p q : Parser ε ν α} {enter : (k : κ) → Cursor → Outcome ε (ν k)} {c : Cursor}

/-- The second alternative is looked at only behind a failure of the first one. -/
theorem run_orElse_of_failure {f : Failure} (h : p.run enter c = failure f) :
    (orElse p q).run enter c = q.run enter c := by
  rw [run, h]

theorem run_orElse_of_ne_failure (h : ∀ f, p.run enter c ≠ failure f) :
    (orElse p q).run enter c = p.run enter c := by
  rw [run]
  cases ho : p.run enter c with
  | success a d => rfl
  | failure f => exact absurd ho (h f)
  | broken cause => rfl

end OrElse

end Parser

end TagMarkup

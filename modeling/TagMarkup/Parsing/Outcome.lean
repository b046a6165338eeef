import TagMarkup.Parsing.Reason

/-!
# Outcomes

Applying a parser to a cursor has an outcome: a value and the cursor behind what was read, or a
failure. A run may also be broken off, for a cause of type `ε`; a cause is no failure, since no
alternative is tried after it. A run that cannot be broken off has `ε = Empty`.
-/

namespace TagMarkup

/-- What applying a parser comes to. -/
inductive Outcome (ε α : Type) where
  /-- A value was read; the cursor is behind it. -/
  | success (value : α) (next : Cursor)
  | failure (failure : Failure)
  /-- The run was broken off. -/
  | broken (cause : ε)
deriving DecidableEq

namespace Outcome

variable {ε α β : Type}

/-- Applies a function to the value of a success. -/
def map (f : α → β) : Outcome ε α → Outcome ε β
  | success a c => success (f a) c
  | failure e => failure e
  | broken e => broken e

/-- Goes on after a success, with its value and its cursor. -/
def andThen (o : Outcome ε α) (f : α → Cursor → Outcome ε β) : Outcome ε β :=
  match o with
  | success a c => f a c
  | failure e => failure e
  | broken e => broken e

/-- Reports a failure at another cursor. -/
def relocate (c : Cursor) : Outcome ε α → Outcome ε α
  | failure e => failure (e.relocate c)
  | o => o

/-- Whether a value was read. -/
def isSuccess : Outcome ε α → Bool
  | success .. => true
  | _ => false

/-- Whether the parser failed. -/
def isFailure : Outcome ε α → Bool
  | failure _ => true
  | _ => false

/-- What is said to someone who asks a failure for its value. -/
def noValueMessage (accessor : String) (f : Failure) : String :=
  "called `Outcome::" ++ accessor ++ "()` on a failure: " ++ f.message

end Outcome

end TagMarkup

import TagMarkup.Text.Cursor
import TagMarkup.Text.Quoted

/-!
# Failures

A parser fails for a reason and at a cursor. The reasons are those of the parsers themselves:
the primitives meet the end of the input or a character they refuse, a validation rejects a
value, and an anchored parser leaves input unread.
-/

namespace TagMarkup

/-- Why a parser failed. -/
inductive Reason where
  /-- A character was needed and none was left. -/
  | endOfInput
  /-- Another character was found than the one expected. -/
  | mismatch (found expected : Char)
  /-- A character was found that is not allowed here. -/
  | excluded (found : Char)
  /-- A character was found that is not of the kind described. -/
  | unsatisfied (found : Char) (expected : String)
  /-- A value was parsed and rejected. -/
  | validationFailed
  /-- Input was left unread. -/
  | trailingInput
deriving DecidableEq

namespace Reason

/-- The reason in words. -/
def message : Reason → String
  | endOfInput => "reached end of input"
  | mismatch found expected =>
    "found `" ++ Quoted.shown found ++ "`, expected `" ++ Quoted.shown expected ++ "`"
  | excluded found => "unexpected `" ++ Quoted.shown found ++ "`"
  | unsatisfied found expected => "found `" ++ Quoted.shown found ++ "`, expected " ++ expected
  | validationFailed => "validation failed"
  | trailingInput => "cannot reach end of input"

/-- The reason by its name and its fields, for inspection. -/
def inspect : Reason → String
  | endOfInput => "EndOfInput"
  | mismatch found expected =>
    "Mismatch \x7b found: " ++ Quoted.character found ++ ", expected: " ++
      Quoted.character expected ++ " \x7d"
  | excluded found => "Excluded \x7b found: " ++ Quoted.character found ++ " \x7d"
  | unsatisfied found expected =>
    "Unsatisfied \x7b found: " ++ Quoted.character found ++ ", expected: " ++
      Quoted.text expected ++ " \x7d"
  | validationFailed => "ValidationFailed"
  | trailingInput => "TrailingInput"

end Reason

/-- A reason and the cursor it is reported at. -/
structure Failure where
  reason : Reason
  cursor : Cursor
deriving DecidableEq

namespace Failure

/-- The failure in words, with line and column. -/
def message (f : Failure) : String :=
  "Failed on " ++ f.cursor.position.render ++ ": " ++ f.reason.message

/-- The same reason, reported at another cursor. -/
def relocate (f : Failure) (c : Cursor) : Failure := { f with cursor := c }

end Failure

end TagMarkup

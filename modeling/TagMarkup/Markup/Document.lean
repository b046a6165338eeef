import TagMarkup.Markup.Grammar
import TagMarkup.Markup.Render

/-!
# Documents

A document is a text that the grammar accepts as a whole. `parseDocument` gives its tree, or
tells where and why the text is rejected.
-/

namespace TagMarkup

/-- Why and where a text was rejected. -/
structure ParseError where
  reason : Reason
  position : Position
  /-- The number of bytes before the place. -/
  offset : Nat
deriving DecidableEq

namespace ParseError

/-- The error of a parser's failure. -/
def ofFailure (f : Failure) : ParseError := ⟨f.reason, f.cursor.position, f.cursor.offset⟩

/-- The error in words. -/
def message (e : ParseError) : String :=
  "Failed on " ++ e.position.render ++ ": " ++ e.reason.message

end ParseError

/-- Applies the grammar to a whole text. -/
def parse (text : String) : Outcome Empty Node := Grammar.apply Grammar.root (Cursor.start text)

/-- The tree of a document, or the reason why the text is none. -/
def parseDocument (text : String) : Except ParseError Node :=
  match parse text with
  | .success root _ => .ok root
  | .failure f => .error (.ofFailure f)

namespace Node

/-- Whether the markup of a tree is a document with an equal tree. -/
def roundTrips (n : Node) : Bool :=
  match parseDocument n.render with
  | .ok m => m = n
  | .error _ => false

end Node

end TagMarkup

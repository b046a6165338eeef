import TagMarkup.Markup.Node
import TagMarkup.Parsing.Run

/-!
# The grammar of documents

A document is a sequence of tags and texts up to the end of the input:

* a text is a non-empty run of characters other than `<` and `>`;
* a tag is a start tag, a sequence of tags and texts, and an end tag of the same name;
* a start tag holds a name and attributes with distinct keys; names and keys are non-empty runs
  of letters and digits, and a value is any run of characters other than `"`.

The rules are parsers with one cell, which stands for the sequence of tags and texts inside a
tag. `content` says what that cell does. It enters itself again behind a start tag, so strictly
later in the input, and that is what it asks for.
-/

namespace TagMarkup

namespace Grammar

/-- A parser of the grammar. Its cell yields what is inside a tag, and nothing breaks its runs
off. -/
abbrev Rule (α : Type) := Parser Empty (Uniform (List Node)) α

/-- The name of the cell. -/
def contentCell : String := "inner_content"

/-- What a start tag holds. -/
structure StartTag where
  name : String
  attributes : Attributes
deriving DecidableEq

/-- Whether no key of the entries was seen before, where `seen` holds the keys in front of them. -/
def newKeys (seen : List String) : List (String × String) → Bool
  | [] => true
  | (key, _) :: es => if key ∈ seen then false else newKeys (key :: seen) es

/-- Whether the keys of the entries are pairwise distinct: one after the other, none of them was
seen before. -/
def distinctKeys (es : List (String × String)) : Bool := newKeys [] es

/-- The keys are distinct, and none of them is among those in front. -/
theorem newKeys_iff {seen : List String} {es : List (String × String)} :
    newKeys seen es = true ↔ (es.map Prod.fst).Nodup ∧ ∀ e ∈ es, e.1 ∉ seen := by
  induction es generalizing seen with
  | nil => simp [newKeys]
  | cons e es ih =>
    obtain ⟨key, value⟩ := e
    by_cases hkey : key ∈ seen
    · simp [newKeys, hkey]
    · rw [newKeys, if_neg hkey, ih, List.map_cons, List.nodup_cons, List.forall_mem_cons]
      simp only [List.mem_map, List.mem_cons, not_or]
      refine ⟨fun ⟨hnd, hnew⟩ => ?_, fun ⟨⟨hnot, hnd⟩, _, hold⟩ => ?_⟩
      · refine ⟨⟨fun ⟨e, he, heq⟩ => ?_, hnd⟩, hkey, fun e he => (hnew e he).2⟩
        exact (hnew e he).1 heq
      · exact ⟨hnd, fun e he => ⟨fun heq => hnot ⟨e, he, heq⟩, hold e he⟩⟩

theorem distinctKeys_iff {es : List (String × String)} :
    distinctKeys es = true ↔ (es.map Prod.fst).Nodup := by
  simp [distinctKeys, newKeys_iff]

open TagMarkup.Parser

/-! ## Lexical rules -/

/-- A name or a key. -/
def name : Rule String := text (oneOrMore letterOrDigit)

/-- Optional white space. -/
def gap : Rule (List Char) := many whitespace

/-- The value of an attribute, up to the closing quotation mark. -/
def value : Rule String := text (many (noneOf ['"']))

/-! ## Tags -/

/-- An attribute: `key="value"`. -/
def entry : Rule (String × String) :=
  left (sequence (left (left name (literal '=')) (literal '"')) value Prod.mk) (literal '"')

/-- Attributes, each after white space. -/
def entries : Rule Attributes :=
  map (validate (many (right (oneOrMore whitespace) entry)) distinctKeys) Attributes.ofList

/-- A start tag. -/
def startTag : Rule StartTag :=
  left (left (sequence (right (literal '<') name) entries StartTag.mk) gap) (literal '>')

/-- An end tag; its value is the name. -/
def endTag : Rule String :=
  left (left (right (neither (neither (literal '<') (literal '/')) gap) name) gap) (literal '>')

/-- A start tag, what is inside it, and an end tag of the same name. -/
def tag : Rule Node :=
  sequenceIf (sequence startTag (cell contentCell) Prod.mk) endTag
    (fun opened _ => .tag opened.1.name opened.1.attributes opened.2)
    (fun opened closed => opened.1.name = closed)

/-! ## Documents -/

/-- A non-empty run of characters other than `<` and `>`. -/
def plainText : Rule String := text (oneOrMore (noneOf ['<', '>']))

/-- Tags and texts, as many as there are. -/
def innerContent : Rule (List Node) := many (orElse tag (map plainText .text))

/-- Tags and texts up to the end of the input. -/
def root : Rule Node := map (toEnd innerContent) .inner

/-! ## Running the rules -/

/-- Reads what is inside a tag. Inside of it, it reads what is inside a tag only strictly later
in the input; a start tag has been read by then. -/
def content (c : Cursor) : Outcome Empty (List Node) :=
  innerContent.run (fun _ d =>
    if d.remaining < c.remaining then content d else .failure ⟨.validationFailed, d⟩) c
termination_by c.remaining

/-- Applies a rule at a cursor. -/
def apply {α : Type} (rule : Rule α) (c : Cursor) : Outcome Empty α :=
  rule.run (fun _ => content) c

end Grammar

end TagMarkup

import Mathlib.Tactic.Common
import TagMarkup.Markup.Grammar

/-!
# Derivations

The grammar of documents, written down as a relation between texts and trees and without any
parser: `Derives w ns` says that `w` is a sequence of tags and texts and that `ns` are its nodes.

A derivation may cut a run of plain characters into texts as it likes. The nodes are the same
for every cut, because texts that follow each other become one (`Node.join`). The attributes of a
tag hold the entries of its start tag, whatever their order, and no two of them have one key.
-/

namespace TagMarkup

/-! ## Joining sequences of nodes -/

namespace Node

/-- Two sequences of nodes in a row. A text at the end of the first one and a text at the start
of the second one become one text. -/
def join (ns ms : List Node) : List Node :=
  match ns.getLast?, ms with
  | some (.text s), .text t :: ms => ns.dropLast ++ .text (s ++ t) :: ms
  | _, ms => ns ++ ms

@[simp] theorem join_nil_left (ms : List Node) : join [] ms = ms := rfl

@[simp] theorem join_nil_right (ns : List Node) : join ns [] = ns := by
  unfold join
  split <;> simp_all

theorem join_cons_cons (n m : Node) (ns ms : List Node) :
    join (n :: m :: ns) ms = n :: join (m :: ns) ms := by
  unfold join
  rw [List.getLast?_cons_cons]
  split <;> simp

@[simp] theorem join_text_text (s t : String) (ms : List Node) :
    join [.text s] (.text t :: ms) = .text (s ++ t) :: ms := rfl

/-- A node that is no text stays as it is, whatever follows. -/
theorem join_cons {n : Node} (hn : n.content? = none) (ns ms : List Node) :
    join (n :: ns) ms = n :: join ns ms := by
  cases ns with
  | nil => cases n <;> first | rfl | cases hn
  | cons m ns => rw [join_cons_cons]

/-- A text stays as it is in front of a node that is no text. -/
theorem join_text_cons {n : Node} (hn : n.content? = none) (s : String) (ms : List Node) :
    join [.text s] (n :: ms) = .text s :: n :: ms := by
  cases n <;> first | rfl | cases hn

theorem join_text_assoc (s : String) (ns ms : List Node) :
    join (join [.text s] ns) ms = join [.text s] (join ns ms) := by
  cases ns with
  | nil => rfl
  | cons n ns =>
    by_cases hn : n.content? = none
    · rw [join_text_cons hn, join_cons_cons, join_cons hn, join_text_cons hn]
    · obtain ⟨t, rfl⟩ : ∃ t, n = .text t := by
        cases n <;> simp_all [content?]
      rw [join_text_text]
      cases ns with
      | cons m ns => simp [join_cons_cons]
      | nil =>
        cases ms with
        | nil => simp
        | cons m ms => cases m <;> simp [join, String.append_assoc]

end Node

/-! ## Lexical rules -/

/-- A name or a key: letters and digits, at least one. -/
def IsName (w : List Char) : Prop := w ≠ [] ∧ ∀ x ∈ w, isAlphanumeric x = true

/-- White space, possibly none. -/
def IsBlank (w : List Char) : Prop := ∀ x ∈ w, isWhiteSpace x = true

/-- The value of an attribute: anything without a quotation mark. -/
def IsValue (w : List Char) : Prop := ∀ x ∈ w, x ≠ '"'

/-- A text: anything without angle brackets, at least one character. -/
def IsPlain (w : List Char) : Prop := w ≠ [] ∧ ∀ x ∈ w, x ≠ '<' ∧ x ≠ '>'

instance : DecidablePred IsName := fun w =>
  @instDecidableAnd _ _ _ (List.decidableBAll (isAlphanumeric · = true) w)
instance : DecidablePred IsBlank := fun w => List.decidableBAll (isWhiteSpace · = true) w
instance : DecidablePred IsValue := fun w => List.decidableBAll (· ≠ '"') w
instance : DecidablePred IsPlain := fun w =>
  @instDecidableAnd _ _ _ (List.decidableBAll (fun x => x ≠ '<' ∧ x ≠ '>') w)

/-! ## Tags -/

/-- `key="value"` -/
inductive DerivesEntry : List Char → String × String → Prop
  | mk {key value : List Char} : IsName key → IsValue value →
      DerivesEntry (key ++ '=' :: '"' :: value ++ ['"']) (.ofList key, .ofList value)

/-- Attributes, each after white space. -/
inductive DerivesEntries : List Char → List (String × String) → Prop
  | nil : DerivesEntries [] []
  | cons {blank w v : List Char} {e : String × String} {es : List (String × String)} :
      blank ≠ [] → IsBlank blank → DerivesEntry w e → DerivesEntries v es →
      DerivesEntries (blank ++ w ++ v) (e :: es)

/-- `<name`, attributes with distinct keys, optional white space, `>` -/
inductive DerivesStart : List Char → Grammar.StartTag → Prop
  | mk {name v gap : List Char} {es : List (String × String)} {a : Attributes} :
      IsName name → DerivesEntries v es → (es.map Prod.fst).Nodup → a.entries.Perm es →
      IsBlank gap → DerivesStart ('<' :: name ++ v ++ gap ++ ['>']) ⟨.ofList name, a⟩

/-- `</`, a name between optional white space, `>` -/
inductive DerivesEnd : List Char → String → Prop
  | mk {gap name gap' : List Char} : IsBlank gap → IsName name → IsBlank gap' →
      DerivesEnd ('<' :: '/' :: gap ++ name ++ gap' ++ ['>']) (.ofList name)

/-! ## Documents -/

mutual

/-- Tags and texts in any order, with the nodes they stand for. -/
inductive Derives : List Char → List Node → Prop
  | nil : Derives [] []
  | text {w v : List Char} {ns : List Node} :
      IsPlain w → Derives v ns → Derives (w ++ v) (Node.join [.text (.ofList w)] ns)
  | tag {w v : List Char} {n : Node} {ns : List Node} :
      DerivesTag w n → Derives v ns → Derives (w ++ v) (n :: ns)

/-- A start tag, what is inside it, and an end tag of the same name. -/
inductive DerivesTag : List Char → Node → Prop
  | mk {s w e : List Char} {st : Grammar.StartTag} {body : List Node} :
      DerivesStart s st → Derives w body → DerivesEnd e st.name →
      DerivesTag (s ++ w ++ e) (.tag st.name st.attributes body)

end

/-- A whole text with its tree. -/
def DerivesDocument (w : List Char) (tree : Node) : Prop :=
  ∃ ns, tree = .inner ns ∧ Derives w ns

end TagMarkup

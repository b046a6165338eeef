import TagMarkup.Markup.Attributes

/-!
# Document trees

A document is a tree of tags, sequences and texts. The body of a tag is a sequence of nodes;
the root of a parsed document is such a sequence too. The constructors check nothing: which
trees a parser yields is said elsewhere.

`Node.preorder` lists the nodes of a tree with their depths, the body of a tag being a node of
its own between the tag and its children. Two trees are compared by `Node.decEq`.
-/

namespace TagMarkup

/-- A node of a document tree. -/
inductive Node where
  | tag (name : String) (attributes : Attributes) (body : List Node)
  | inner (children : List Node)
  | text (content : String)
deriving Inhabited

namespace Node

/-! ## Parts of a node -/

/-- What kind of node it is. -/
def kind : Node → String
  | tag .. => "Tag"
  | inner _ => "Inner"
  | text _ => "Text"

/-- The name of a tag. -/
def tagName? : Node → Option String
  | tag name .. => some name
  | _ => none

/-- The children of a sequence, a tag's body not counting as one. -/
def innerChildren? : Node → Option (List Node)
  | inner cs => some cs
  | _ => none

/-- The content of a text. -/
def content? : Node → Option String
  | text s => some s
  | _ => none

/-- The value of an attribute of a tag. -/
def attribute? (key : String) : Node → Option String
  | tag _ a _ => a.get? key
  | _ => none

/-- The children of a sequence or of a tag's body. -/
def children? : Node → Option (List Node)
  | tag _ _ b => some b
  | inner cs => some cs
  | text _ => none

/-- A node inside so many tags of one name, without attributes. -/
def nest (name : String) : Nat → Node → Node
  | 0, n => n
  | k + 1, n => nest name k (.tag name .empty [n])

/-! ## Equality -/

mutual

/-- Decides whether two nodes are equal. -/
def decEq : (a b : Node) → Decidable (a = b)
  | text s, text t => if h : s = t then isTrue (h ▸ rfl) else isFalse fun e => by simp_all
  | inner as, inner bs =>
    match decEqList as bs with
    | isTrue h => isTrue (h ▸ rfl)
    | isFalse h => isFalse fun e => by simp_all
  | tag m a as, tag n b bs =>
    if h : m = n ∧ a = b then
      match decEqList as bs with
      | isTrue hs => isTrue (by rw [h.1, h.2, hs])
      | isFalse hs => isFalse fun e => by simp_all
    else isFalse fun e => by simp_all
  | text _, inner _ | text _, tag .. | inner _, text _ | inner _, tag .. | tag .., text _
  | tag .., inner _ => isFalse fun e => by simp at e

/-- Decides whether two sequences of nodes are equal. -/
def decEqList : (as bs : List Node) → Decidable (as = bs)
  | [], [] => isTrue rfl
  | a :: as, b :: bs =>
    match decEq a b with
    | isTrue h =>
      match decEqList as bs with
      | isTrue hs => isTrue (by rw [h, hs])
      | isFalse hs => isFalse fun e => by simp_all
    | isFalse h => isFalse fun e => by simp_all
  | [], _ :: _ | _ :: _, [] => isFalse fun e => by simp at e

end

instance : DecidableEq Node := decEq

/-! ## Hash codes -/

mutual

/-- A hash code of a node. -/
def hashCode : Node → UInt64
  | text s => mixHash 3 (hash s)
  | inner cs => mixHash 5 (hashCodes 7 cs)
  | tag n a b => mixHash (mixHash (hash n) (hash a.entries)) (hashCodes 11 b)

/-- A hash code of a sequence of nodes, going on from another one. -/
def hashCodes (h : UInt64) : List Node → UInt64
  | [] => h
  | n :: ns => hashCodes (mixHash h n.hashCode) ns

end

instance : Hashable Node := ⟨hashCode⟩

/-! ## Preorder -/

/-- A node without what is below it. -/
inductive Item where
  | tag (name : String) (attributes : Attributes)
  | inner (childCount : Nat)
  | text (content : String)
deriving DecidableEq

/-- A node in a listing of a tree, with its depth. -/
structure Entry where
  depth : Nat
  item : Item
deriving DecidableEq

mutual

/-- The entries of a node at a depth, in front of other entries. -/
def preorderFrom (depth : Nat) (after : List Entry) : Node → List Entry
  | text s => ⟨depth, .text s⟩ :: after
  | inner cs => ⟨depth, .inner cs.length⟩ :: preorderAll (depth + 1) after cs
  | tag n a b =>
    ⟨depth, .tag n a⟩ :: ⟨depth + 1, .inner b.length⟩ :: preorderAll (depth + 2) after b

/-- The entries of a sequence of nodes at a depth, in front of other entries. -/
def preorderAll (depth : Nat) (after : List Entry) : List Node → List Entry
  | [] => after
  | n :: ns => preorderFrom depth (preorderAll depth after ns) n

end

/-- The nodes of a tree with their depths, each one before what is below it. -/
def preorder (n : Node) : List Entry := preorderFrom 0 [] n

end Node

end TagMarkup

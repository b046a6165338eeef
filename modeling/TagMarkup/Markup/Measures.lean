import TagMarkup.Markup.Render

/-!
# Measures of trees

How many nodes a tree has, how deep they lie and how long its markup is.
-/

namespace TagMarkup

namespace Node

/-- Numbers that describe the size of a tree. -/
structure Measures where
  /-- The number of nodes in preorder. -/
  nodes : Nat
  /-- The largest depth of a node. -/
  depth : Nat
  /-- The number of bytes of the markup. -/
  markupBytes : Nat
deriving DecidableEq

/-- The measures of a tree. -/
def measures (n : Node) : Measures where
  nodes := n.preorder.length
  depth := n.preorder.foldl (fun d e => max d e.depth) 0
  markupBytes := n.render.utf8ByteSize

end Node

end TagMarkup

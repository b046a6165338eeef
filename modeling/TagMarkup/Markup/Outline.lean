import TagMarkup.Markup.Node
import TagMarkup.Text.Quoted

/-!
# Outlines

The outline of a tree shows one node a line, in preorder, indented by two spaces for each level
of depth. Values and texts are quoted, so nothing inside of them breaks a line.
-/

namespace TagMarkup

namespace Node

/-- An attribute in an outline, after a space. -/
def outlineAttribute (e : String × String) : String := " " ++ e.1 ++ "=" ++ Quoted.text e.2

/-- A node in an outline, without its indentation. -/
def Item.outline : Item → String
  | .tag name attributes =>
    "Tag " ++ name ++ String.join (attributes.entries.map outlineAttribute)
  | .inner _ => "Inner"
  | .text content => "Text " ++ Quoted.text content

/-- The spaces in front of a node at a depth. -/
def indentation (depth : Nat) : String := String.ofList (List.replicate (2 * depth) ' ')

/-- The line of a node. -/
def Entry.outline (e : Entry) : String := indentation e.depth ++ e.item.outline ++ "\n"

/-- The outline of a tree: the lines of its nodes in preorder. -/
def outline (n : Node) : String := String.join (n.preorder.map Entry.outline)

end Node

end TagMarkup

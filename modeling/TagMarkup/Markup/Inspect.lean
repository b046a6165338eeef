import TagMarkup.Markup.Node
import TagMarkup.Text.Quoted

/-!
# Trees for inspection

A tree written on one line with the names of all constructors and fields, to be read by people
who look into the data.
-/

namespace TagMarkup

/-- Attributes between braces, each as `"key": "value"`. -/
def Attributes.inspect (a : Attributes) : String :=
  "\x7b" ++
    ", ".intercalate (a.entries.map fun e => Quoted.text e.1 ++ ": " ++ Quoted.text e.2) ++
      "\x7d"

namespace Node

mutual

/-- Writes a node for inspection behind a text. -/
def inspectOnto (out : String) : Node → String
  | text s => out ++ "Text(TextNode \x7b text: " ++ Quoted.text s ++ " \x7d)"
  | inner cs => inspectAllOnto (out ++ "Inner(InnerNode \x7b children: [") true cs ++ "] \x7d)"
  | tag n a b =>
    inspectAllOnto (out ++ "Tag(TagNode \x7b name: " ++ Quoted.text n ++ ", attributes: " ++
      a.inspect ++ ", inner: InnerNode \x7b children: [") true b ++ "] \x7d \x7d)"

/-- Writes nodes behind a text, with commas between them; `first` tells whether the text ends
where the first of them belongs. -/
def inspectAllOnto (out : String) (first : Bool) : List Node → String
  | [] => out
  | n :: ns => inspectAllOnto (n.inspectOnto (if first then out else out ++ ", ")) false ns

end

/-- A tree for inspection. -/
def inspect (n : Node) : String := n.inspectOnto ""

end Node

end TagMarkup

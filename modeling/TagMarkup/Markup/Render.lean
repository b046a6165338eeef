import TagMarkup.Markup.Node

/-!
# Trees as markup

The markup of a tree writes each tag with its attributes in order, its body and its end tag,
and each text as it is. Nothing is escaped.
-/

namespace TagMarkup

/-- An attribute as it stands in a start tag, after a space. -/
def Attributes.renderEntry (e : String × String) : String := " " ++ e.1 ++ "=\"" ++ e.2 ++ "\""

/-- Writes attributes behind a text. -/
def Attributes.renderOnto (out : String) (a : Attributes) : String :=
  a.entries.foldl (fun out e => out ++ Attributes.renderEntry e) out

/-- The markup of attributes. -/
def Attributes.render (a : Attributes) : String := a.renderOnto ""

theorem Attributes.renderOnto_append (out more : String) (a : Attributes) :
    a.renderOnto (out ++ more) = out ++ a.renderOnto more := by
  unfold Attributes.renderOnto
  induction a.entries generalizing more with
  | nil => rfl
  | cons e es ih => rw [List.foldl_cons, List.foldl_cons, String.append_assoc, ih]

/-- Writing attributes behind a text appends their markup. -/
theorem Attributes.renderOnto_eq (out : String) (a : Attributes) :
    a.renderOnto out = out ++ a.render := by
  simpa [Attributes.render] using a.renderOnto_append out ""

namespace Node

mutual

/-- Writes the markup of a node behind a text. -/
def renderOnto (out : String) : Node → String
  | text s => out ++ s
  | inner cs => renderAllOnto out cs
  | tag n a b => renderAllOnto (a.renderOnto (out ++ "<" ++ n) ++ ">") b ++ "</" ++ n ++ ">"

/-- Writes the markup of a sequence of nodes behind a text. -/
def renderAllOnto (out : String) : List Node → String
  | [] => out
  | n :: ns => renderAllOnto (n.renderOnto out) ns

end

/-- The markup of a node. -/
def render (n : Node) : String := n.renderOnto ""

/-- The markup of a sequence of nodes. -/
def renderAll (ns : List Node) : String := renderAllOnto "" ns

mutual

theorem renderOnto_append (out more : String) :
    ∀ n, renderOnto (out ++ more) n = out ++ renderOnto more n
  | text s => by simp [renderOnto, String.append_assoc]
  | inner cs => by simp [renderOnto, renderAllOnto_append out more cs]
  | tag n a b => by
    simp [renderOnto, Attributes.renderOnto_append, String.append_assoc, renderAllOnto_append out]

theorem renderAllOnto_append (out more : String) :
    ∀ ns, renderAllOnto (out ++ more) ns = out ++ renderAllOnto more ns
  | [] => rfl
  | n :: ns => by simp [renderAllOnto, renderOnto_append out more n, renderAllOnto_append out _ ns]

end

/-- Writing a node behind a text appends its markup. -/
theorem renderOnto_eq (out : String) (n : Node) : n.renderOnto out = out ++ n.render := by
  simpa [render] using renderOnto_append out "" n

/-- Writing nodes behind a text appends their markup. -/
theorem renderAllOnto_eq (out : String) (ns : List Node) :
    renderAllOnto out ns = out ++ renderAll ns := by
  simpa [renderAll] using renderAllOnto_append out "" ns

/-! ## What the markup is made of -/

@[simp] theorem render_text (s : String) : (text s).render = s := by simp [render, renderOnto]

@[simp] theorem render_inner (cs : List Node) : (inner cs).render = renderAll cs := rfl

@[simp] theorem render_tag (n : String) (a : Attributes) (b : List Node) :
    (tag n a b).render =
      "<" ++ n ++ a.render ++ ">" ++ renderAll b ++ "</" ++ n ++ ">" := by
  simp [render, renderOnto, Attributes.renderOnto_eq, renderAllOnto_eq]

@[simp] theorem renderAll_nil : renderAll [] = "" := rfl

@[simp] theorem renderAll_cons (n : Node) (ns : List Node) :
    renderAll (n :: ns) = n.render ++ renderAll ns := by
  rw [renderAll, renderAllOnto, renderAllOnto_eq, render]

end Node

end TagMarkup

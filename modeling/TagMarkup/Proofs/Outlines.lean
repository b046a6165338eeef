import TagMarkup.Markup.Outline
import TagMarkup.Proofs.CutLines
import TagMarkup.Proofs.QuotedText
import TagMarkup.Proofs.RoundTrip

/-!
# Outlines of documents

**Theorem (`outline_faithful`).** The outline of a parsed tree has a line for each node, and the
tree can be read off it.

**Lines.** Names and keys are letters and digits, and values and texts are quoted, so no line
holds a line feed. Splitting the outline at the line feeds gives back the lines that were written
(`splitOn_outline`).

**Labels.** A line determines its depth and its label: no label starts with a space. The label of
a tag determines the tag without its body, since a name ends at the first space behind it, a key
at `=` and a value at its closing quotation mark (`tag_unique`).

**Nesting.** What is below a node is indented more than the node, and the first line behind it is
not. So the lines of a node end where the depth falls back (`IsChild.isShown`). The proof is an
induction over the trees of documents; the lines behind a node are arbitrary in it, as long as
they start far enough out (`StartsBefore`).
-/

namespace TagMarkup

open Node

/-! ## The lines of a tree -/

/-- A label behind two spaces for each level of depth. -/
def indented (depth : Nat) (label : String) : List Char :=
  List.replicate (2 * depth) ' ' ++ label.toList

namespace Node

mutual

/-- The lines that show a node at a depth: one for itself, then those of what is below it. The
body of a tag is a node of its own. -/
def lines (depth : Nat) : Node → List (List Char)
  | text s => [indented depth (Item.text s).outline]
  | inner cs => indented depth (Item.inner cs.length).outline :: linesAll (depth + 1) cs
  | tag n a b =>
    indented depth (Item.tag n a).outline ::
      indented (depth + 1) (Item.inner b.length).outline :: linesAll (depth + 2) b

/-- The lines that show nodes at a depth, one node after the other. -/
def linesAll (depth : Nat) : List Node → List (List Char)
  | [] => []
  | n :: ns => n.lines depth ++ linesAll depth ns

end

theorem exists_lines_eq_cons (depth : Nat) (n : Node) :
    ∃ (i : Item) (ls : List (List Char)), n.lines depth = indented depth i.outline :: ls := by
  cases n with
  | text s => exact ⟨_, _, rfl⟩
  | inner cs => exact ⟨_, _, rfl⟩
  | tag n a b => exact ⟨_, _, rfl⟩

/-- The line of a node, without the line feed. -/
def Entry.line (e : Entry) : List Char := indented e.depth e.item.outline

theorem Entry.toList_outline (e : Entry) : e.outline.toList = e.line ++ ['\n'] := by
  simp [Entry.outline, Entry.line, indented, indentation]

mutual

theorem map_line_preorderFrom (depth : Nat) (after : List Entry) :
    ∀ n, (preorderFrom depth after n).map Entry.line = n.lines depth ++ after.map Entry.line
  | text _ => rfl
  | inner cs => by simp [preorderFrom, lines, Entry.line, map_line_preorderAll _ after cs]
  | tag _ _ b => by simp [preorderFrom, lines, Entry.line, map_line_preorderAll _ after b]

theorem map_line_preorderAll (depth : Nat) (after : List Entry) :
    ∀ ns, (preorderAll depth after ns).map Entry.line =
      linesAll depth ns ++ after.map Entry.line
  | [] => rfl
  | n :: ns => by
    simp [preorderAll, linesAll, map_line_preorderFrom _ _ n, map_line_preorderAll _ after ns]

end

theorem toList_outline (n : Node) : n.outline.toList = (n.lines 0).flatMap (· ++ ['\n']) := by
  have hlines : n.preorder.map Entry.line = n.lines 0 := by
    simpa [preorder] using map_line_preorderFrom 0 [] n
  rw [outline, String.toList_join, List.flatMap_map, ← hlines, List.flatMap_map]
  simp only [Entry.toList_outline]

end Node

/-! ## No line feed in a label -/

theorem IsName.newline_not_mem {w : List Char} (h : IsName w) : '\n' ∉ w := by
  intro hmem
  exact absurd (h.2 _ hmem) (by decide)

theorem toList_outlineAttribute (e : String × String) :
    (outlineAttribute e).toList = ' ' :: (e.1.toList ++ '=' :: (Quoted.text e.2).toList) := by
  simp [outlineAttribute]

theorem toList_outline_tag (name : String) (a : Attributes) :
    (Item.tag name a).outline.toList =
      "Tag ".toList ++ (name.toList ++ a.entries.flatMap fun e => (outlineAttribute e).toList) := by
  simp [Item.outline, List.flatMap_def, String.toList_join, Function.comp_def]

theorem newline_not_mem_tag {name : String} {a : Attributes} (hname : IsName name.toList)
    (ha : ∀ e ∈ a.entries, IsName e.1.toList) : '\n' ∉ (Item.tag name a).outline.toList := by
  have hattributes : '\n' ∉ a.entries.flatMap fun e => (outlineAttribute e).toList := by
    intro hmem
    obtain ⟨e, he, hmem⟩ := List.mem_flatMap.1 hmem
    have hkey := (ha e he).newline_not_mem
    have hvalue := Quoted.newline_not_mem_text e.2
    simp [toList_outlineAttribute, hkey, hvalue] at hmem
  simp [toList_outline_tag, hname.newline_not_mem, hattributes]

theorem newline_not_mem_text (s : String) : '\n' ∉ (Item.text s).outline.toList := by
  simp [Item.outline, Quoted.newline_not_mem_text s]

theorem newline_not_mem_inner (k : Nat) : '\n' ∉ (Item.inner k).outline.toList := by
  simp [Item.outline]

theorem newline_not_mem_indented {label : String} (h : '\n' ∉ label.toList) (depth : Nat) :
    '\n' ∉ indented depth label := by
  simp [indented, h]

theorem newline_not_mem_linesAll {ns : List Node} {depth : Nat}
    (h : ∀ n ∈ ns, ∀ l ∈ n.lines depth, '\n' ∉ l) : ∀ l ∈ linesAll depth ns, '\n' ∉ l := by
  induction ns with
  | nil => simp [linesAll]
  | cons n ns ih =>
    obtain ⟨hn, hns⟩ := List.forall_mem_cons.1 h
    rw [linesAll]
    exact List.forall_mem_append.2 ⟨hn, ih hns⟩

theorem IsChild.newline_not_mem {n : Node} (h : IsChild n) (depth : Nat) :
    ∀ l ∈ n.lines depth, '\n' ∉ l := by
  induction h generalizing depth with
  | @text s _ =>
    rw [lines]
    simpa using newline_not_mem_indented (newline_not_mem_text s) depth
  | @tag name a body hname ha _ _ ih =>
    have htag := newline_not_mem_tag hname fun e he => (ha e he).1
    rw [lines]
    refine List.forall_mem_cons.2 ⟨newline_not_mem_indented htag _, ?_⟩
    refine List.forall_mem_cons.2 ⟨newline_not_mem_indented (newline_not_mem_inner _) _, ?_⟩
    exact newline_not_mem_linesAll fun n hn => ih n hn (depth + 2)

theorem WellFormed.newline_not_mem {tree : Node} (h : WellFormed tree) (depth : Nat) :
    ∀ l ∈ tree.lines depth, '\n' ∉ l := by
  obtain ⟨ns, rfl, hns⟩ := h
  rw [lines]
  refine List.forall_mem_cons.2 ⟨newline_not_mem_indented (newline_not_mem_inner _) _, ?_⟩
  exact newline_not_mem_linesAll fun n hn => (hns.child n hn).newline_not_mem (depth + 1)

theorem WellFormed.splitOn_outline {tree : Node} (h : WellFormed tree) :
    tree.outline.toList.splitOn '\n' = tree.lines 0 ++ [[]] := by
  rw [toList_outline]
  exact Lines.splitOn_terminate (h.newline_not_mem 0)

/-! ## Depth and label of a line -/

theorem stops_outline (i : Item) : Stops (· = ' ') i.outline.toList := by
  cases i <;> simp [Item.outline]

/-- A line determines its depth and its label. -/
theorem indented_unique {d e : Nat} {i j : Item}
    (h : indented d i.outline = indented e j.outline) : d = e ∧ i.outline = j.outline := by
  obtain ⟨hspaces, hlabel⟩ := run_unique (by simp) (by simp) (stops_outline i)
    (stops_outline j) h
  have hlength := congrArg List.length hspaces
  simp only [List.length_replicate] at hlength
  exact ⟨by omega, String.toList_inj.1 hlabel⟩

theorem prefixFree_outlineAttribute :
    PrefixFree (fun e : String × String => IsName e.1.toList)
      fun e => (outlineAttribute e).toList := by
  intro e e' u v he he' heq
  have hkeys : e.1.toList ++ '=' :: ((Quoted.text e.2).toList ++ u) =
      e'.1.toList ++ '=' :: ((Quoted.text e'.2).toList ++ v) := by
    simpa [toList_outlineAttribute] using heq
  obtain ⟨hkey, hrest⟩ := run_unique he.2 he'.2 (stops_cons.2 (by decide))
    (stops_cons.2 (by decide)) hkeys
  obtain ⟨hvalue, hrest⟩ := Quoted.prefixFree_text trivial trivial (List.cons.inj hrest).2
  exact ⟨Prod.ext (String.toList_inj.1 hkey) hvalue, hrest⟩

/-- No attribute starts with a line feed, so one may stand where the attributes end. -/
theorem prefixFree_outlineAttributes :
    PrefixFree (fun es : List (String × String) => ∀ e ∈ es, IsName e.1.toList)
      fun es => es.flatMap (fun e => (outlineAttribute e).toList) ++ ['\n'] :=
  prefixFree_outlineAttribute.flatMap fun e u v _ => by simp [toList_outlineAttribute]

/-- The label of a tag determines its name and its attributes. -/
theorem tag_unique {name name' : String} {a a' : Attributes} (hname : IsName name.toList)
    (hname' : IsName name'.toList) (ha : ∀ e ∈ a.entries, IsName e.1.toList)
    (ha' : ∀ e ∈ a'.entries, IsName e.1.toList)
    (h : (Item.tag name a).outline = (Item.tag name' a').outline) : name = name' ∧ a = a' := by
  have hlabel := congrArg String.toList h
  rw [toList_outline_tag, toList_outline_tag] at hlabel
  have hstops (a : Attributes) :
      Stops isAlphanumeric (a.entries.flatMap fun e => (outlineAttribute e).toList) := by
    cases a.entries with
    | nil => simp
    | cons e es =>
      rw [List.flatMap_cons, toList_outlineAttribute]
      exact stops_cons.2 (by decide)
  obtain ⟨hname, hattributes⟩ := run_unique hname.2 hname'.2 (hstops a) (hstops a')
    (List.append_cancel_left hlabel)
  have hend := congrArg (· ++ ['\n']) hattributes
  have hentries := (prefixFree_outlineAttributes (u := []) (v := []) ha ha' (by simpa using hend)).1
  exact ⟨String.toList_inj.1 hname, Attributes.eq_of_perm (by rw [hentries])⟩

theorem text_unique {s t : String} (h : (Item.text s).outline = (Item.text t).outline) :
    s = t := by
  have hlabel := congrArg String.toList h
  simp only [Item.outline, String.toList_append] at hlabel
  have hquoted := List.append_cancel_left hlabel
  exact (Quoted.prefixFree_text (u := []) (v := []) trivial trivial (by simpa using hquoted)).1

theorem outline_tag_ne_text (name : String) (a : Attributes) (s : String) :
    (Item.tag name a).outline ≠ (Item.text s).outline := by
  intro h
  have hlabel := congrArg String.toList h
  simp [Item.outline] at hlabel

/-! ## Where the lines of a node end -/

/-- The first of the lines, if there is one, shows a node at a smaller depth. -/
def StartsBefore (depth : Nat) (ls : List (List Char)) : Prop :=
  ∀ l ∈ ls.head?, ∃ d < depth, ∃ i : Item, l = indented d i.outline

namespace StartsBefore

variable {depth : Nat} {ls : List (List Char)}

theorem nil : StartsBefore depth [] := by simp [StartsBefore]

theorem mono {d : Nat} (h : StartsBefore depth ls) (hd : depth ≤ d) : StartsBefore d ls := by
  intro l hl
  obtain ⟨e, he, hline⟩ := h l hl
  exact ⟨e, by omega, hline⟩

/-- Lines of nodes at a depth start before the lines of what is below such nodes. -/
theorem linesAll_append (h : StartsBefore depth ls) (ns : List Node) :
    StartsBefore (depth + 1) (linesAll depth ns ++ ls) := by
  cases ns with
  | nil => simpa [linesAll] using h.mono (Nat.le_succ depth)
  | cons n ns =>
    obtain ⟨i, below, hn⟩ := n.exists_lines_eq_cons depth
    intro l hl
    obtain rfl : indented depth i.outline = l := by simpa [linesAll, hn] using hl
    exact ⟨depth, Nat.lt_succ_self depth, i, rfl⟩

theorem ne_linesAll_cons (h : StartsBefore depth ls) (n : Node) (ns : List Node)
    (more : List (List Char)) : ls ≠ linesAll depth (n :: ns) ++ more := by
  rintro rfl
  obtain ⟨i, below, hn⟩ := n.exists_lines_eq_cons depth
  obtain ⟨d, hd, j, hline⟩ := h (indented depth i.outline) (by simp [linesAll, hn])
  have hdepth := (indented_unique hline).1
  omega

end StartsBefore

/-- The lines of the node determine it among the nodes of documents, and determine the lines
behind them, if these go on no deeper than the node. -/
def IsShown (n : Node) : Prop :=
  ∀ ⦃m : Node⦄ ⦃depth : Nat⦄ ⦃r s : List (List Char)⦄, IsChild m → StartsBefore (depth + 1) r →
    StartsBefore (depth + 1) s → n.lines depth ++ r = m.lines depth ++ s → n = m ∧ r = s

theorem linesAll_unique {ns ms : List Node} (hns : ∀ n ∈ ns, IsShown n)
    (hms : ∀ m ∈ ms, IsChild m) {depth : Nat} {r s : List (List Char)}
    (hr : StartsBefore depth r) (hs : StartsBefore depth s)
    (h : linesAll depth ns ++ r = linesAll depth ms ++ s) : ns = ms ∧ r = s := by
  induction ns generalizing ms with
  | nil =>
    cases ms with
    | nil => exact ⟨rfl, h⟩
    | cons m ms => exact absurd h (hr.ne_linesAll_cons m ms s)
  | cons n ns ih =>
    cases ms with
    | nil => exact absurd h.symm (hs.ne_linesAll_cons n ns r)
    | cons m ms =>
      obtain ⟨hn, hrestn⟩ := List.forall_mem_cons.1 hns
      obtain ⟨hm, hrestm⟩ := List.forall_mem_cons.1 hms
      rw [linesAll, linesAll, List.append_assoc, List.append_assoc] at h
      obtain ⟨rfl, hrest⟩ := hn hm (hr.linesAll_append ns) (hs.linesAll_append ms) h
      obtain ⟨rfl, rfl⟩ := ih hrestn hrestm hrest
      exact ⟨rfl, rfl⟩

theorem IsChild.isShown {n : Node} (h : IsChild n) : IsShown n := by
  induction h with
  | @text s _ =>
    intro m depth r s' hm hr hs heq
    cases hm with
    | @text t _ =>
      obtain ⟨hline, rfl⟩ := List.cons.inj heq
      obtain rfl := text_unique (indented_unique hline).2
      exact ⟨rfl, rfl⟩
    | @tag name a body _ _ _ _ =>
      have hline := (List.cons.inj heq).1
      exact absurd (indented_unique hline).2.symm (outline_tag_ne_text name a s)
  | @tag name a body hname ha _ _ ih =>
    intro m depth r s hm hr hs heq
    cases hm with
    | @text t _ =>
      have hline := (List.cons.inj heq).1
      exact absurd (indented_unique hline).2 (outline_tag_ne_text name a t)
    | @tag name' a' body' hname' ha' hbody' _ =>
      obtain ⟨hline, hbelow⟩ := List.cons.inj heq
      obtain ⟨-, hbodies⟩ := List.cons.inj hbelow
      obtain ⟨rfl, rfl⟩ := tag_unique hname hname' (fun e he => (ha e he).1)
        (fun e he => (ha' e he).1) (indented_unique hline).2
      obtain ⟨rfl, rfl⟩ := linesAll_unique ih hbody' (hr.mono (Nat.le_succ _))
        (hs.mono (Nat.le_succ _)) hbodies
      exact ⟨rfl, rfl⟩

/-! ## Faithfulness -/

theorem WellFormed.eq_of_outline_eq {tree tree' : Node} (h : WellFormed tree)
    (h' : WellFormed tree') (heq : tree.outline = tree'.outline) : tree = tree' := by
  have hlines : tree.lines 0 = tree'.lines 0 := by
    have hsplit := congrArg (fun s : String => s.toList.splitOn '\n') heq
    simp only [h.splitOn_outline, h'.splitOn_outline] at hsplit
    exact List.append_cancel_right hsplit
  obtain ⟨ns, rfl, hns⟩ := h
  obtain ⟨ms, rfl, hms⟩ := h'
  obtain ⟨-, hbelow⟩ := List.cons.inj hlines
  have hall := linesAll_unique (fun n hn => (hns.child n hn).isShown) hms.child .nil .nil
    (congrArg (· ++ []) hbelow)
  rw [hall.1]

/-- **The outline of a parsed tree is faithful.** It has one line for each node, in preorder and
indented by the depth of the node, and each line ends with the only line feed in it. No other
tree of a document has the same outline. -/
theorem outline_faithful {t : String} {tree : Node} (h : parseDocument t = .ok tree) :
    tree.outline.toList.splitOn '\n' = tree.lines 0 ++ [[]] ∧
      ∀ t' tree', parseDocument t' = .ok tree' → tree'.outline = tree.outline →
        tree' = tree := by
  have hw := wellFormed_of_parseDocument_eq_ok h
  refine ⟨hw.splitOn_outline, fun t' tree' h' heq => ?_⟩
  exact (wellFormed_of_parseDocument_eq_ok h').eq_of_outline_eq hw heq

/-- A tree with a value and a text that look like lines of an outline. -/
def lookalike : Node :=
  .inner [.tag "a" (.ofList [("k", "\nInner")]) [.text "\n  Tag b k=\"\\\"", .tag "b" .empty []]]

theorem outline_faithful_lookalike :
    parseDocument "<a k=\"\nInner\">\n  Tag b k=\"\\\"<b></b></a>" = .ok lookalike ∧
      lookalike.outline = "Inner\n  Tag a k=\"\\nInner\"\n    Inner\n" ++
        "      Text \"\\n  Tag b k=\\\"\\\\\\\"\"\n      Tag b\n        Inner\n" ∧
      lookalike.outline.toList.splitOn '\n' = lookalike.lines 0 ++ [[]] ∧
      ∀ t' tree', parseDocument t' = .ok tree' → tree'.outline = lookalike.outline →
        tree' = lookalike := by
  have h : parseDocument "<a k=\"\nInner\">\n  Tag b k=\"\\\"<b></b></a>" = .ok lookalike := by
    decide +kernel
  exact ⟨h, by decide +kernel, outline_faithful h⟩

end TagMarkup

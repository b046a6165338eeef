import Mathlib.Data.List.Chain
import TagMarkup.Proofs.Attributes
import TagMarkup.Proofs.Documents

/-!
# Rendering and parsing

The trees that are the same after rendering and parsing. Every condition on them is there
because the markup of a tree escapes nothing: a text with an angle bracket, a value with a
quotation mark or a key with a space would be read as something else, an empty text would not be
read at all, and two texts in a row would be read as one.

Main result: `parseDocument_render`.
-/

namespace TagMarkup

/-! ## Well-formed trees -/

/-- No text follows a text. -/
def Separated (ns : List Node) : Prop :=
  ns.IsChain fun m n => m.content? = none ∨ n.content? = none

/-- What may stand in a document: texts that can be read as texts, and tags around such nodes
with names, keys and values that can be read as such. -/
inductive IsChild : Node → Prop
  | text {s : String} : IsPlain s.toList → IsChild (.text s)
  | tag {name : String} {a : Attributes} {body : List Node} : IsName name.toList →
      (∀ e ∈ a.entries, IsName e.1.toList ∧ IsValue e.2.toList) →
      (∀ n ∈ body, IsChild n) → Separated body → IsChild (.tag name a body)

/-- What may stand between a start tag and its end tag. -/
structure IsBody (ns : List Node) : Prop where
  child : ∀ n ∈ ns, IsChild n
  separated : Separated ns

/-- The tree of a document: a sequence of nodes that may stand in one. -/
def WellFormed (tree : Node) : Prop := ∃ ns, tree = .inner ns ∧ IsBody ns

namespace IsBody

theorem nil : IsBody [] := ⟨by simp, .nil⟩

theorem tail {n : Node} {ns : List Node} (h : IsBody (n :: ns)) : IsBody ns :=
  ⟨fun m hm => h.child m (List.mem_cons_of_mem _ hm), List.IsChain.tail h.separated⟩

theorem cons {n : Node} {ns : List Node} (hn : IsChild n) (h : IsBody ns)
    (hsep : Separated (n :: ns)) : IsBody (n :: ns) :=
  ⟨List.forall_mem_cons.2 ⟨hn, h.child⟩, hsep⟩

/-- A node that is no text may stand in front of everything. -/
theorem cons_of_content?_eq_none {n : Node} {ns : List Node} (hn : IsChild n)
    (hc : n.content? = none) (h : IsBody ns) : IsBody (n :: ns) := by
  refine cons hn h ?_
  cases ns with
  | nil => exact List.isChain_singleton _
  | cons m ns => exact List.isChain_cons_cons.2 ⟨.inl hc, h.separated⟩

/-- A text in front of a sequence either becomes part of the first text, or stands there by
itself. -/
theorem join_text {s : String} {ns : List Node} (hs : IsPlain s.toList) (h : IsBody ns) :
    IsBody (Node.join [.text s] ns) := by
  cases ns with
  | nil => exact cons (.text hs) .nil (List.isChain_singleton _)
  | cons n ns =>
    by_cases hn : n.content? = none
    · rw [Node.join_text_cons hn]
      exact cons (.text hs) h (List.isChain_cons_cons.2 ⟨.inr hn, h.separated⟩)
    · cases h.child n (by simp) with
      | tag => exact absurd rfl hn
      | @text t ht =>
        rw [Node.join_text_text]
        have hst : IsPlain (s ++ t).toList := by
          rw [String.toList_append]
          exact hs.append ht
        refine cons (.text hst) h.tail ?_
        -- whether a text follows does not depend on what the texts hold
        have hsep := h.separated
        cases ns with
        | nil => exact List.isChain_singleton _
        | cons m ns =>
          obtain ⟨hm, hms⟩ := List.isChain_cons_cons.1 hsep
          exact List.isChain_cons_cons.2 ⟨.inr (hm.resolve_left nofun), hms⟩

end IsBody

/-! ## What is derived is well-formed -/

theorem DerivesEntry.isName_isValue {w : List Char} {e : String × String}
    (h : DerivesEntry w e) : IsName e.1.toList ∧ IsValue e.2.toList := by
  cases h with
  | mk hkey hvalue => exact ⟨by simpa using hkey, by simpa using hvalue⟩

theorem DerivesEntries.isName_isValue {w : List Char} {es : List (String × String)}
    (h : DerivesEntries w es) : ∀ e ∈ es, IsName e.1.toList ∧ IsValue e.2.toList := by
  induction h with
  | nil => simp
  | cons _ _ he _ ih => exact List.forall_mem_cons.2 ⟨he.isName_isValue, ih⟩

theorem DerivesStart.isName_isValue {w : List Char} {st : Grammar.StartTag}
    (h : DerivesStart w st) : IsName st.name.toList ∧
      ∀ e ∈ st.attributes.entries, IsName e.1.toList ∧ IsValue e.2.toList := by
  cases h with
  | mk hname hes _ hperm =>
    refine ⟨by simpa using hname, fun e he => ?_⟩
    exact hes.isName_isValue e (hperm.mem_iff.1 he)

mutual

theorem Derives.isBody : ∀ {w : List Char} {ns : List Node}, Derives w ns → IsBody ns
  | _, _, .nil => .nil
  | _, _, .text hw h => h.isBody.join_text (by simpa using hw)
  | _, _, .tag ht h => .cons_of_content?_eq_none ht.isChild ht.content?_eq_none h.isBody

theorem DerivesTag.isChild : ∀ {w : List Char} {n : Node}, DerivesTag w n → IsChild n
  | _, _, .mk hs hw _ => by
    obtain ⟨hname, hentries⟩ := hs.isName_isValue
    have hbody := hw.isBody
    exact .tag hname hentries hbody.child hbody.separated

end

/-! ## What is well-formed is derived -/

theorem Attributes.toList_renderOnto (es : List (String × String)) (out : String) :
    (es.foldl (fun out e => out ++ renderEntry e) out).toList =
      out.toList ++ es.flatMap fun e => (renderEntry e).toList := by
  induction es generalizing out with
  | nil => simp
  | cons e es ih => rw [List.foldl_cons, ih, String.toList_append, List.flatMap_cons,
      List.append_assoc]

/-- The markup of entries is derived, each entry after one space. -/
theorem derivesEntries_render {es : List (String × String)}
    (h : ∀ e ∈ es, IsName e.1.toList ∧ IsValue e.2.toList) :
    DerivesEntries (es.flatMap fun e => (Attributes.renderEntry e).toList) es := by
  induction es with
  | nil => exact .nil
  | cons e es ih =>
    obtain ⟨⟨hkey, hvalue⟩, hes⟩ := List.forall_mem_cons.1 h
    have hblank : IsBlank [' '] := by decide
    have he := DerivesEntry.mk hkey hvalue
    rw [String.ofList_toList, String.ofList_toList] at he
    have := DerivesEntries.cons (by simp) hblank he (ih hes)
    simpa [Attributes.renderEntry] using this

theorem derivesStart_render {name : String} {a : Attributes} (hname : IsName name.toList)
    (ha : ∀ e ∈ a.entries, IsName e.1.toList ∧ IsValue e.2.toList) :
    DerivesStart ("<" ++ name ++ a.render ++ ">").toList ⟨name, a⟩ := by
  have hes : DerivesEntries a.render.toList a.entries := by
    have := derivesEntries_render ha
    rwa [Attributes.render, Attributes.renderOnto, Attributes.toList_renderOnto]
  have hgap : IsBlank [] := by decide
  have h := DerivesStart.mk hname hes a.nodup_keys (.refl _) hgap
  rw [String.ofList_toList] at h
  simpa using h

theorem derivesEnd_render {name : String} (hname : IsName name.toList) :
    DerivesEnd ("</" ++ name ++ ">").toList name := by
  have hgap : IsBlank [] := by decide
  have h := DerivesEnd.mk hgap hname hgap
  rw [String.ofList_toList] at h
  simpa using h

/-- The markup of a sequence is derived when the markup of its nodes is, and the nodes stay
apart. -/
theorem derives_renderAll {ns : List Node} (h : ∀ n ∈ ns, Derives n.render.toList [n])
    (hsep : Separated ns) : Derives (Node.renderAll ns).toList ns := by
  induction ns with
  | nil => exact .nil
  | cons n ns ih =>
    obtain ⟨hn, hns⟩ := List.forall_mem_cons.1 h
    have hjoin : Node.join [n] ns = n :: ns := by
      cases ns with
      | nil => exact Node.join_nil_right _
      | cons m ns =>
        obtain hn | hm := (List.isChain_cons_cons.1 hsep).1
        · rw [Node.join_cons hn, Node.join_nil_left]
        · cases n <;> first | rfl | exact Node.join_text_cons hm _ _
    rw [Node.renderAll_cons, String.toList_append, ← hjoin]
    exact hn.append (ih hns (List.IsChain.tail hsep))

theorem IsChild.derives {n : Node} (h : IsChild n) : Derives n.render.toList [n] := by
  induction h with
  | @text s hs =>
    have := Derives.text hs .nil
    simpa using this
  | @tag name a body hname ha _ hsep ih =>
    have htag := DerivesTag.mk (derivesStart_render hname ha) (derives_renderAll ih hsep)
      (derivesEnd_render hname)
    have := Derives.tag htag .nil
    simpa using this

theorem IsBody.derives {ns : List Node} (h : IsBody ns) :
    Derives (Node.renderAll ns).toList ns :=
  derives_renderAll (fun n hn => (h.child n hn).derives) h.separated

/-! ## There and back -/

theorem WellFormed.parseDocument_render_eq {tree : Node} (h : WellFormed tree) :
    parseDocument tree.render = .ok tree := by
  obtain ⟨ns, rfl, hns⟩ := h
  exact parseDocument_eq_ok_of_derives hns.derives

theorem wellFormed_of_parseDocument_eq_ok {t : String} {tree : Node}
    (h : parseDocument t = .ok tree) : WellFormed tree := by
  obtain ⟨ns, htree, hns⟩ := derives_of_parseDocument_eq_ok h
  exact ⟨ns, htree, hns.isBody⟩

/-- **Round trips.** The trees of documents are the well-formed trees, and each of them is read
from its own markup. -/
theorem parseDocument_render :
    (∀ tree, WellFormed tree → parseDocument tree.render = .ok tree) ∧
      (∀ t tree, parseDocument t = .ok tree → WellFormed tree) ∧
      (∀ tree, WellFormed tree ↔ ∃ t, parseDocument t = .ok tree) ∧
      ∀ t tree, parseDocument t = .ok tree → parseDocument tree.render = .ok tree := by
  have hto : ∀ tree, WellFormed tree → parseDocument tree.render = .ok tree :=
    fun _ h => h.parseDocument_render_eq
  have hfrom : ∀ t tree, parseDocument t = .ok tree → WellFormed tree :=
    fun _ _ h => wellFormed_of_parseDocument_eq_ok h
  refine ⟨hto, hfrom, fun tree => ⟨fun h => ⟨_, hto tree h⟩, ?_⟩, ?_⟩
  · intro ⟨t, ht⟩
    exact hfrom t tree ht
  · intro t tree ht
    exact hto tree (hfrom t tree ht)

/-- The test for a round trip tells the well-formed trees from the others. -/
theorem roundTrips_iff_wellFormed (n : Node) : n.roundTrips = true ↔ WellFormed n := by
  unfold Node.roundTrips
  refine ⟨fun h => ?_, fun h => ?_⟩
  · cases hp : parseDocument n.render with
    | ok m =>
      rw [hp] at h
      rw [← of_decide_eq_true h]
      exact wellFormed_of_parseDocument_eq_ok hp
    | error e =>
      rw [hp] at h
      cases h
  · rw [h.parseDocument_render_eq]
    simp

instance : DecidablePred WellFormed := fun n => decidable_of_iff _ (roundTrips_iff_wellFormed n)

example : WellFormed (.inner [.text "a", .tag "b" .empty [.text "c"], .text "d"]) := by
  decide +kernel

example : ¬ WellFormed (.inner [.text "a", .text "b"]) := by decide +kernel

end TagMarkup

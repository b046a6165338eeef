import TagMarkup.Proofs.Tags

/-!
# What is read between tags

Tags and what is inside them are read exactly as the grammar derives them.

**The cell.** Inside of a tag the rule for content is entered again. A start tag has been read by
then, so the guard in `content` never comes into play (`content_eq_apply`).

**Completeness** (`content_append`). Where a text starts with a derivation, its nodes are read
and joined with those of what follows. No condition on what follows is needed: a text at the
seam grows, and a tag is complete by itself. The proof is by recursion on the derivation.

**Soundness** (`content_of_stuck`). Every text starts with a derivation behind which it is stuck:
neither a text nor a tag is derived there. Reading stops at that place, by induction on the
length of the text.

Main results: `reads_content` and `reads_tag`.
-/

namespace TagMarkup

open Cursor Outcome TagMarkup.Parser

/-! ## Plain characters -/

/-- The characters of a text. -/
def isPlainChar (x : Char) : Bool := x ∉ ['<', '>']

theorem isPlain_iff {w : List Char} : IsPlain w ↔ w ≠ [] ∧ ∀ x ∈ w, isPlainChar x = true := by
  simp [IsPlain, isPlainChar]

theorem IsPlain.append {w v : List Char} (hw : IsPlain w) (hv : IsPlain v) :
    IsPlain (w ++ v) := by
  refine ⟨by simp [hw.1], fun x hx => ?_⟩
  rcases List.mem_append.1 hx with hx | hx
  · exact hw.2 x hx
  · exact hv.2 x hx

theorem DerivesTag.ne_nil {w : List Char} {n : Node} (h : DerivesTag w n) : w ≠ [] := by
  cases h with
  | mk hs _ _ =>
    have := hs.ne_nil
    simp [this]

theorem DerivesTag.content?_eq_none {w : List Char} {n : Node} (h : DerivesTag w n) :
    n.content? = none := by
  cases h
  rfl

/-! ## Derivations in a row -/

/-- A derivation goes on with what is derived behind it. -/
theorem Derives.append {w v : List Char} {ns ms : List Node} :
    Derives w ns → Derives v ms → Derives (w ++ v) (Node.join ns ms)
  | .nil, hv => hv
  | .text hw h, hv => by
    rw [List.append_assoc, Node.join_text_assoc]
    exact .text hw (h.append hv)
  | .tag ht h, hv => by
    rw [List.append_assoc, Node.join_cons ht.content?_eq_none]
    exact .tag ht (h.append hv)

/-! ## Where derivations end -/

/-- No text and no tag starts here. -/
def Stuck (r : List Char) : Prop :=
  Stops isPlainChar r ∧ ∀ w r' n, r = w ++ r' → ¬ DerivesTag w n

theorem stuck_nil : Stuck [] := by
  refine ⟨by simp, fun w r' n hw ht => ht.ne_nil ?_⟩
  exact (List.append_eq_nil_iff.1 hw.symm).1

/-- What is stuck remains so when it is cut off, unless nothing is left of it. -/
theorem Stuck.cut {w r : List Char} (h : Stuck (w ++ r)) (hw : w ≠ []) : Stuck w := by
  refine ⟨?_, fun v r' n hv ht => h.2 v (r' ++ r) n (by rw [hv, List.append_assoc]) ht⟩
  cases w with
  | nil => exact absurd rfl hw
  | cons x w => simpa using h.1

/-- Every text starts with a derivation behind which it is stuck. -/
theorem exists_derives (u : List Char) : ∃ w r ns, u = w ++ r ∧ Derives w ns ∧ Stuck r := by
  induction h : u.length using Nat.strongRecOn generalizing u with
  | _ n ih =>
    obtain ⟨w, r, rfl, hw, hr⟩ := exists_run isPlainChar u
    by_cases hne : w = []
    · subst hne
      by_cases ht : ∃ w r' n, r = w ++ r' ∧ DerivesTag w n
      · obtain ⟨w, r', n, rfl, ht⟩ := ht
        have hpos : 0 < w.length := List.length_pos_iff.2 ht.ne_nil
        obtain ⟨v, z, ns, rfl, hns, hz⟩ := ih r'.length (by simp at h; omega) r' rfl
        exact ⟨w ++ v, z, n :: ns, by simp, .tag ht hns, hz⟩
      · exact ⟨[], r, [], rfl, .nil, hr, fun w r' n hw hn => ht ⟨w, r', n, hw, hn⟩⟩
    · have hpos : 0 < w.length := List.length_pos_iff.2 hne
      obtain ⟨v, z, ns, rfl, hns, hz⟩ := ih r.length (by simp at h; omega) r rfl
      exact ⟨w ++ v, z, _, by simp, .text (isPlain_iff.2 ⟨hne, hw⟩) hns, hz⟩

namespace Grammar

/-- A tag or a text. -/
def item : Rule Node := orElse tag (Parser.map plainText .text)

theorem tag_congr {f g : Cursor → Outcome Empty (List Node)} {c : Cursor}
    (h : ∀ d, d.remaining < c.remaining → f d = g d) :
    tag.run (fun _ => f) c = tag.run (fun _ => g) c := by
  have hs : startTag.run (fun _ => f) c = startTag.run (fun _ => g) c := rfl
  simp only [tag, Parser.run, hs]
  cases ho : startTag.run (fun _ => g) c with
  | failure e => rfl
  | broken cause => rfl
  | success st d =>
    have hlt := reads_startTag.remaining_lt (fun _ _ _ hw => hw.ne_nil) ho
    simp only [Outcome.andThen, h d hlt]
    rfl

theorem item_congr {f g : Cursor → Outcome Empty (List Node)} {c : Cursor}
    (h : ∀ d, d.remaining < c.remaining → f d = g d) :
    item.run (fun _ => f) c = item.run (fun _ => g) c := by
  have ht : plainText.run (fun _ => f) c = plainText.run (fun _ => g) c := rfl
  simp only [item, Parser.run, tag_congr h, ht]

/-- **Inside of a tag** the rule for content is applied as it is: what guards `content` never
comes into play. -/
theorem content_eq_apply (c : Cursor) : content c = apply innerContent c := by
  rw [content]
  refine collect_congr fun d hd => item_congr fun d' hd' => if_pos ?_
  omega

theorem content_eq_collect (c : Cursor) : content c = collect (apply item) [] c :=
  content_eq_apply c

/-! ## One step of a repetition -/

theorem reads_plainText {enter : (k : String) → Cursor → Outcome Empty (List Node)} :
    Reads (plainText.run enter) fun w r s =>
      s = .ofList w ∧ IsPlain w ∧ Stops isPlainChar r := by
  refine ((reads_noneOf ['<', '>']).oneOrMore_char.map spelledText).congr fun w r s => ?_
  rw [isPlain_iff]
  refine ⟨fun h => ?_, fun h => ?_⟩
  · obtain ⟨cs, ⟨⟨rfl, hw, hr⟩, hne⟩, rfl⟩ := h
    exact ⟨spelledText_chars _, ⟨hne, hw⟩, hr⟩
  · obtain ⟨rfl, ⟨hne, hw⟩, hr⟩ := h
    exact ⟨w, ⟨⟨rfl, hw, hr⟩, hne⟩, spelledText_chars w⟩

/-- A tag is a start tag, content, and an end tag of the same name. -/
theorem apply_tag_eq_success {c d : Cursor} {n : Node} :
    apply tag c = success n d ↔ ∃ st body c₁ c₂, apply startTag c = success st c₁ ∧
      content c₁ = success body c₂ ∧ apply endTag c₂ = success st.name d ∧
      n = .tag st.name st.attributes body := by
  simp only [apply, tag, Parser.run]
  refine ⟨fun h => ?_, fun h => ?_⟩
  · obtain ⟨opened, c₂, ho, h⟩ := andThen_eq_success.1 h
    obtain ⟨st, c₁, hs, hmap⟩ := andThen_eq_success.1 ho
    obtain ⟨body, hb, hpair⟩ := map_eq_success.1 hmap
    obtain ⟨name, c₃, he, h⟩ := andThen_eq_success.1 h
    subst hpair
    simp only [decide_eq_true_eq] at h
    split_ifs at h with hname
    injection h with hn hd
    exact ⟨st, body, c₁, c₂, hs, hb, by rw [he, hname, hd], hn.symm⟩
  · obtain ⟨st, body, c₁, c₂, hs, hb, he, rfl⟩ := h
    simp [hs, hb, he, Outcome.andThen, Outcome.map]

theorem content?_of_apply_tag {c d : Cursor} {n : Node} (h : apply tag c = success n d) :
    n.content? = none := by
  obtain ⟨st, body, c₁, c₂, -, -, -, rfl⟩ := apply_tag_eq_success.1 h
  rfl

/-- A tag fails where no start tag can be read. -/
theorem tag_fails {u : List Char} (h : ∀ w r st, u = w ++ r → ¬ DerivesStart w st)
    (b : List Char) : ∃ f, apply tag (between b u) = failure f := by
  cases ho : apply tag (between b u) with
  | failure f => exact ⟨f, rfl⟩
  | broken cause => exact cause.elim
  | success n d =>
    obtain ⟨st, body, c₁, c₂, hs, -, -, -⟩ := apply_tag_eq_success.1 ho
    obtain ⟨w, r, hu, hw⟩ := reads_startTag.sound hs
    exact absurd hw (h w r st hu)

theorem apply_item_of_tag {c d : Cursor} {n : Node} (h : apply tag c = success n d) :
    apply item c = success n d := by
  unfold apply at h ⊢
  simp only [item, Parser.run, h]

theorem apply_item_of_failure {c : Cursor} {f : Failure} (h : apply tag c = failure f) :
    apply item c = (apply plainText c).map .text := by
  unfold apply at h ⊢
  simp only [item, Parser.run, h]

/-- Content that starts with plain characters starts with a text, which holds all of them. -/
theorem content_plain {w r : List Char} (hw : IsPlain w) (hr : Stops isPlainChar r)
    (b : List Char) : content (between b (w ++ r)) =
      (content (between (w.reverse ++ b) r)).map (.text (.ofList w) :: ·) := by
  have htag : ∀ v r' st, w ++ r = v ++ r' → ¬ DerivesStart v st := by
    intro v r' st hv hst
    obtain ⟨x, v, rfl, -⟩ := hst.exists_cons
    obtain ⟨hne, hall⟩ := hw
    cases w with
    | nil => exact hne rfl
    | cons y w =>
      simp only [List.cons_append, List.cons.injEq] at hv
      exact (hall y (by simp)).1 hv.1
  obtain ⟨f, hf⟩ := tag_fails htag b
  have hitem := apply_item_of_failure hf
  have htext := (@reads_plainText fun _ => content).complete ⟨rfl, hw, hr⟩ b
  have hpos : 0 < w.length := List.length_pos_iff.2 hw.1
  rw [content_eq_collect, content_eq_collect]
  refine collect_of_success ?_ (by simp; omega)
  rw [hitem, apply, htext]
  rfl

/-- Content that starts with a tag. -/
theorem content_of_tag {w r b : List Char} {n : Node} (hw : w ≠ [])
    (h : apply tag (between b (w ++ r)) = success n (between (w.reverse ++ b) r)) :
    content (between b (w ++ r)) = (content (between (w.reverse ++ b) r)).map (n :: ·) := by
  have hpos : 0 < w.length := List.length_pos_iff.2 hw
  rw [content_eq_collect, content_eq_collect]
  exact collect_of_success (apply_item_of_tag h) (by simp; omega)

/-- No text starts with an angle bracket. -/
theorem plainText_fails {r : List Char} (hr : Stops isPlainChar r) (b : List Char) :
    ∃ f, apply plainText (between b r) = failure f := by
  refine reads_plainText.exists_failure ?_ b
  intro w r' s hwr hws
  obtain ⟨-, ⟨hne, hw⟩, -⟩ := hws
  subst hwr
  cases w with
  | nil => exact hne rfl
  | cons x w =>
    have hx : isPlainChar x = true := by simpa [isPlainChar] using hw x (by simp)
    simp [hx] at hr

theorem content_of_failure {r b : List Char} {f : Failure} (hr : Stops isPlainChar r)
    (h : apply tag (between b r) = failure f) :
    content (between b r) = success [] (between b r) := by
  obtain ⟨f', hf'⟩ := plainText_fails hr b
  have hitem : apply item (between b r) = failure f' := by
    rw [apply_item_of_failure h, hf']
    rfl
  rw [content_eq_collect]
  exact collect_of_failure hitem

/-- In front of content that does not start with a text, a text stays as it is. -/
theorem content_join_text {r : List Char} (hr : Stops isPlainChar r) (s : String)
    (b : List Char) : (content (between b r)).map (Node.join [.text s]) =
      (content (between b r)).map (.text s :: ·) := by
  cases ho : apply tag (between b r) with
  | broken cause => exact cause.elim
  | failure f =>
    rw [content_of_failure hr ho]
    rfl
  | success n d =>
    cases hc : content (between b r) with
    | failure f => rfl
    | broken cause => exact cause.elim
    | success ns e =>
      rw [content_eq_collect] at hc
      obtain ⟨ns', rfl⟩ := exists_cons_of_collect (apply_item_of_tag ho) hc
      simp only [Outcome.map, Node.join_text_cons (content?_of_apply_tag ho)]

/-- **Texts grow.** Plain characters in front of content become one text with the text that the
content starts with, if it starts with one. -/
theorem content_text_append {w : List Char} (hw : IsPlain w) (b r : List Char) :
    content (between b (w ++ r)) =
      (content (between (w.reverse ++ b) r)).map (Node.join [.text (.ofList w)]) := by
  obtain ⟨v, z, rfl, hv, hz⟩ := exists_run isPlainChar r
  by_cases hne : v = []
  · subst hne
    rw [List.nil_append, content_plain hw hz, content_join_text hz]
  · have hplain : IsPlain v := isPlain_iff.2 ⟨hne, hv⟩
    rw [← List.append_assoc, content_plain (hw.append hplain) hz, content_plain hplain hz,
      Outcome.map_map, List.reverse_append, List.append_assoc]
    simp [String.ofList_append]

/-! ## What the grammar derives is read -/

/-- What the content inside a tag stops at. -/
theorem content_of_end {w b : List Char} {name : String} (h : DerivesEnd w name) (r : List Char) :
    content (between b (w ++ r)) = success [] (between b (w ++ r)) := by
  obtain ⟨v, rfl⟩ := h.exists_cons
  have hstart : ∀ w' r' st, '<' :: '/' :: v ++ r = w' ++ r' → ¬ DerivesStart w' st := by
    intro w' r' st hw hst
    obtain ⟨x, v', rfl, hx⟩ := hst.exists_cons
    simp only [List.cons_append, List.cons.injEq] at hw
    rw [← hw.2.1] at hx
    exact absurd hx (by decide)
  obtain ⟨f, hf⟩ := tag_fails hstart b
  exact content_of_failure (by simp; decide) hf

mutual

/-- **Completeness.** Where the text starts with a derivation, its nodes are read, and then what
follows. -/
theorem content_append {w : List Char} {ns : List Node} :
    Derives w ns → ∀ b r, content (between b (w ++ r)) =
      (content (between (w.reverse ++ b) r)).map (Node.join ns)
  | .nil, b, r => by
    show content (between b r) = (content (between b r)).map (Node.join [])
    cases content (between b r) <;> rfl
  | @Derives.text w v ns hw h, b, r => by
    have hj : Node.join (Node.join [.text (.ofList w)] ns) = fun ms =>
        Node.join [.text (.ofList w)] (Node.join ns ms) :=
      funext (Node.join_text_assoc _ ns)
    rw [List.append_assoc, content_text_append hw, content_append h, map_map, hj,
      List.reverse_append, List.append_assoc]
  | @Derives.tag w v n ns ht h, b, r => by
    have hj : Node.join (n :: ns) = fun ms => n :: Node.join ns ms :=
      funext (Node.join_cons ht.content?_eq_none ns)
    rw [List.append_assoc, content_of_tag ht.ne_nil (apply_tag_append ht b _),
      content_append h, map_map, hj, List.reverse_append, List.append_assoc]

/-- A derived tag is read, whatever follows. -/
theorem apply_tag_append {w : List Char} {n : Node} :
    DerivesTag w n → ∀ b r, apply tag (between b (w ++ r)) =
      success n (between (w.reverse ++ b) r)
  | @DerivesTag.mk s w e st body hs h he, b, r => by
    have hc := content_append h (s.reverse ++ b) (e ++ r)
    rw [content_of_end he, map_success, Node.join_nil_right] at hc
    refine apply_tag_eq_success.2 ⟨_, _, _, _, ?_, hc, ?_, rfl⟩
    · rw [List.append_assoc, List.append_assoc]
      exact reads_startTag.complete hs b
    · rw [List.reverse_append, List.reverse_append, List.append_assoc, List.append_assoc]
      exact reads_endTag.complete he _

end

/-! ## What is read is derived by the grammar -/

/-- **Soundness.** Where the grammar derives nothing, nothing is read. The induction is on the
length of the text: a tag that were read there would hold shorter content, which is read as it
is derived. -/
theorem content_of_stuck {r : List Char} (hr : Stuck r) (b : List Char) :
    content (between b r) = success [] (between b r) := by
  induction h : r.length using Nat.strongRecOn generalizing r b with
  | _ n ih =>
    cases ho : apply tag (between b r) with
    | broken cause => exact cause.elim
    | failure f => exact content_of_failure hr.1 ho
    | success m d =>
      obtain ⟨st, body, c₁, c₂, hso, hc, heo, rfl⟩ := apply_tag_eq_success.1 ho
      obtain ⟨s, u, rfl, rfl, hs⟩ := reads_startTag.sound_cursor hso
      have hpos : 0 < s.length := List.length_pos_iff.2 hs.ne_nil
      obtain ⟨w, z, ns, rfl, hns, hz⟩ := exists_derives u
      -- the start tag is not empty, so what the content stops at is shorter than `r`
      have hstop := ih z.length (by simp at h; omega) hz (w.reverse ++ (s.reverse ++ b)) rfl
      rw [content_append hns, hstop, map_success, Node.join_nil_right] at hc
      injection hc with hbody hc₂
      subst hbody hc₂
      obtain ⟨e, z, rfl, he⟩ := reads_endTag.sound heo
      exact absurd (.mk hs hns he) (hr.2 (s ++ w ++ e) z _ (by simp))

theorem content_of_derives {w r : List Char} {ns : List Node} (h : Derives w ns) (hr : Stuck r)
    (b : List Char) :
    content (between b (w ++ r)) = success ns (between (w.reverse ++ b) r) := by
  rw [content_append h, content_of_stuck hr, map_success, Node.join_nil_right]

/-- **Content.** What is read is a derivation behind which the text is stuck. -/
theorem reads_content : Reads content fun w r ns => Derives w ns ∧ Stuck r where
  complete h b := content_of_derives h.1 h.2 b
  sound := by
    intro b u ns d hs
    obtain ⟨w, r, ns', rfl, h, hr⟩ := exists_derives u
    rw [content_of_derives h hr b] at hs
    injection hs with hns
    exact ⟨w, r, rfl, hns ▸ h, hr⟩

/-- **Tags.** What is read is what the grammar derives, whatever follows. -/
theorem reads_tag : Reads (apply tag) fun w _ n => DerivesTag w n where
  complete h b := apply_tag_append h b _
  sound := by
    intro b u n d hs
    obtain ⟨st, body, c₁, c₂, hso, hc, heo, rfl⟩ := apply_tag_eq_success.1 hs
    obtain ⟨s, u, rfl, rfl, hst⟩ := reads_startTag.sound_cursor hso
    obtain ⟨w, u, rfl, rfl, hw, -⟩ := reads_content.sound_cursor hc
    obtain ⟨e, r, rfl, he⟩ := reads_endTag.sound heo
    exact ⟨s ++ w ++ e, r, by simp, .mk hst hw he⟩

end Grammar

end TagMarkup

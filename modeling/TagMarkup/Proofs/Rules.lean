import TagMarkup.Proofs.Cells
import TagMarkup.Proofs.Content
import TagMarkup.Proofs.Places

/-!
# The rules of the grammar

The rules that a grammar offers, and those among them that end with a mark of their own.

**Theorem (`Grammar.apply_of_isBracketed`).** What a tag, a start tag, an end tag or an attribute
reads does not depend on what follows it: with anything else behind its end, or nothing, it is
read again with the same value. This fails for texts and for content, which go on as far as they
can.
-/

namespace TagMarkup

open Cursor Outcome

variable {ε α : Type}

/-- Where what is read does not depend on what follows, the same is read in front of any other
text. -/
theorem Reads.success_of_rest {attempt : Cursor → Outcome ε α} {R : List Char → α → Prop}
    (h : Reads attempt fun w _ a => R w a) {c d : Cursor} {a : α} (hs : attempt c = success a d) :
    ∃ w, c.Leads w d ∧
      ∀ r, attempt (between c.before (w ++ r)) = success a (between d.before r) := by
  obtain ⟨w, hlead, hR⟩ := h.eq_success_iff.1 hs
  refine ⟨w, hlead, fun r => ?_⟩
  rw [hlead.before]
  exact h.complete hR c.before

namespace Grammar

/-- The rules that a grammar offers. -/
inductive IsRule : {α : Type} → Rule α → Prop
  | root : IsRule root
  | innerContent : IsRule innerContent
  | tag : IsRule tag
  | plainText : IsRule plainText
  | startTag : IsRule startTag
  | endTag : IsRule endTag
  | entry : IsRule entry

/-- The rules for what ends with a mark of its own. -/
inductive IsBracketed : {α : Type} → Rule α → Prop
  | tag : IsBracketed tag
  | startTag : IsBracketed startTag
  | endTag : IsBracketed endTag
  | entry : IsBracketed entry

/-- No rule holds functions. -/
theorem leaves_of_isRule {rule : Rule α} (h : IsRule rule)
    (P : (α : Type) → (Cursor → Outcome Empty α) → Prop) : rule.Leaves P := by
  cases h <;> simp [root, innerContent, tag, plainText, startTag, endTag, entry, entries, name,
    value, gap, Parser.left, Parser.right, Parser.neither, Parser.text, Parser.letterOrDigit,
    Parser.whitespace, Parser.space, Parser.newline, Parser.Leaves]

theorem reads_of_isBracketed {rule : Rule α} (h : IsBracketed rule) :
    ∃ R : List Char → α → Prop, Reads (apply rule) fun w _ a => R w a := by
  cases h with
  | tag => exact ⟨DerivesTag, reads_tag⟩
  | startTag => exact ⟨DerivesStart, reads_startTag⟩
  | endTag => exact ⟨DerivesEnd, reads_endTag⟩
  | entry => exact ⟨DerivesEntry, reads_entry⟩

/-- **Tags and their parts are self-delimiting.** Where such a rule succeeds, it succeeds at the
same offset of what the text is up to its end followed by any other text, with the same value and
the same end. -/
theorem apply_of_isBracketed {rule : Rule α} (hrule : IsBracketed rule) {c d : Cursor} {a : α}
    (h : apply rule c = success a d) (u : String) :
    d.sourceText = c.sourceText ∧
      (∃ c' : Cursor, c'.sourceText = d.consumed ++ u ∧ c'.offset = c.offset) ∧
      ∀ c' : Cursor, c'.sourceText = d.consumed ++ u → c'.offset = c.offset →
        ∃ d' : Cursor, apply rule c' = success a d' ∧ d'.sourceText = d.consumed ++ u ∧
          d'.offset = d.offset := by
  obtain ⟨R, hR⟩ := reads_of_isBracketed hrule
  obtain ⟨w, hlead, happly⟩ := hR.success_of_rest h
  have htext : (between d.before u.toList).sourceText = d.consumed ++ u := by
    rw [sourceText_between, String.ofList_toList, consumed]
  have hsource : (between c.before (w ++ u.toList)).sourceText = d.consumed ++ u := by
    rw [← htext, hlead.before]
    exact (leads_between _ w _).onward.sourceText_eq.symm
  refine ⟨hlead.onward.sourceText_eq, ⟨_, hsource, c.offset_eq.symm⟩, fun c' hs ho => ?_⟩
  obtain rfl : c' = between c.before (w ++ u.toList) :=
    eq_of_offset_eq (String.ofList_injective (hs.trans hsource.symm)) (ho.trans c.offset_eq)
  exact ⟨_, happly u.toList, htext, d.offset_eq.symm⟩

/-- A tag behind a character of two bytes, with another end tag put behind it. -/
theorem apply_of_isBracketed_reclosed :
    apply tag (between ['é'] "<a>b</a>c".toList) =
        success (.tag "a" .empty [.text "b"]) (between "é<a>b</a>".toList.reverse ['c']) ∧
      ∃ c' d' : Cursor, c'.sourceText = "é<a>b</a>" ++ "</a>" ∧ c'.offset = 2 ∧
        apply tag c' = success (.tag "a" .empty [.text "b"]) d' ∧
        d'.sourceText = "é<a>b</a>" ++ "</a>" ∧ d'.offset = 10 := by
  have h : apply tag (between ['é'] "<a>b</a>c".toList) =
      success (.tag "a" .empty [.text "b"]) (between "é<a>b</a>".toList.reverse ['c']) := by
    decide +kernel
  obtain ⟨-, ⟨c', hs, ho⟩, happly⟩ := apply_of_isBracketed .tag h "</a>"
  obtain ⟨d', hd⟩ := happly c' hs ho
  exact ⟨h, c', d', hs, ho, hd⟩

end Grammar

end TagMarkup

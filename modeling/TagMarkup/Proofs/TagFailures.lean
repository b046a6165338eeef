import TagMarkup.Proofs.Content
import TagMarkup.Proofs.Failures
import TagMarkup.Proofs.StartTags

/-!
# Why a tag fails

**Theorem (`Grammar.tag_failure`).** A tag fails because its start tag does, because its end tag
does where the content stops, or because the names differ. The failure of a part is reported
unchanged, and different names are reported where the tag starts. So a failed validation where the
tag starts means different names, further on it means two equal keys in this very start tag, and
what goes wrong inside a nested tag is never reported: the content stops in front of it, and the end
tag is missing there.

Content never fails, so whatever went wrong inside of it is lost. What is left to show is which
parts can report a failed validation at all. Of the start tag only the attributes can, and of the
end tag nothing can, since they hold no other part that validates
(`Grammar.failureLaw_unvalidated`).
-/

namespace TagMarkup

open Cursor Outcome TagMarkup.Parser

namespace Grammar

/-! ## What content reports -/

/-- Content never fails. -/
theorem content_ne_failure (c : Cursor) (f : Failure) : content c ≠ failure f := by
  rw [content_eq_collect]
  exact collect_ne_failure _ c f

theorem reports_content (T : Cursor → Failure → Prop) : Reports T content where
  forward c := by
    cases ho : content c with
    | success body d =>
      obtain ⟨_, hlead, -⟩ := reads_content.eq_success_iff.1 ho
      exact ahead_success.2 hlead.onward
    | failure f => exact absurd ho (content_ne_failure c f)
    | broken cause => exact cause.elim
  failed {c f} h := absurd h (content_ne_failure c f)

/-! ## Parts that do not validate -/

/-- Whether a part is neither a function nor rejects values. -/
def isUnvalidated (p : Part Empty (Uniform (List Node))) : Bool :=
  !p.2.isFunction && !p.2.validates

theorem failureLaw_unvalidated :
    FailureLaw (isUnvalidated · = true) fun _ f => f.reason ≠ .validationFailed where
  handedOn _ h := h
  noFunction h := by simp_all [isUnvalidated]
  primitive {p c f} _ hprim hrun := by
    rcases failure_of_isPrimitive hprim (hrun fun _ => content) with ⟨-, rfl⟩ | ⟨x, -, hx, -⟩
    · nofun
    · intro h
      rw [h] at hx
      cases hx
  relocated _ _ h := h
  rejected hp hv := by simp_all [isUnvalidated]
  trailing _ := nofun

/-- A parser without parts that validate reports no failed validation. -/
theorem ne_validationFailed {α : Type} {p : Rule α} (hp : p.parts.all isUnvalidated = true)
    (c d : Cursor) : p.run (fun _ => content) c ≠ failure ⟨.validationFailed, d⟩ := fun h =>
  (reports_run failureLaw_unvalidated (fun _ => reports_content _)
    (List.all_eq_true.1 hp)).failed h rfl

/-! ## Two equal keys -/

/-- Behind the `<` and the name of a start tag at `c`, at the place `d`, there are attributes of
which two have equal keys. -/
def RepeatsKey (c d : Cursor) : Prop :=
  ∃ name v es, IsName name ∧ c.Leads ('<' :: name) d ∧ v <+: d.unread ∧ DerivesEntries v es ∧
    ¬ (es.map Prod.fst).Nodup

theorem RepeatsKey.offset_lt {c d : Cursor} (h : RepeatsKey c d) : c.offset < d.offset := by
  obtain ⟨name, v, es, -, hlead, -⟩ := h
  have := '<'.utf8Size_pos
  rw [hlead.offset_eq, utf8Length_cons]
  omega

/-- Attributes are rejected where they start, and only for equal keys. -/
theorem entries_eq_validationFailed {c d : Cursor}
    (h : entries.run (fun _ => content) c = failure ⟨.validationFailed, d⟩) :
    d = c ∧ ∃ v es, v <+: c.unread ∧ DerivesEntries v es ∧ ¬ (es.map Prod.fst).Nodup := by
  rw [entries, Parser.run, map_eq_failure, Parser.run] at h
  rcases andThen_eq_failure.1 h with h | ⟨es, e, hmany, h⟩
  · exact absurd h (collect_ne_failure _ _ _)
  obtain ⟨hkeys, hd⟩ := ite_eq_failure.1 h
  obtain ⟨v, hlead, hrepeated⟩ :=
    (reads_spacedEntry.many fun _ _ _ he => he.ne_nil).eq_success_iff.1 hmany
  refine ⟨(congrArg Failure.cursor hd).symm, v, es, ⟨e.unread, hlead.unread.symm⟩,
    (repeated_spacedEntry.1 hrepeated).1, ?_⟩
  rwa [distinctKeys_iff] at hkeys

/-- A start tag reports a failed validation right behind the name if two keys are equal, and
nowhere else. -/
theorem startTag_eq_validationFailed_iff {c d : Cursor} :
    apply startTag c = failure ⟨.validationFailed, d⟩ ↔ RepeatsKey c d := by
  refine ⟨fun h => ?_, fun h => ?_⟩
  · simp only [apply, startTag, left, Parser.run] at h
    -- of the parts in turn, the name, the white space and the bracket do not validate
    rcases andThen_eq_failure.1 h with h | ⟨_, _, _, h⟩
    · rcases andThen_eq_failure.1 h with h | ⟨_, _, _, h⟩
      · rcases andThen_eq_failure.1 h with h | ⟨s, c₁, hopen, h⟩
        · exact absurd h (ne_validationFailed (p := right (literal '<') Grammar.name) rfl _ _)
        · obtain ⟨rfl, v, es, hv, hes, hdup⟩ := entries_eq_validationFailed (map_eq_failure.1 h)
          obtain ⟨_, hlead, name, rfl, -, hname, -⟩ :=
            (reads_name.right_literal '<').eq_success_iff.1 hopen
          exact ⟨name, v, es, hname, hlead, hv, hes, hdup⟩
      · exact absurd (map_eq_failure.1 h) (ne_validationFailed (p := gap) rfl _ _)
    · exact absurd (map_eq_failure.1 h) (ne_validationFailed (p := literal '>') rfl _ _)
  · obtain ⟨name, v, es, hname, hlead, hv, hes, hdup⟩ := h
    exact startTag_of_duplicate hname hes hdup hlead hv

/-! ## Tags -/

/-- The start tag of a tag at `c` fails. -/
def OpeningFails (c : Cursor) (f : Failure) : Prop := apply startTag c = failure f

/-- Behind the start tag of a tag at `c`, the end tag fails where the content stops. -/
def ClosingFails (c : Cursor) (f : Failure) : Prop :=
  ∃ st c₁ body m, apply startTag c = success st c₁ ∧ apply innerContent c₁ = success body m ∧
    apply endTag m = failure f

/-- A start tag at `c`, content and an end tag are read, but the names are different. -/
def NamesDiffer (c : Cursor) : Prop :=
  ∃ st c₁ body m name d, apply startTag c = success st c₁ ∧
    apply innerContent c₁ = success body m ∧ apply endTag m = success name d ∧ st.name ≠ name

/-- Content does not fail, so a tag has three ways to do so. -/
theorem apply_tag_eq_failure {c : Cursor} {f : Failure} :
    apply tag c = failure f ↔
      OpeningFails c f ∨ ClosingFails c f ∨ NamesDiffer c ∧ f = ⟨.validationFailed, c⟩ := by
  simp only [OpeningFails, ClosingFails, NamesDiffer, ← content_eq_apply]
  refine ⟨fun h => ?_, fun h => ?_⟩
  · simp only [apply, tag, Parser.run] at h
    rcases andThen_eq_failure.1 h with h | ⟨opened, m, ho, h⟩
    · rcases andThen_eq_failure.1 h with h | ⟨st, c₁, -, h⟩
      · exact .inl h
      · exact absurd (map_eq_failure.1 h) (content_ne_failure c₁ f)
    obtain ⟨st, c₁, hs, hmap⟩ := andThen_eq_success.1 ho
    obtain ⟨body, hb, rfl⟩ := map_eq_success.1 hmap
    rcases andThen_eq_failure.1 h with h | ⟨name, d, he, h⟩
    · exact .inr (.inl ⟨st, c₁, body, m, hs, hb, h⟩)
    · obtain ⟨hne, rfl⟩ := ite_eq_failure.1 h
      exact .inr (.inr ⟨⟨st, c₁, body, m, name, d, hs, hb, he, by simpa using hne⟩, rfl⟩)
  · simp only [apply, tag, Parser.run] at h ⊢
    rcases h with hs | ⟨st, c₁, body, m, hs, hb, he⟩ |
      ⟨⟨st, c₁, body, m, name, d, hs, hb, he, hne⟩, rfl⟩
    · simp [hs, Outcome.andThen]
    · simp [hs, hb, he, Outcome.andThen, Outcome.map]
    · simp [hs, hb, he, hne, Outcome.andThen, Outcome.map]

/-- Of `<` and another character than `/`, the end tag refuses the second one. -/
theorem endTag_of_ne_slash {m d : Cursor} {x : Char} (hd : m.Leads ['<', x] d) (hx : x ≠ '/') :
    apply endTag m = failure ⟨.mismatch x '/', d⟩ := by
  rw [hd.eq_right, hd.eq_left]
  simp [apply, endTag, left, right, neither, Parser.run, ofChar, Outcome.andThen, Outcome.map, hx]

/-- **Why a tag fails.** A tag fails for exactly one of three reasons: its start tag fails, and that
failure is reported; its end tag fails where the content stops, and that failure is reported; or
the names differ, and that is reported where the tag starts. So a failed validation is reported
where the tag starts exactly if the names differ, and further on exactly if this very start tag
has two equal keys. Where the content stops in front of `<` and a character other than `/`, that
character is reported, whatever is wrong with what starts there. -/
theorem tag_failure (c : Cursor) :
    (∀ f, (apply tag c = failure f ↔
        OpeningFails c f ∨ ClosingFails c f ∨ NamesDiffer c ∧ f = ⟨.validationFailed, c⟩) ∧
      ¬ (OpeningFails c f ∧ ClosingFails c f) ∧ ¬ (OpeningFails c f ∧ NamesDiffer c) ∧
      ¬ (ClosingFails c f ∧ NamesDiffer c)) ∧
    (apply tag c = failure ⟨.validationFailed, c⟩ ↔ NamesDiffer c) ∧
    (∀ d, apply tag c = failure ⟨.validationFailed, d⟩ ∧ c.offset < d.offset ↔ RepeatsKey c d) ∧
    ∀ st c₁ body m x d, apply startTag c = success st c₁ → apply innerContent c₁ = success body m →
      m.Leads ['<', x] d → x ≠ '/' → apply tag c = failure ⟨.mismatch x '/', d⟩ := by
  refine ⟨fun f => ⟨apply_tag_eq_failure, ?_, ?_, ?_⟩, ?_, fun d => ?_, ?_⟩
  · rintro ⟨hs, st, c₁, body, m, hs', -⟩
    rw [OpeningFails, hs'] at hs
    cases hs
  · rintro ⟨hs, st, c₁, body, m, name, d, hs', -⟩
    rw [OpeningFails, hs'] at hs
    cases hs
  · rintro ⟨⟨st, c₁, body, m, hs, hb, he⟩, st', c₁', body', m', name, d, hs', hb', he', -⟩
    cases hs.symm.trans hs'
    cases hb.symm.trans hb'
    cases he.symm.trans he'
  · rw [apply_tag_eq_failure]
    refine ⟨fun h => ?_, fun h => .inr (.inr ⟨h, rfl⟩)⟩
    rcases h with h | ⟨st, c₁, body, m, -, -, h⟩ | ⟨h, -⟩
    · exact absurd (startTag_eq_validationFailed_iff.1 h).offset_lt (Nat.lt_irrefl _)
    · exact absurd h (ne_validationFailed (p := endTag) rfl m c)
    · exact h
  · rw [apply_tag_eq_failure]
    refine ⟨fun ⟨h, hlt⟩ => ?_, fun h => ?_⟩
    · rcases h with h | ⟨st, c₁, body, m, -, -, h⟩ | ⟨-, h⟩
      · exact startTag_eq_validationFailed_iff.1 h
      · exact absurd h (ne_validationFailed (p := endTag) rfl m d)
      · cases h
        exact absurd hlt (Nat.lt_irrefl _)
    · exact ⟨.inl (startTag_eq_validationFailed_iff.2 h), h.offset_lt⟩
  · intro st c₁ body m x d hs hb hd hx
    exact apply_tag_eq_failure.2 (.inr (.inl ⟨st, c₁, body, m, hs, hb, endTag_of_ne_slash hd hx⟩))

/-- The names of the nested tag differ. The outer tag reports the name of the nested one, where an
end tag should be. -/
theorem tag_failure_nested :
    apply tag (between "<a>".toList.reverse "<é></a>".toList) =
        failure ⟨.validationFailed, between "<a>".toList.reverse "<é></a>".toList⟩ ∧
      NamesDiffer (between "<a>".toList.reverse "<é></a>".toList) ∧
      apply tag (start "<a><é></a>") =
        failure ⟨.mismatch 'é' '/', between "<a><é".toList.reverse "></a>".toList⟩ := by
  have h : apply tag (between "<a>".toList.reverse "<é></a>".toList) =
      failure ⟨.validationFailed, between "<a>".toList.reverse "<é></a>".toList⟩ := by
    decide +kernel
  refine ⟨h, (tag_failure _).2.1.1 h, ?_⟩
  refine (tag_failure (start "<a><é></a>")).2.2.2 ⟨"a", .empty⟩
    (between "<a>".toList.reverse "<é></a>".toList) []
    (between "<a>".toList.reverse "<é></a>".toList) 'é' _ ?_ ?_ ⟨?_, ?_⟩ ?_
  all_goals decide +kernel

end Grammar

end TagMarkup

import Mathlib.Data.String.Basic
import TagMarkup.Proofs.Positions

/-!
# Places in a text

A cursor is a pair of lists, and what is said about texts and byte offsets is read off from it:
the offset falls between two characters (`Cursor.isValid_offset`), it splits the text into what
was read and what is unread (`Cursor.consumed_append_rest`), and a text has one cursor at most
for each offset (`Cursor.eq_of_offset_eq`).

`c.Leads w d` says that reading `w` leads from `c` to `d`. Then `w` is the part of the text
between the two offsets (`Cursor.Leads.extract_eq`). Some `w` leads from `c` to `d` exactly when
`d` is a place of the same text and lies no earlier (`Cursor.onward_iff`).
-/

namespace TagMarkup

theorem utf8Length_eq_zero {cs : List Char} : utf8Length cs = 0 ↔ cs = [] := by
  cases cs with
  | nil => simp
  | cons c cs =>
    have := c.utf8Size_pos
    simp only [utf8Length_cons, reduceCtorEq, iff_false]
    omega

theorem utf8Len_eq (cs : List Char) : String.utf8Len cs = utf8Length cs := by
  induction cs with
  | nil => rfl
  | cons c cs ih => rw [String.utf8Len_cons, ih, utf8Length_cons, Nat.add_comm]

namespace Cursor

/-! ## The text around a cursor -/

/-- The text that the cursor points into. -/
def sourceText (c : Cursor) : String := .ofList c.source

/-- The text before the cursor. -/
def consumed (c : Cursor) : String := .ofList c.before.reverse

theorem sourceText_between (b r : List Char) :
    (between b r).sourceText = .ofList b.reverse ++ .ofList r := String.ofList_append

theorem consumed_append_rest (c : Cursor) : c.consumed ++ c.rest = c.sourceText := by
  rw [c.eq_between]
  exact (sourceText_between _ _).symm

theorem utf8ByteSize_consumed (c : Cursor) : c.consumed.utf8ByteSize = c.offset := by
  rw [consumed, utf8ByteSize_ofList, utf8Length_reverse, c.offset_eq]

/-- The offset lies between two characters, or at an end of the text. -/
theorem isValid_offset (c : Cursor) : String.Pos.Raw.IsValid c.sourceText ⟨c.offset⟩ := by
  refine String.Pos.Raw.isValid_iff_exists_append.2 ⟨c.consumed, c.rest, ?_, ?_⟩
  · exact c.consumed_append_rest.symm
  · rw [← c.utf8ByteSize_consumed]
    rfl

theorem offset_le_sourceLength (c : Cursor) : c.offset ≤ c.sourceLength := Nat.le_add_right _ _

/-! ## From one cursor to another -/

/-- Reading `w` leads from one cursor to the other. -/
structure Leads (c : Cursor) (w : List Char) (d : Cursor) : Prop where
  unread : c.unread = w ++ d.unread
  before : d.before = w.reverse ++ c.before

theorem leads_between (b w r : List Char) :
    (between b (w ++ r)).Leads w (between (w.reverse ++ b) r) := ⟨rfl, rfl⟩

namespace Leads

variable {c d e : Cursor} {w v : List Char}

theorem refl (c : Cursor) : c.Leads [] c := ⟨rfl, rfl⟩

theorem trans (h : c.Leads w d) (k : d.Leads v e) : c.Leads (w ++ v) e where
  unread := by rw [h.unread, k.unread, List.append_assoc]
  before := by rw [k.before, h.before, List.reverse_append, List.append_assoc]

theorem source_eq (h : c.Leads w d) : d.source = c.source := by
  simp [source, h.unread, h.before]

theorem offset_eq (h : c.Leads w d) : d.offset = c.offset + utf8Length w := by
  rw [d.offset_eq, c.offset_eq, h.before, utf8Length_append, utf8Length_reverse, Nat.add_comm]

/-- The first cursor, in terms of the second. -/
theorem eq_left (h : c.Leads w d) : c = between c.before (w ++ d.unread) := ext_lists rfl h.unread

/-- The second cursor, in terms of the first. -/
theorem eq_right (h : c.Leads w d) : d = between (w.reverse ++ c.before) d.unread :=
  ext_lists h.before rfl

/-- What leads from one cursor to another is the text between their offsets. -/
theorem extract_eq (h : c.Leads w d) :
    String.Pos.Raw.extract c.sourceText ⟨c.offset⟩ ⟨d.offset⟩ = .ofList w := by
  have hs := String.extract_of_valid c.before.reverse w d.unread
  rw [utf8Len_eq, utf8Len_eq, utf8Length_reverse, ← c.offset_eq, ← h.offset_eq] at hs
  rw [← hs, sourceText, source, h.unread, List.append_assoc]

end Leads

/-- Where no character comes next, nothing is unread. -/
theorem atEnd_of_next?_eq_none {c : Cursor} (h : c.next? = none) : c.atEnd = true := by
  rw [c.eq_between] at h ⊢
  cases hu : c.unread with
  | nil => rfl
  | cons x u => simp [hu] at h

theorem leads_of_next? {c d : Cursor} {x : Char} (h : c.next? = some (x, d)) :
    c.Leads [x] d := by
  rw [c.eq_between] at h ⊢
  cases hu : c.unread with
  | nil => simp [hu] at h
  | cons y u =>
    simp only [hu, next?_between_cons, Option.some.injEq, Prod.mk.injEq] at h
    obtain ⟨rfl, rfl⟩ := h
    exact leads_between _ [y] u

theorem leads_of_readMany {c d : Cursor} {n : Nat} {cs : List Char}
    (h : c.readMany n = .ok (cs, d)) : c.Leads cs d := by
  rw [c.eq_between, readMany_between] at h
  split_ifs at h with hn
  simp only [Except.ok.injEq, Prod.mk.injEq] at h
  obtain ⟨rfl, rfl⟩ := h
  exact ⟨(List.take_append_drop n c.unread).symm, rfl⟩

/-! ## Places further on -/

/-- The second cursor points into the same text and lies no earlier. -/
def Onward (c d : Cursor) : Prop := d.source = c.source ∧ c.offset ≤ d.offset

theorem Leads.onward {c d : Cursor} {w : List Char} (h : c.Leads w d) : c.Onward d :=
  ⟨h.source_eq, by rw [h.offset_eq]; omega⟩

/-- A place further on is reached by reading. -/
theorem onward_iff {c d : Cursor} : c.Onward d ↔ ∃ w, c.Leads w d := by
  refine ⟨fun h => ?_, fun ⟨w, h⟩ => h.onward⟩
  obtain ⟨hs, ho⟩ := h
  rcases List.append_eq_append_iff.1 hs with ⟨w, hc, hd⟩ | ⟨w, hd, hc⟩
  · -- the cursors are the wrong way round, so nothing lies between them
    have hw : utf8Length w = 0 := by
      rw [c.offset_eq, d.offset_eq, ← utf8Length_reverse c.before, hc, utf8Length_append,
        utf8Length_reverse] at ho
      omega
    rw [utf8Length_eq_zero] at hw
    subst hw
    exact ⟨[], hd.symm, by simpa using congrArg List.reverse hc.symm⟩
  · exact ⟨w, hc, by simpa using congrArg List.reverse hd⟩

namespace Onward

variable {c d e : Cursor}

@[refl] theorem refl (c : Cursor) : c.Onward c := ⟨rfl, Nat.le_refl _⟩

theorem trans (h : c.Onward d) (k : d.Onward e) : c.Onward e :=
  ⟨k.1.trans h.1, Nat.le_trans h.2 k.2⟩

/-- Further on, fewer characters are unread. -/
theorem remaining_lt_iff (h : c.Onward d) : d.remaining < c.remaining ↔ c.offset < d.offset := by
  obtain ⟨w, hw⟩ := onward_iff.1 h
  rw [hw.offset_eq, c.remaining_eq, d.remaining_eq, hw.unread, List.length_append]
  have hpos : 0 < utf8Length w ↔ 0 < w.length := by
    rw [Nat.pos_iff_ne_zero, Ne, utf8Length_eq_zero, List.length_pos_iff]
  omega

theorem offset_le_sourceLength (h : c.Onward d) : d.offset ≤ c.sourceLength := by
  rw [sourceLength_eq, ← h.1, ← sourceLength_eq]
  exact d.offset_le_sourceLength

theorem sourceText_eq (h : c.Onward d) : d.sourceText = c.sourceText :=
  congrArg String.ofList h.1

end Onward

/-- A text has one cursor at most for each offset. -/
theorem eq_of_offset_eq {c d : Cursor} (hs : d.source = c.source) (ho : d.offset = c.offset) :
    d = c := by
  obtain ⟨w, h⟩ := onward_iff.1 ⟨hs, Nat.le_of_eq ho.symm⟩
  have hw : utf8Length w = 0 := by
    have := h.offset_eq
    omega
  rw [utf8Length_eq_zero] at hw
  subst hw
  exact ext_lists h.before h.unread.symm

end Cursor

end TagMarkup

import TagMarkup.Proofs.Places
import TagMarkup.Proofs.Repetition

/-!
# Values that spell what was read

**Theorem (`Parser.extract_of_isLossless`).** A parser that keeps the values of all its parts, in
their order, loses no character and repeats none: its value spells the text between the two
cursors.

The parsers are those of `Parser.IsLossless`. A parser there may throw away what it read only by
failing, and what is read by a failing attempt is read again by the next one. So the proof looks
at successes alone. For a repetition it is an induction over the attempts that count, and an
attempt that reads nothing is among them, with a value that spells nothing.
-/

namespace TagMarkup

open Cursor Outcome

/-! ## Attempts -/

section Attempts

variable {ε α : Type}

/-- The value of a success spells what was read. -/
def Spells [Spelled α] (attempt : Cursor → Outcome ε α) : Prop :=
  ∀ {c d : Cursor} {a : α}, attempt c = success a d → c.Leads (spelling a) d

theorem spelling_cons [Spelled α] (a : α) (as : List α) :
    spelling (a :: as) = spelling a ++ spelling as := List.flatMap_cons

theorem spells_ofChar (refuse : Char → Option Reason) :
    Spells (ofChar refuse : Cursor → Outcome ε Char) := by
  intro c d x h
  unfold ofChar at h
  cases hn : c.next? with
  | none => simp [hn] at h
  | some read =>
    simp only [hn] at h
    split at h
    · cases h
      exact leads_of_next? hn
    · cases h

namespace Spells

variable [Spelled α] {attempt : Cursor → Outcome ε α}

theorem collect (h : Spells attempt) : Spells (collect attempt []) := by
  intro c d as
  refine collect_induction (P := fun c o => ∀ {as d}, o = success as d → c.Leads (spelling as) d)
    ?failed ?brokenOff ?still ?goesOn c
  case failed =>
    intro c f _ as d hs
    cases hs
    exact .refl c
  case brokenOff => exact fun c cause _ as d hs => nomatch hs
  case still =>
    intro c a e ho _ as d hs
    cases hs
    rw [spelling_cons]
    exact (h ho).trans (.refl e)
  case goesOn =>
    intro c a e ho _ ih as d hs
    obtain ⟨as', hs', rfl⟩ := map_eq_success.1 hs
    rw [spelling_cons]
    exact (h ho).trans (ih hs')

theorem collectOne (h : Spells attempt) : Spells (collectOne attempt) := by
  intro c d as hs
  rw [collectOne_eq] at hs
  split at hs
  · cases hs
  · exact h.collect hs

theorem collectExactly (h : Spells attempt) (n : Nat) : Spells (collectExactly attempt [] n) := by
  intro c d as hs
  induction n generalizing c as with
  | zero =>
    cases hs
    exact .refl _
  | succ n ih =>
    rw [collectExactly_succ] at hs
    obtain ⟨a, e, ho, hs⟩ := andThen_eq_success.1 hs
    obtain ⟨as', hs', rfl⟩ := map_eq_success.1 hs
    rw [spelling_cons]
    exact (h ho).trans (ih hs')

end Spells

end Attempts

/-! ## Parsers -/

namespace Parser

variable {κ ε : Type} {ν : κ → Type} {α : Type}

/-- Parsers that keep the values of all their parts in order. A function inside of one reads a
number of characters at once, possibly none, and yields them. -/
inductive IsLossless : {α : Type} → [Spelled α] → Parser ε ν α → Prop
  | any : IsLossless any
  | literal (expected : Char) : IsLossless (literal expected)
  | satisfy (test : Char → Bool) (label : String) : IsLossless (satisfy test label)
  | noneOf (excluded : List Char) : IsLossless (noneOf excluded)
  | ofFn {α : Type} [Spelled α] {f : Cursor → Outcome ε α} :
      (∀ c a d, f c = .success a d → ∃ n, c.readMany n = .ok (spelling a, d)) →
      IsLossless (ofFn f)
  | sequence {α β γ : Type} [Spelled α] [Spelled β] [Spelled γ] {p : Parser ε ν α}
      {q : Parser ε ν β} {f : α → β → γ} : IsLossless p → IsLossless q →
      (∀ a b, spelling (f a b) = spelling a ++ spelling b) → IsLossless (sequence p q f)
  | sequenceIf {α β γ : Type} [Spelled α] [Spelled β] [Spelled γ] {p : Parser ε ν α}
      {q : Parser ε ν β} {f : α → β → γ} {fit : α → β → Bool} : IsLossless p → IsLossless q →
      (∀ a b, spelling (f a b) = spelling a ++ spelling b) → IsLossless (sequenceIf p q f fit)
  | orElse {α : Type} [Spelled α] {p q : Parser ε ν α} : IsLossless p → IsLossless q →
      IsLossless (orElse p q)
  | many {α : Type} [Spelled α] {p : Parser ε ν α} : IsLossless p → IsLossless (many p)
  | oneOrMore {α : Type} [Spelled α] {p : Parser ε ν α} : IsLossless p → IsLossless (oneOrMore p)
  | exactly {α : Type} [Spelled α] [Sized α] {p : Parser ε ν α} {count : Nat} {cause : ε} :
      IsLossless p → IsLossless (exactly p count cause)
  | text {α : Type} [Spelled α] {p : Parser ε ν α} : IsLossless p → IsLossless (text p)
  | chars {α : Type} [Spelled α] {p : Parser ε ν α} : IsLossless p → IsLossless (chars p)
  | validate {α : Type} [Spelled α] {p : Parser ε ν α} {valid : α → Bool} : IsLossless p →
      IsLossless (validate p valid)
  | toEnd {α : Type} [Spelled α] {p : Parser ε ν α} : IsLossless p → IsLossless (toEnd p)
  | shared {α : Type} [Spelled α] {p : Parser ε ν α} : IsLossless p → IsLossless (shared p)

namespace IsLossless

/-- The parser that succeeds with an empty value. -/
theorem succeed [Spelled α] {a : α} (h : spelling a = []) :
    IsLossless (succeed a : Parser ε ν α) := by
  refine ofFn fun c b d hs => ⟨0, ?_⟩
  cases hs
  rw [h, c.eq_between, readMany_between]
  rfl

/-- The parser that reads a given number of characters. -/
theorem take (count : Nat) : IsLossless (take count : Parser ε ν String) := by
  refine ofFn fun c s d hs => ⟨count, ?_⟩
  split at hs
  · rename_i cs e hread
    cases hs
    simpa [spelling] using hread
  · cases hs

end IsLossless

/-- The value of a parser that keeps all values spells what was read. -/
theorem IsLossless.spells [Spelled α] {p : Parser ε ν α} (hp : p.IsLossless)
    (enter : (k : κ) → Cursor → Outcome ε (ν k)) : Spells (p.run enter) := by
  induction hp with
  | any => exact spells_ofChar _
  | literal => exact spells_ofChar _
  | satisfy => exact spells_ofChar _
  | noneOf => exact spells_ofChar _
  | ofFn hf =>
    intro c d a hs
    obtain ⟨n, hn⟩ := hf c a d hs
    exact leads_of_readMany hn
  | sequence _ _ hf ihp ihq =>
    intro c e v hs
    obtain ⟨a, d, hpo, hs⟩ := andThen_eq_success.1 hs
    obtain ⟨b, hqo, rfl⟩ := map_eq_success.1 hs
    rw [hf]
    exact (ihp hpo).trans (ihq hqo)
  | sequenceIf _ _ hf ihp ihq =>
    intro c e v hs
    obtain ⟨a, d, hpo, hs⟩ := andThen_eq_success.1 hs
    obtain ⟨b, e', hqo, hs⟩ := andThen_eq_success.1 hs
    obtain ⟨-, rfl, rfl⟩ := ite_eq_success.1 hs
    rw [hf]
    exact (ihp hpo).trans (ihq hqo)
  | orElse _ _ ihp ihq =>
    intro c d a hs
    simp only [Parser.run] at hs
    split at hs
    · exact ihq hs
    · exact ihp hs
  | many _ ih => exact ih.collect
  | oneOrMore _ ih => exact ih.collectOne
  | exactly _ ih =>
    intro c d as hs
    simp only [Parser.run] at hs
    split at hs
    · exact ih.collectExactly _ (relocate_eq_success.1 hs)
    · cases hs
  | text _ ih =>
    intro c d s hs
    obtain ⟨a, ho, rfl⟩ := map_eq_success.1 hs
    simpa [spelledText, spelling] using ih ho
  | chars _ ih =>
    intro c d cs hs
    obtain ⟨a, ho, rfl⟩ := map_eq_success.1 hs
    simpa [spelling] using ih ho
  | validate _ ih =>
    intro c d a hs
    obtain ⟨b, e, ho, hv⟩ := andThen_eq_success.1 hs
    obtain ⟨-, rfl, rfl⟩ := ite_eq_success.1 hv
    exact ih ho
  | toEnd _ ih =>
    intro c d a hs
    obtain ⟨b, e, ho, hv⟩ := andThen_eq_success.1 hs
    obtain ⟨-, rfl, rfl⟩ := ite_eq_success.1 hv
    exact ih ho
  | shared _ ih => exact ih

/-- **Nothing that is read is lost or repeated.** The characters of the value, in order, are the
text between the offset where the parser was applied and the offset where it succeeded. -/
theorem extract_of_isLossless [Spelled α] {p : Parser ε ν α} (hp : p.IsLossless)
    (enter : (k : κ) → Cursor → Outcome ε (ν k)) {c d : Cursor} {v : α}
    (h : p.run enter c = .success v d) :
    d.sourceText = c.sourceText ∧
      String.Pos.Raw.extract c.sourceText ⟨c.offset⟩ ⟨d.offset⟩ = spelledText v := by
  have hlead := hp.spells enter h
  exact ⟨hlead.onward.sourceText_eq, hlead.extract_eq⟩

/-- Texts that are `ab`, `a` or empty, as many as there are, and one character behind them. -/
def pieces : Parser Empty (Uniform Unit) (List String × String) :=
  sequence
    (many (orElse (text (sequence (literal 'a') (literal 'b') Prod.mk))
      (orElse (text (literal 'a')) (succeed ""))))
    (take 1) Prod.mk

theorem isLossless_pieces : pieces.IsLossless :=
  .sequence
    (.many (.orElse (.text (.sequence (.literal 'a') (.literal 'b') fun _ _ => rfl))
      (.orElse (.text (.literal 'a')) (.succeed rfl))))
    (.take 1) fun _ _ => rfl

/-- The second `a` is read twice, by an alternative that fails and by one that succeeds, and the
last of the texts is empty. -/
theorem extract_of_isLossless_pieces :
    pieces.run (fun _ c => .success () c) (between ['x'] "abaéy".toList) =
        .success (["ab", "a", ""], "é") (between "xabaé".toList.reverse ['y']) ∧
      String.Pos.Raw.extract "xabaéy" ⟨1⟩ ⟨6⟩ = "abaé" := by
  have h : pieces.run (fun _ c => .success () c) (between ['x'] "abaéy".toList) =
      .success (["ab", "a", ""], "é") (between "xabaé".toList.reverse ['y']) := by
    decide +kernel
  exact ⟨h, (extract_of_isLossless isLossless_pieces _ h).2⟩

end Parser

end TagMarkup

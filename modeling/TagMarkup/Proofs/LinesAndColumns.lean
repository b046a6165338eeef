import Mathlib.Data.List.TakeWhile
import TagMarkup.Proofs.Forward
import TagMarkup.Proofs.Utf8

/-!
# Lines and columns

Line and column say as much about a place in a text as the byte offset does, and they can be told
from the bytes of the text.

**Theorem (`Cursor.position_inOrder`).** Of two places in one text, the one with the smaller offset
has the smaller position: an earlier line, or the same line and an earlier column. So no position
stands for two places, and a failure that lies further on is not reported at an earlier position.

**Theorem (`Cursor.position_ofBytes`).** The line is the number of line feeds among the bytes in
front of a cursor, and the column is the number of characters that the bytes behind the last of them
encode. This is where a scan over all characters in front of the cursor ends.

Between two places lies a text, and the position of the later one is that of the earlier one
advanced along this text (`Cursor.Leads.position_eq`). Every character makes a position larger
(`Position.before_advance`), the line feed by its line and all others by their column, so the size
of characters in bytes plays no part. For the bytes, the text in front of a cursor is cut where the
line starts. The byte of a line feed is part of no other character, so the last one among the bytes
is found there.
-/

namespace TagMarkup

/-! ## Positions in order -/

namespace Position

/-- The position lies on an earlier line, or further left on the same line. -/
def Before (p q : Position) : Prop := p.line < q.line ∨ p.line = q.line ∧ p.column < q.column

variable {p q r : Position}

theorem Before.trans (h : p.Before q) (h' : q.Before r) : p.Before r := by
  unfold Before at *
  omega

theorem before_advance (p : Position) (c : Char) : p.Before (p.advance c) := by
  by_cases hc : c = '\n'
  · subst hc
    exact .inl (Nat.lt_succ_self p.line)
  · rw [advance_of_ne hc]
    exact .inr ⟨rfl, Nat.lt_succ_self p.column⟩

/-- Behind a text that is not empty, a position is larger. -/
theorem before_foldl_advance {text : List Char} (h : text ≠ []) (p : Position) :
    p.Before (text.foldl advance p) := by
  induction text generalizing p with
  | nil => exact absurd rfl h
  | cons c text ih =>
    rw [List.foldl_cons]
    by_cases htext : text = []
    · subst htext
      exact before_advance p c
    · exact (before_advance p c).trans (ih htext (p.advance c))

@[simp] theorem compare_self (p : Position) : p.compare p = .eq := by
  simp [compare]

theorem Before.compare_eq_lt (h : p.Before q) : p.compare q = .lt := by
  rw [compare]
  rcases h with hline | ⟨hline, hcolumn⟩
  · rw [Nat.compare_eq_lt.2 hline]
    rfl
  · rw [Nat.compare_eq_eq.2 hline, Nat.compare_eq_lt.2 hcolumn]
    rfl

theorem Before.compare_eq_gt (h : p.Before q) : q.compare p = .gt := by
  rw [compare]
  rcases h with hline | ⟨hline, hcolumn⟩
  · rw [Nat.compare_eq_gt.2 hline]
    rfl
  · rw [Nat.compare_eq_eq.2 hline.symm, Nat.compare_eq_gt.2 hcolumn]
    rfl

end Position

namespace Cursor

variable {c d : Cursor}

theorem Leads.position_eq {w : List Char} (h : c.Leads w d) :
    d.position = w.foldl Position.advance c.position := by
  rw [h.eq_right, h.eq_left, position_between, position_between, List.reverse_append,
    List.reverse_reverse, Position.after, List.foldl_append]
  rfl

/-- Further on in a text is the same place, or a larger position at a larger offset. -/
theorem Onward.eq_or_before (h : c.Onward d) :
    c = d ∨ c.offset < d.offset ∧ c.position.Before d.position := by
  obtain ⟨w, hw⟩ := onward_iff.1 h
  by_cases hnil : w = []
  · subst hnil
    exact .inl (ext_lists hw.before.symm hw.unread)
  · refine .inr ⟨?_, ?_⟩
    · rw [hw.offset_eq]
      have hpos := mt utf8Length_eq_zero.1 hnil
      omega
    · rw [hw.position_eq]
      exact Position.before_foldl_advance hnil c.position

/-- Positions in one text are in the order of the offsets. -/
theorem compare_position (h : d.source = c.source) :
    c.position.compare d.position = compare c.offset d.offset := by
  rcases Nat.le_total c.offset d.offset with hle | hle
  · rcases Onward.eq_or_before ⟨h, hle⟩ with rfl | ⟨hlt, hbefore⟩
    · rw [Position.compare_self, Nat.compare_eq_eq.2 rfl]
    · rw [hbefore.compare_eq_lt, Nat.compare_eq_lt.2 hlt]
  · rcases Onward.eq_or_before ⟨h.symm, hle⟩ with rfl | ⟨hlt, hbefore⟩
    · rw [Position.compare_self, Nat.compare_eq_eq.2 rfl]
    · rw [hbefore.compare_eq_gt, Nat.compare_eq_gt.2 hlt]

/-- Places in one text with one position are one place. -/
theorem position_eq_iff (h : d.source = c.source) : c.position = d.position ↔ c = d := by
  refine ⟨fun hposition => (eq_of_offset_eq h ?_).symm, fun heq => heq ▸ rfl⟩
  have hcompare := compare_position h
  rw [hposition, Position.compare_self] at hcompare
  exact (Nat.compare_eq_eq.1 hcompare.symm).symm

theorem position_not_before (h : d.source = c.source) (hle : c.offset ≤ d.offset) :
    d.position.compare c.position ≠ .lt := by
  rw [compare_position h.symm, Ne, Nat.compare_eq_lt]
  omega

/-- **Positions in order.** Two places in one text compare by line and column as they do by their
offsets, and different offsets have different positions. Let the functions inside of parsers and of
those that a registry holds move forward. Then a parser does not report a failure at a position in
front of the place where it was applied, and of two failures in the text the one that lies further
on is not reported at an earlier position than the other. -/
theorem position_inOrder (h : d.source = c.source) :
    c.position.compare d.position = compare c.offset d.offset ∧
      (c.offset ≠ d.offset → c.position ≠ d.position) ∧
      ∀ (ν α β : Type) (r : Registry ν),
        (∀ slot ∈ r.slots, slot.2.parser.Leaves fun _ => MovesForward) →
        ∀ (p : Parser Fault (Uniform ν) α) (q : Parser Fault (Uniform ν) β)
          (m n : Nat) (scope scope' : List (String × CellId)) (f g : Failure),
          p.Leaves (fun _ => MovesForward) → q.Leaves (fun _ => MovesForward) →
          p.run (r.enter m scope) c = .failure f → q.run (r.enter n scope') d = .failure g →
            f.cursor.position.compare c.position ≠ .lt ∧
              (f.cursor.offset ≤ g.cursor.offset →
                g.cursor.position.compare f.cursor.position ≠ .lt) := by
  refine ⟨compare_position h, fun hoffset hposition => ?_, ?_⟩
  · rw [position_eq_iff h] at hposition
    exact hoffset (congrArg offset hposition)
  · intro ν α β r hr p q m n scope scope' f g hp hq hf hg
    have hcf : c.Onward f.cursor := by
      have hahead := Parser.movesForward_run (r.movesForward_enter hr m scope) hp c
      rwa [hf, Outcome.ahead_failure] at hahead
    have hdg : d.Onward g.cursor := by
      have hahead := Parser.movesForward_run (r.movesForward_enter hr n scope') hq d
      rwa [hg, Outcome.ahead_failure] at hahead
    refine ⟨position_not_before hcf.1 hcf.2, position_not_before ?_⟩
    rw [hdg.1, h, hcf.1]

/-- Round brackets are looked for at the start and on the second line. -/
theorem position_inOrder_brackets :
    (start "é\n((x").position.compare (between ['\n', 'é'] "((x".toList).position =
        compare 0 3 ∧
      (start "é\n((x").position ≠ (between ['\n', 'é'] "((x".toList).position ∧
      Parser.nested.run (Registry.nested.enter 3 [("nested", 0)]) (start "é\n((x") =
        .failure ⟨.mismatch 'é' '(', between ['é'] "\n((x".toList⟩ ∧
      Parser.nested.run (Registry.nested.enter 3 [("nested", 0)])
          (between ['\n', 'é'] "((x".toList) =
        .failure ⟨.mismatch 'x' ')', between "é\n((x".toList.reverse []⟩ ∧
      (between ['é'] "\n((x".toList).position.compare (start "é\n((x").position ≠ .lt ∧
      (between "é\n((x".toList.reverse []).position.compare
        (between ['é'] "\n((x".toList).position ≠ .lt := by
  have hp : Parser.nested.Leaves fun _ => MovesForward :=
    ⟨⟨trivial, trivial, movesForward_take (Registry.nested.enter 0 []) 1⟩, trivial⟩
  have hf : Parser.nested.run (Registry.nested.enter 3 [("nested", 0)]) (start "é\n((x") =
      .failure ⟨.mismatch 'é' '(', between ['é'] "\n((x".toList⟩ := by decide +kernel
  have hg : Parser.nested.run (Registry.nested.enter 3 [("nested", 0)])
      (between ['\n', 'é'] "((x".toList) =
        .failure ⟨.mismatch 'x' ')', between "é\n((x".toList.reverse []⟩ := by decide +kernel
  obtain ⟨hcompare, hne, hfailures⟩ :=
    position_inOrder (c := start "é\n((x") (d := between ['\n', 'é'] "((x".toList) (by decide)
  have hreported := hfailures _ _ _ Registry.nested (Registry.leaves_nested hp) .nested .nested 3 3
    _ _ _ _ hp hp hf hg
  exact ⟨hcompare, hne (by decide), hf, hg, hreported.1, hreported.2 (by decide)⟩

end Cursor

/-! ## Positions from bytes -/

/-- Where the last line starts among bytes: behind the last line feed, or in front of them all. -/
def lineStart (bytes : List UInt8) : Nat := bytes.length - bytes.reverse.idxOf 0x0A

theorem lineStart_append {front tail : List UInt8}
    (hfront : front = [] ∨ front.getLast? = some 0x0A) (htail : 0x0A ∉ tail) :
    lineStart (front ++ tail) = front.length := by
  have hlast : front.reverse.idxOf 0x0A = 0 := by
    rcases hfront with rfl | h
    · rfl
    · rw [← List.head?_reverse] at h
      obtain ⟨rest, hrest⟩ := List.head?_eq_some_iff.1 h
      rw [hrest, List.idxOf_cons_self]
  rw [lineStart, List.reverse_append, List.idxOf_append_of_notMem (by simpa using htail), hlast,
    List.length_append, List.length_reverse, Nat.add_zero, Nat.add_sub_cancel]

/-- The position behind a part of a text, from its bytes: those in front of `offset` are searched
for line feeds, and only the characters behind the last of them are counted. There is none if a
character is cut there. -/
def Position.ofBytes? (text : String) (offset : Nat) : Option Position :=
  let consumed := (encodeUtf8 text).take offset
  (decodeUtf8? (consumed.drop (lineStart consumed))).map fun line =>
    ⟨consumed.count 0x0A, line.length⟩

namespace Cursor

theorem take_encodeUtf8_sourceText (c : Cursor) :
    (encodeUtf8 c.sourceText).take c.offset = encodeUtf8 c.consumed := by
  rw [← c.consumed_append_rest, encodeUtf8_append, List.take_left']
  rw [length_encodeUtf8, c.utf8ByteSize_consumed]

/-- The text of the lines in front of that of the cursor. -/
def linesBefore (c : Cursor) : String := .ofList (c.before.dropWhile (· != '\n')).reverse

/-- The text between the start of the line and the cursor. -/
def lineBefore (c : Cursor) : String := .ofList (c.before.takeWhile (· != '\n')).reverse

theorem linesBefore_append_lineBefore (c : Cursor) :
    c.linesBefore ++ c.lineBefore = c.consumed := by
  rw [linesBefore, lineBefore, ← String.ofList_append, ← List.reverse_append,
    List.takeWhile_append_dropWhile, consumed]

/-- The lines in front end with a line feed, if there are any. -/
theorem linesBefore_ends (c : Cursor) :
    encodeUtf8 c.linesBefore = [] ∨ (encodeUtf8 c.linesBefore).getLast? = some 0x0A := by
  cases hlines : c.before.dropWhile (· != '\n') with
  | nil =>
    refine .inl ?_
    rw [linesBefore, hlines]
    exact encodeUtf8_empty
  | cons x lines =>
    have hx := List.head?_dropWhile_not (· != '\n') c.before
    rw [hlines] at hx
    obtain rfl : x = '\n' := by simpa using hx
    refine .inr ((getLast?_encodeUtf8_eq_iff (a := '\n') (by decide) _).2 ?_)
    rw [linesBefore, hlines, String.toList_ofList, List.reverse_cons, List.getLast?_concat]

theorem newline_not_mem_lineBefore (c : Cursor) : 0x0A ∉ encodeUtf8 c.lineBefore := by
  refine mt (mem_encodeUtf8_iff (a := '\n') (by decide) _).1 fun hmem => ?_
  rw [lineBefore, String.toList_ofList, List.mem_reverse] at hmem
  simpa using List.mem_takeWhile_imp hmem

/-- Among the bytes in front of a cursor, its line starts where its text starts. -/
theorem lineStart_consumed (c : Cursor) :
    lineStart (encodeUtf8 c.consumed) = c.linesBefore.utf8ByteSize := by
  rw [← c.linesBefore_append_lineBefore, encodeUtf8_append,
    lineStart_append c.linesBefore_ends c.newline_not_mem_lineBefore, length_encodeUtf8]

theorem isValid_lineStart (c : Cursor) :
    String.Pos.Raw.IsValid c.sourceText ⟨lineStart (encodeUtf8 c.consumed)⟩ := by
  refine String.Pos.Raw.isValid_iff_exists_append.2 ⟨c.linesBefore, c.lineBefore ++ c.rest, ?_, ?_⟩
  · rw [← String.append_assoc, c.linesBefore_append_lineBefore, c.consumed_append_rest]
  · rw [c.lineStart_consumed]
    rfl

theorem ofBytes?_sourceText (c : Cursor) :
    Position.ofBytes? c.sourceText c.offset = some c.position := by
  have hline : (encodeUtf8 c.consumed).drop (lineStart (encodeUtf8 c.consumed)) =
      encodeUtf8 c.lineBefore := by
    rw [c.lineStart_consumed, ← c.linesBefore_append_lineBefore, encodeUtf8_append,
      ← length_encodeUtf8, List.drop_left]
  have hcount : (encodeUtf8 c.consumed).count 0x0A = c.before.count '\n' := by
    rw [← List.count_reverse (l := c.before), ← String.toList_ofList (l := c.before.reverse)]
    exact count_encodeUtf8 (a := '\n') (by decide) c.consumed
  rw [Position.ofBytes?, take_encodeUtf8_sourceText, hline, decodeUtf8?_encodeUtf8, hcount,
    Option.map_some, lineBefore, String.length_ofList, List.length_reverse, position]

/-- **Positions from bytes.** The bytes in front of a cursor, searched for line feeds and decoded
behind the last one, give the position where a scan over the characters in front of the cursor ends,
and so it is the position of the cursor. The search ends between two characters. -/
theorem position_ofBytes (c : Cursor) :
    String.Pos.Raw.IsValid c.sourceText ⟨lineStart ((encodeUtf8 c.sourceText).take c.offset)⟩ ∧
      Position.ofBytes? c.sourceText c.offset = some (Position.after c.consumed.toList) ∧
      c.position = Position.after c.consumed.toList := by
  have hscan : c.position = Position.after c.consumed.toList := by
    rw [c.eq_between, position_between, consumed, String.toList_ofList]
    rfl
  refine ⟨?_, ?_, hscan⟩
  · rw [take_encodeUtf8_sourceText]
    exact c.isValid_lineStart
  · rw [← hscan]
    exact c.ofBytes?_sourceText

/-- A carriage return and the line separator of Unicode are characters of their line. -/
example : (between "é\n\r\u2028".toList.reverse ['é']).position = ⟨1, 2⟩ := by decide

end Cursor

end TagMarkup

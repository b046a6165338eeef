import TagMarkup.Proofs.CutLines
import TagMarkup.Proofs.Documents
import TagMarkup.Proofs.Reports

/-!
# Carets

**Theorem (`Report.points_rejected`).** Without colors, the report on a rejected text has three
lines: the error, the line of the text with the number of the error, and a caret that stands below
the character at the place of the error.

Two notions of a line meet here. The position of an error counts the line feeds in front of it. The
line that is shown is one of those that are left when all terminators are taken off, carriage
returns included, and the empty line at the end of a text is not among them. Both are told by the
pieces of the text in front of the error: the number of the terminated ones is the line, and the
length of the open one is the column (`Position.after_terminate_append`). The line with that number
starts with the open piece and goes on with the offending character
(`Lines.exists_getElem?_all`): an angle bracket ends no line, and no carriage return in front of it
is taken for a terminator.
-/

namespace TagMarkup

/-! ## Positions behind pieces -/

namespace Position

theorem foldl_advance_of_not_mem {text : List Char} (h : '\n' ∉ text) (p : Position) :
    text.foldl advance p = ⟨p.line, p.column + text.length⟩ := by
  induction text generalizing p with
  | nil => rfl
  | cons c text ih =>
    simp only [List.mem_cons, not_or] at h
    rw [List.foldl_cons, advance_of_ne (Ne.symm h.1), ih h.2, List.length_cons, Nat.add_assoc,
      Nat.add_comm 1]

theorem foldl_advance_terminate {ps : List (List Char)} (h : ∀ p ∈ ps, '\n' ∉ p) (line : Nat) :
    (Lines.terminate '\n' ps).foldl advance ⟨line, 0⟩ = ⟨line + ps.length, 0⟩ := by
  induction ps generalizing line with
  | nil => rfl
  | cons p ps ih =>
    obtain ⟨hp, hps⟩ := List.forall_mem_cons.1 h
    rw [Lines.terminate_cons, List.foldl_append, foldl_advance_of_not_mem hp, List.foldl_cons,
      advance_newline, ih hps, List.length_cons, Nat.add_assoc, Nat.add_comm 1]

/-- The terminated pieces in front of a place give its line, the open one its column. -/
theorem after_terminate_append {ps : List (List Char)} (hps : ∀ p ∈ ps, '\n' ∉ p)
    {tail : List Char} (htail : '\n' ∉ tail) :
    after (Lines.terminate '\n' ps ++ tail) = ⟨ps.length, tail.length⟩ := by
  rw [after, List.foldl_append, origin, foldl_advance_terminate hps,
    foldl_advance_of_not_mem htail]
  simp

end Position

namespace Report

/-! ## Three lines -/

/-- What stands in front of the line shown, or of the caret: a number or blanks, and a bar. -/
def gutter (number : List Char) : List Char := ' ' :: ' ' :: (number ++ [' ', '|', ' '])

/-- The report is on this error of this text. It shows a line of the text, and with so much before
it a caret below a character of that line. -/
structure Points (text : String) (e : ParseError) (report : String) (shown before : List Char) :
    Prop where
  /-- The error, the line behind its number, and the caret behind as many blanks. -/
  three_lines : report.toList.splitOn '\n' =
    [e.message.toList,
      gutter (toString (e.position.line + 1)).toList ++ shown,
      gutter (List.replicate (toString (e.position.line + 1)).length ' ') ++ before ++ ['^'],
      []]
  /-- The line is the one with the number of the error, without its terminator. -/
  shown_eq : (Lines.cut '\n' '\r' text.toList)[e.position.line]? = some shown
  /-- In it, at the column of the error, is the angle bracket at the offset of the error. -/
  bracket : ∃ front x rest, text.toList = front ++ shown.take e.position.column ++ x :: rest ∧
    Lines.EndsLine '\n' front ∧ front.count '\n' = e.position.line ∧
    e.offset = (String.ofList (front ++ shown.take e.position.column)).utf8ByteSize ∧
    shown[e.position.column]? = some x ∧ (x = '<' ∨ x = '>')
  /-- The caret stands in that column. -/
  length_before : before.length = e.position.column
  /-- Below a tab is a tab, and a space below all else. -/
  before_eq : ∀ i < e.position.column,
    before[i]? = some (if shown[i]? = some '\t' then '\t' else ' ')

/-- Without colors, the snippet below the error has two lines. -/
theorem toList_snippet (text : String) (e : ParseError) : (snippet false text e).toList =
    gutter (toString (e.position.line + 1)).toList ++ (sourceLine text e.position.line).toList ++
      '\n' :: (gutter (List.replicate (toString (e.position.line + 1)).length ' ') ++
        (pad (sourceLine text e.position.line) e.position.column).toList ++ ['^'] ++ ['\n']) := by
  simp [snippet, paint, gutter, blanks]

theorem newline_not_mem_gutter {number : List Char} (h : '\n' ∉ number) :
    '\n' ∉ gutter number := by
  simp [gutter, h]

theorem newline_not_mem_pad (line : String) (column : Nat) : '\n' ∉ (pad line column).toList := by
  intro hmem
  simp only [pad, String.toList_ofList, List.mem_map] at hmem
  obtain ⟨c, -, hc⟩ := hmem
  split at hc <;> cases hc

theorem length_toList_pad {line : String} {column : Nat} (h : column ≤ line.toList.length) :
    (pad line column).toList.length = column := by
  rw [pad, String.toList_ofList, List.length_map, List.length_take, Nat.min_eq_left h]

/-- The pad has a tab below each tab and a space below all else. -/
theorem getElem?_toList_pad {line : String} {column i : Nat} (h : column ≤ line.toList.length)
    (hi : i < column) : (pad line column).toList[i]? =
      some (if line.toList[i]? = some '\t' then '\t' else ' ') := by
  rw [pad, String.toList_ofList, List.getElem?_map, List.getElem?_take_of_lt hi,
    List.getElem?_eq_getElem (Nat.lt_of_lt_of_le hi h)]
  simp only [Option.map_some, Option.some.injEq]

theorem splitOn_rejected {text : String} {e : ParseError} (h : parseDocument text = .error e)
    (hshown : '\n' ∉ (sourceLine text e.position.line).toList) :
    (rejected ⟨.text, false⟩ text e).toList.splitOn '\n' =
      [e.message.toList,
        gutter (toString (e.position.line + 1)).toList ++
          (sourceLine text e.position.line).toList,
        gutter (List.replicate (toString (e.position.line + 1)).length ' ') ++
          (pad (sourceLine text e.position.line) e.position.column).toList ++ ['^'],
        []] := by
  set number := (toString (e.position.line + 1)).toList with hnumber
  set blank := List.replicate (toString (e.position.line + 1)).length ' ' with hblank
  have hnumber' : '\n' ∉ number := by
    rw [hnumber, Nat.toString_eq_ofList_toDigits, String.toList_ofList]
    exact Json.newline_not_mem_toDigits _
  have hblank' : '\n' ∉ blank := by
    intro hmem
    exact absurd (List.eq_of_mem_replicate hmem) (by decide)
  have hrows : (rejected ⟨.text, false⟩ text e).toList = Lines.terminate '\n'
      [e.message.toList, gutter number ++ (sourceLine text e.position.line).toList,
        gutter blank ++ (pad (sourceLine text e.position.line) e.position.column).toList ++
          ['^']] := by
    simp [rejected_text, toList_snippet, hnumber, hblank]
  rw [hrows, Lines.splitOn_terminate]
  · rfl
  · intro row hrow
    simp only [List.mem_cons, List.not_mem_nil, or_false] at hrow
    rcases hrow with rfl | rfl | rfl
    · exact newline_not_mem_message h
    · simp [newline_not_mem_gutter hnumber', hshown]
    · simp [newline_not_mem_gutter hblank', newline_not_mem_pad]

/-! ## The character above the caret -/

theorem ne_terminator_of_bracket {x : Char} (h : x = '<' ∨ x = '>') : x ≠ '\n' ∧ x ≠ '\r' := by
  rcases h with rfl | rfl <;> decide

/-- **The caret points at the offending character**, whatever text is rejected. -/
theorem points_rejected (text : String) (e : ParseError) (h : parseDocument text = .error e) :
    ∃ shown before, Points text e (rejected ⟨.text, false⟩ text e) shown before := by
  obtain ⟨w, r, -, ht, -, hr, hne, he⟩ := exists_stuck_of_parseDocument_eq_error h
  obtain ⟨x, rest, rfl, hx⟩ := hr.exists_cons hne
  obtain ⟨hlf, hcr⟩ := ne_terminator_of_bracket hx
  -- what is in front of the error: some lines, and the beginning of its own
  obtain ⟨ps, tail, rfl, hps, htail⟩ := Lines.exists_eq_terminate_append '\n' w
  have hposition : e.position = ⟨ps.length, tail.length⟩ := by
    rw [he]
    exact Position.after_terminate_append hps htail
  obtain ⟨behind, hline⟩ := Lines.exists_getElem?_all hps htail hlf hcr rest
  rw [← List.append_assoc, ← ht] at hline
  have hsource : sourceLine text e.position.line = String.ofList (tail ++ x :: behind) := by
    rw [sourceLine, hposition, hline]
    rfl
  have hshown : '\n' ∉ tail ++ x :: behind := Lines.not_mem_of_mem_all (List.mem_of_getElem? hline)
  have htake : (tail ++ x :: behind).take e.position.column = tail := by
    rw [hposition, List.take_left]
  have hcolumn : e.position.column ≤ (String.ofList (tail ++ x :: behind)).toList.length := by
    rw [hposition, String.toList_ofList, List.length_append]
    exact Nat.le_add_right _ _
  refine ⟨tail ++ x :: behind, (pad (sourceLine text e.position.line) e.position.column).toList,
    { three_lines := ?lines, shown_eq := ?shown, bracket := ?bracket, length_before := ?length,
      before_eq := ?before }⟩
  case lines =>
    have hsplit := splitOn_rejected h (by rwa [hsource, String.toList_ofList])
    rwa [hsource, String.toList_ofList, ← hsource] at hsplit
  case shown => rw [← Lines.all_eq_cut, hposition, hline]
  case bracket =>
    refine ⟨Lines.terminate '\n' ps, x, rest, by rw [htake, ht],
      Lines.endsLine_terminate '\n' ps, ?_, ?_, ?_, hx⟩
    · rw [Lines.count_terminate hps, hposition]
    · rw [htake, he, utf8ByteSize_ofList]
      rfl
    · rw [hposition]
      simp
  case length => rw [hsource, length_toList_pad hcolumn]
  case before =>
    intro i hi
    rw [hsource, getElem?_toList_pad hcolumn hi, String.toList_ofList]

/-- Behind a blank line, a tab, a character of two bytes and a carriage return that ends no
line. -/
theorem points_rejected_returns :
    parseDocument "\r\n\té\r<b>\r\n" = .error ⟨.trailingInput, ⟨1, 3⟩, 6⟩ ∧
      ∃ before, Points "\r\n\té\r<b>\r\n" ⟨.trailingInput, ⟨1, 3⟩, 6⟩
        (rejected ⟨.text, false⟩ "\r\n\té\r<b>\r\n" ⟨.trailingInput, ⟨1, 3⟩, 6⟩)
        ['\t', 'é', '\r', '<', 'b', '>'] before := by
  have h : parseDocument "\r\n\té\r<b>\r\n" = .error ⟨.trailingInput, ⟨1, 3⟩, 6⟩ := by
    decide +kernel
  obtain ⟨shown, before, hpoints⟩ := points_rejected _ _ h
  have hshown : some ['\t', 'é', '\r', '<', 'b', '>'] = some shown := by
    rw [← hpoints.shown_eq]
    decide +kernel
  obtain rfl := Option.some.inj hshown
  exact ⟨h, before, hpoints⟩

end Report

end TagMarkup

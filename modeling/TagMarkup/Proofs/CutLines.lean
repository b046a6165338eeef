import Mathlib.Data.List.TakeWhile
import Mathlib.Tactic.Common
import TagMarkup.Text.Lines

/-!
# Lines as pieces between line feeds

`Lines.all` takes the lines of a text off its front, one after the other. They can be told without
that: cut the text at its line feeds; each piece in front of a line feed is a line, but for a
carriage return at its end, and what is behind the last line feed is a line unless it is empty
(`Lines.cut`).

**Theorem (`Lines.all_eq_cut`).** These are the same lines.

Every text is a row of terminated pieces with an open piece behind it
(`exists_eq_terminate_append`). All that is said here is said of texts in that form, by induction on
the pieces, and for an arbitrary text behind them where the lines go on (`all_terminate_append`).
-/

namespace TagMarkup

namespace Lines

variable {α : Type}

/-! ## Texts as rows of pieces -/

/-- Pieces of a text, each of them with a line feed behind it. -/
def terminate (lf : α) (pieces : List (List α)) : List α := pieces.flatMap (· ++ [lf])

@[simp] theorem terminate_nil (lf : α) : terminate lf [] = [] := rfl

@[simp] theorem terminate_cons (lf : α) (p : List α) (ps : List (List α)) :
    terminate lf (p :: ps) = p ++ lf :: terminate lf ps := by
  simp [terminate]

@[simp] theorem terminate_append (lf : α) (ps qs : List (List α)) :
    terminate lf (ps ++ qs) = terminate lf ps ++ terminate lf qs := by
  simp [terminate]

/-- No line is open behind the text. -/
def EndsLine (lf : α) (text : List α) : Prop := text = [] ∨ text.getLast? = some lf

theorem endsLine_terminate (lf : α) (ps : List (List α)) : EndsLine lf (terminate lf ps) := by
  rcases List.eq_nil_or_concat ps with rfl | ⟨ps, p, rfl⟩
  · exact .inl rfl
  · refine .inr ?_
    rw [List.concat_eq_append, terminate_append, terminate_cons, terminate_nil]
    simp

variable [BEq α]

theorem exists_eq_terminate_append [LawfulBEq α] (lf : α) (text : List α) :
    ∃ ps tail, text = terminate lf ps ++ tail ∧ (∀ p ∈ ps, lf ∉ p) ∧ lf ∉ tail := by
  induction text with
  | nil => exact ⟨[], [], rfl, by simp, by simp⟩
  | cons x text ih =>
    obtain ⟨ps, tail, rfl, hps, htail⟩ := ih
    by_cases hx : x = lf
    · subst hx
      exact ⟨[] :: ps, tail, by simp, by simpa using hps, htail⟩
    · -- the character goes to the first piece, or to the open one if there is no other
      cases ps with
      | nil => exact ⟨[], x :: tail, by simp, by simp, by simp [Ne.symm hx, htail]⟩
      | cons p ps =>
        obtain ⟨hp, hps⟩ := List.forall_mem_cons.1 hps
        refine ⟨(x :: p) :: ps, tail, by simp, ?_, htail⟩
        exact List.forall_mem_cons.2 ⟨by simp [Ne.symm hx, hp], hps⟩

/-- Where no line is open, there is no open piece. -/
theorem exists_eq_terminate [LawfulBEq α] {lf : α} {text : List α} (h : EndsLine lf text) :
    ∃ ps, text = terminate lf ps ∧ ∀ p ∈ ps, lf ∉ p := by
  obtain ⟨ps, tail, rfl, hps, htail⟩ := exists_eq_terminate_append lf text
  rcases List.eq_nil_or_concat tail with rfl | ⟨tail, x, rfl⟩
  · exact ⟨ps, by simp, hps⟩
  · rcases h with h | h
    · simp at h
    · rw [List.concat_eq_append, ← List.append_assoc, List.getLast?_concat] at h
      obtain rfl : x = lf := by simpa using h
      exact absurd (by simp) htail

theorem count_terminate [LawfulBEq α] {lf : α} {ps : List (List α)} (h : ∀ p ∈ ps, lf ∉ p) :
    (terminate lf ps).count lf = ps.length := by
  induction ps with
  | nil => rfl
  | cons p ps ih =>
    obtain ⟨hp, hps⟩ := List.forall_mem_cons.1 h
    rw [terminate_cons, List.count_append, List.count_cons_self, ih hps,
      List.count_eq_zero_of_not_mem hp, List.length_cons]
    omega

theorem splitOn_terminate_append [LawfulBEq α] {lf : α} {ps : List (List α)}
    (h : ∀ p ∈ ps, lf ∉ p) {tail : List α} (htail : lf ∉ tail) :
    (terminate lf ps ++ tail).splitOn lf = ps ++ [tail] := by
  induction ps with
  | nil => exact List.splitOn_eq_singleton htail
  | cons p ps ih =>
    obtain ⟨hp, hps⟩ := List.forall_mem_cons.1 h
    rw [terminate_cons, List.append_assoc, List.cons_append,
      List.splitOn_append_cons_self_of_not_mem hp, ih hps, List.cons_append]

theorem splitOn_terminate [LawfulBEq α] {lf : α} {ps : List (List α)} (h : ∀ p ∈ ps, lf ∉ p) :
    (terminate lf ps).splitOn lf = ps ++ [[]] := by
  have hsplit := splitOn_terminate_append h (List.not_mem_nil (a := lf))
  rwa [List.append_nil] at hsplit

/-- An empty piece is found at the place of its line feed. -/
theorem nil_mem_of_terminate_eq [LawfulBEq α] {lf : α} {ps : List (List α)}
    (h : ∀ p ∈ ps, lf ∉ p) {front rest : List α} (hfront : EndsLine lf front)
    (heq : terminate lf ps = front ++ lf :: rest) : [] ∈ ps := by
  obtain ⟨qs, rfl, hqs⟩ := exists_eq_terminate hfront
  obtain ⟨rs, tail, rfl, hrs, htail⟩ := exists_eq_terminate_append lf rest
  have hpieces : ∀ p ∈ qs ++ [] :: rs, lf ∉ p := by
    simp only [List.mem_append, List.mem_cons]
    rintro p (hp | rfl | hp)
    · exact hqs p hp
    · exact List.not_mem_nil
    · exact hrs p hp
  have hcut : ps ++ [[]] = (qs ++ [] :: rs) ++ [tail] := by
    rw [← splitOn_terminate h, ← splitOn_terminate_append hpieces htail, heq]
    simp
  rw [(List.append_inj' hcut rfl).1]
  simp

/-! ## Lines -/

/-- The lines of a text, cut at its line feeds. -/
def cut (lf cr : α) (text : List α) : List (List α) :=
  let pieces := text.splitOn lf
  pieces.dropLast.map (dropReturn cr) ++ pieces.getLast?.toList.filter (!·.isEmpty)

theorem next?_cons_of_not_mem [LawfulBEq α] {lf cr : α} {p : List α} (h : lf ∉ p)
    (rest : List α) : next? lf cr (p ++ lf :: rest) = some (dropReturn cr p, rest) := by
  have hne : ∀ x ∈ p, (x != lf) = true := by
    intro x hx
    rw [bne_iff_ne]
    rintro rfl
    exact h hx
  cases hp : p ++ lf :: rest with
  | nil => simp at hp
  | cons y ys =>
    rw [next?, ← hp, List.dropWhile_append_of_pos hne, List.takeWhile_append_of_pos hne]
    simp

theorem next?_of_not_mem [LawfulBEq α] {lf cr : α} {p : List α} (h : lf ∉ p) (hp : p ≠ []) :
    next? lf cr p = some (p, []) := by
  have hnil : p.dropWhile (· != lf) = [] := by
    rw [List.dropWhile_eq_nil_iff]
    intro x hx
    rw [bne_iff_ne]
    rintro rfl
    exact h hx
  cases p with
  | nil => exact absurd rfl hp
  | cons x p => simp only [next?, hnil]

theorem all_nil (lf cr : α) : all lf cr [] = [] := by
  rw [all]
  rfl

theorem all_of_next? {lf cr : α} {text line rest : List α}
    (h : next? lf cr text = some (line, rest)) : all lf cr text = line :: all lf cr rest := by
  rw [all]
  split <;> simp_all

/-- The lines of a text that starts with terminated pieces. -/
theorem all_terminate_append [LawfulBEq α] (lf cr : α) {ps : List (List α)}
    (h : ∀ p ∈ ps, lf ∉ p) (rest : List α) :
    all lf cr (terminate lf ps ++ rest) = ps.map (dropReturn cr) ++ all lf cr rest := by
  induction ps with
  | nil => rfl
  | cons p ps ih =>
    obtain ⟨hp, hps⟩ := List.forall_mem_cons.1 h
    rw [terminate_cons, List.append_assoc, List.cons_append,
      all_of_next? (next?_cons_of_not_mem hp _), ih hps, List.map_cons, List.cons_append]

theorem all_of_not_mem [LawfulBEq α] {lf cr : α} {tail : List α} (h : lf ∉ tail) :
    all lf cr tail = [tail].filter (!·.isEmpty) := by
  by_cases htail : tail = []
  · subst htail
    exact all_nil lf cr
  · rw [all_of_next? (next?_of_not_mem h htail), all_nil]
    simp [htail]

theorem cut_terminate_append [LawfulBEq α] (lf cr : α) {ps : List (List α)}
    (h : ∀ p ∈ ps, lf ∉ p) {tail : List α} (htail : lf ∉ tail) :
    cut lf cr (terminate lf ps ++ tail) =
      ps.map (dropReturn cr) ++ [tail].filter (!·.isEmpty) := by
  rw [cut, splitOn_terminate_append h htail]
  simp

theorem cut_terminate [LawfulBEq α] (lf cr : α) {ps : List (List α)} (h : ∀ p ∈ ps, lf ∉ p) :
    cut lf cr (terminate lf ps) = ps.map (dropReturn cr) := by
  have hcut := cut_terminate_append lf cr h (List.not_mem_nil (a := lf))
  simpa using hcut

/-- **Lines.** Taken off the front one after the other, or cut at the line feeds: the lines of a
text are the same. -/
theorem all_eq_cut [LawfulBEq α] (lf cr : α) (text : List α) :
    all lf cr text = cut lf cr text := by
  obtain ⟨ps, tail, rfl, hps, htail⟩ := exists_eq_terminate_append lf text
  rw [all_terminate_append lf cr hps, all_of_not_mem htail, cut_terminate_append lf cr hps htail]

/-- A carriage return behind the last line feed belongs to its line. -/
example : cut '\n' '\r' "a\r\r\n\n\r".toList = [['a', '\r'], [], ['\r']] := by decide

/-! ## The line of a character -/

theorem not_mem_dropReturn {lf cr : α} {line : List α} (h : lf ∉ line) :
    lf ∉ dropReturn cr line := by
  unfold dropReturn
  split
  · exact fun hmem => h ((List.dropLast_sublist line).mem hmem)
  · exact h

/-- No line holds a line feed. -/
theorem not_mem_of_mem_all [LawfulBEq α] {lf cr : α} {text line : List α}
    (h : line ∈ all lf cr text) : lf ∉ line := by
  obtain ⟨ps, tail, rfl, hps, htail⟩ := exists_eq_terminate_append lf text
  rw [all_terminate_append lf cr hps, all_of_not_mem htail] at h
  rcases List.mem_append.1 h with h | h
  · obtain ⟨p, hp, rfl⟩ := List.mem_map.1 h
    exact not_mem_dropReturn (hps p hp)
  · obtain rfl : line = tail := by simpa using (List.mem_filter.1 h).1
    exact htail

theorem dropReturn_eq_self_iff [LawfulBEq α] {cr : α} {line : List α} :
    dropReturn cr line = line ↔ line.getLast? ≠ some cr := by
  rcases List.eq_nil_or_concat line with rfl | ⟨front, x, rfl⟩
  · simp [dropReturn]
  · simp only [dropReturn, List.concat_eq_append, List.getLast?_concat, List.dropLast_concat]
    by_cases hx : x = cr <;> simp [hx]

theorem dropReturn_eq_nil_iff [LawfulBEq α] {cr : α} {line : List α} :
    dropReturn cr line = [] ↔ line = [] ∨ line = [cr] := by
  rcases List.eq_nil_or_concat line with rfl | ⟨front, x, rfl⟩
  · simp [dropReturn]
  · simp only [dropReturn, List.concat_eq_append, List.getLast?_concat, List.dropLast_concat]
    by_cases hx : x = cr <;> simp [hx, List.append_eq_cons_iff]

/-- A carriage return at the end of a line is behind all that is none. -/
theorem dropReturn_append_cons [LawfulBEq α] {cr x : α} (hx : x ≠ cr) (front rest : List α) :
    dropReturn cr (front ++ x :: rest) = front ++ x :: dropReturn cr rest := by
  rcases List.eq_nil_or_concat rest with rfl | ⟨rest, y, rfl⟩
  · simp [dropReturn, hx]
  · rw [List.concat_eq_append, ← List.cons_append, ← List.append_assoc]
    simp only [dropReturn, List.getLast?_concat, List.dropLast_concat]
    split
    · rfl
    · rw [List.append_assoc, List.cons_append]

/-- A character that is no terminator stands in the line with the number of the pieces in front of
it, behind the open piece. -/
theorem exists_getElem?_all [LawfulBEq α] {lf cr : α} {ps : List (List α)} (hps : ∀ p ∈ ps, lf ∉ p)
    {tail : List α} (htail : lf ∉ tail) {x : α} (hlf : x ≠ lf) (hcr : x ≠ cr) (text : List α) :
    ∃ rest, (all lf cr (terminate lf ps ++ (tail ++ x :: text)))[ps.length]? =
      some (tail ++ x :: rest) := by
  have hfirst (line rest : List α) (h : next? lf cr (tail ++ x :: text) = some (line, rest)) :
      (all lf cr (terminate lf ps ++ (tail ++ x :: text)))[ps.length]? = some line := by
    rw [all_terminate_append lf cr hps, all_of_next? h]
    simp
  obtain ⟨qs, last, rfl, hqs, hlast⟩ := exists_eq_terminate_append lf text
  cases qs with
  | nil =>
    refine ⟨last, hfirst _ [] (next?_of_not_mem ?_ (by simp))⟩
    simp [htail, Ne.symm hlf, hlast]
  | cons q qs =>
    have hq : lf ∉ tail ++ x :: q := by simp [htail, Ne.symm hlf, hqs q List.mem_cons_self]
    refine ⟨dropReturn cr q, hfirst _ (terminate lf qs ++ last) ?_⟩
    rw [← dropReturn_append_cons hcr, ← next?_cons_of_not_mem hq]
    simp

end Lines

end TagMarkup

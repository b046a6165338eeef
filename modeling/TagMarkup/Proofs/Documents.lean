import TagMarkup.Markup.Document
import TagMarkup.Proofs.Content
import TagMarkup.Proofs.Positions

/-!
# Accepted and rejected texts

A whole text is read up to the first place where it is stuck. It is accepted when that is its
end, and then the grammar derives it; otherwise that place is reported.

Main results: `parseDocument_eq_ok_iff_derives`, `parseDocument_error_behind_longest` and
`parseDocument_append`.
-/

namespace TagMarkup

open Cursor Outcome Grammar

instance : DecidableEq (Except ParseError Node)
  | .ok a, .ok b => decidable_of_iff (a = b) (by simp)
  | .error a, .error b => decidable_of_iff (a = b) (by simp)
  | .ok _, .error _ | .error _, .ok _ => isFalse nofun

/-! ## Documents and derivations -/

/-- The error at the place behind some characters. -/
def ParseError.trailingAfter (w : List Char) : ParseError :=
  ⟨.trailingInput, .after w, utf8Length w⟩

/-- A text is read as far as it is derived, and that has to be all of it. -/
theorem parseDocument_of_derives {t : String} {w r : List Char} {ns : List Node}
    (ht : t.toList = w ++ r) (h : Derives w ns) (hr : Stuck r) :
    parseDocument t = if r = [] then .ok (.inner ns) else .error (.trailingAfter w) := by
  have hc : apply innerContent (start t) = success ns (between w.reverse r) := by
    rw [← content_eq_apply, start, ht, content_of_derives h hr, List.append_nil]
  have hp : parse t = ((apply innerContent (start t)).andThen fun ns d =>
      if d.atEnd then success ns d else failure ⟨.trailingInput, d⟩).map .inner := rfl
  rw [hc] at hp
  unfold parseDocument
  rw [hp]
  cases r with
  | nil => rfl
  | cons x r =>
    have hpos : (between w.reverse (x :: r)).position = .after w := by
      rw [position_between, List.reverse_reverse]
    simp [Outcome.andThen, atEnd, Outcome.map, ParseError.ofFailure, hpos,
      ParseError.trailingAfter]

theorem parseDocument_eq_ok_of_derives {t : String} {ns : List Node} (h : Derives t.toList ns) :
    parseDocument t = .ok (.inner ns) :=
  parseDocument_of_derives (by simp) h stuck_nil

theorem derives_of_parseDocument_eq_ok {t : String} {tree : Node}
    (h : parseDocument t = .ok tree) : ∃ ns, tree = .inner ns ∧ Derives t.toList ns := by
  obtain ⟨w, r, ns, ht, hw, hr⟩ := exists_derives t.toList
  rw [parseDocument_of_derives ht hw hr] at h
  split_ifs at h with hnil
  subst hnil
  injection h with htree
  refine ⟨ns, htree.symm, ?_⟩
  rwa [ht, List.append_nil]

/-- **Documents.** A text is accepted with a tree exactly when the grammar derives it with that
tree, and the grammar derives it with one tree at most. -/
theorem parseDocument_eq_ok_iff_derives (t : String) (tree : Node) :
    (parseDocument t = .ok tree ↔ DerivesDocument t.toList tree) ∧
      ∀ other, DerivesDocument t.toList tree → DerivesDocument t.toList other → other = tree := by
  have hiff : ∀ other, parseDocument t = .ok other ↔ DerivesDocument t.toList other := by
    intro other
    refine ⟨fun h => derives_of_parseDocument_eq_ok h, fun h => ?_⟩
    obtain ⟨ns, rfl, h⟩ := h
    exact parseDocument_eq_ok_of_derives h
  refine ⟨hiff tree, fun other htree hother => ?_⟩
  rw [← hiff] at htree hother
  rw [htree] at hother
  injection hother with heq
  exact heq.symm

/-! ## Rejected texts -/

/-- A rejected text is derived up to a place where it is stuck, and the error tells that
place. -/
theorem exists_stuck_of_parseDocument_eq_error {t : String} {e : ParseError}
    (h : parseDocument t = .error e) :
    ∃ w r ns, t.toList = w ++ r ∧ Derives w ns ∧ Stuck r ∧ r ≠ [] ∧ e = .trailingAfter w := by
  obtain ⟨w, r, ns, ht, hw, hr⟩ := exists_derives t.toList
  rw [parseDocument_of_derives ht hw hr] at h
  split_ifs at h with hnil
  injection h with he
  exact ⟨w, r, ns, ht, hw, hr, hnil, he.symm⟩

/-- Where a text is stuck there is an angle bracket. -/
theorem Stuck.exists_cons {r : List Char} (h : Stuck r) (hr : r ≠ []) :
    ∃ x v, r = x :: v ∧ (x = '<' ∨ x = '>') := by
  cases r with
  | nil => exact absurd rfl hr
  | cons x v =>
    have hx : isPlainChar x = false := by simpa using h.1
    refine ⟨x, v, rfl, ?_⟩
    by_cases hlt : x = '<'
    · exact .inl hlt
    · exact .inr (by simpa [isPlainChar, hlt] using hx)

/-- No text is derived beyond a place where it is stuck. -/
theorem not_derives_of_stuck {w r v z : List Char} {ns ms : List Node} (hw : Derives w ns)
    (hr : Stuck r) (h : w ++ r = v ++ z) (hlt : w.length < v.length) : ¬ Derives v ms := by
  intro hv
  obtain ⟨y, rfl, rfl⟩ : ∃ y, v = w ++ y ∧ r = y ++ z := by
    rcases List.append_eq_append_iff.1 h with ⟨y, hy, hz⟩ | ⟨y, hy, hz⟩
    · exact ⟨y, hy, hz⟩
    · rw [hy, List.length_append] at hlt
      omega
  have hy : y ≠ [] := by
    intro hy
    simp [hy] at hlt
  -- what is left of the text behind `w` is stuck as well, so `w ++ y` would be rejected too
  have hok := parseDocument_eq_ok_of_derives (t := .ofList (w ++ y)) (by simpa using hv)
  rw [parseDocument_of_derives (String.toList_ofList) hw (hr.cut hy), if_neg hy] at hok
  cases hok

/-- **Rejected texts.** The error is reported behind the longest part of the text that is
accepted by itself, in front of an angle bracket. -/
theorem parseDocument_error_behind_longest (t : String) (e : ParseError)
    (h : parseDocument t = .error e) :
    e.reason = .trailingInput ∧
      ∃ w x v, t.toList = w ++ x :: v ∧ (x = '<' ∨ x = '>') ∧
        e.offset = (String.ofList w).utf8ByteSize ∧ e.position = .after w ∧
        (∃ tree, parseDocument (.ofList w) = .ok tree) ∧
        ∀ w' r, t.toList = w' ++ r → w.length < w'.length →
          ∀ tree, parseDocument (.ofList w') ≠ .ok tree := by
  obtain ⟨w, r, ns, ht, hw, hr, hne, rfl⟩ := exists_stuck_of_parseDocument_eq_error h
  obtain ⟨x, v, rfl, hx⟩ := hr.exists_cons hne
  refine ⟨rfl, w, x, v, ht, hx, (utf8ByteSize_ofList w).symm, rfl, ⟨.inner ns, ?_⟩, ?_⟩
  · exact parseDocument_eq_ok_of_derives (by simpa using hw)
  · intro w' r' ht' hlt tree htree
    obtain ⟨ms, -, hms⟩ := derives_of_parseDocument_eq_ok htree
    exact not_derives_of_stuck hw hr (ht.symm.trans ht') hlt (by simpa using hms)

/-- A tag that is never closed, behind a character of two bytes. -/
theorem parseDocument_error_behind_longest_unclosed :
    parseDocument "é<b>c" = .error ⟨.trailingInput, ⟨0, 1⟩, 2⟩ ∧
      ∃ w x v, "é<b>c".toList = w ++ x :: v ∧ (x = '<' ∨ x = '>') ∧
        2 = (String.ofList w).utf8ByteSize ∧ ⟨0, 1⟩ = Position.after w ∧
        (∃ tree, parseDocument (.ofList w) = .ok tree) ∧
        ∀ w' r, "é<b>c".toList = w' ++ r → w.length < w'.length →
          ∀ tree, parseDocument (.ofList w') ≠ .ok tree := by
  have h : parseDocument "é<b>c" = .error ⟨.trailingInput, ⟨0, 1⟩, 2⟩ := by decide +kernel
  exact ⟨h, (parseDocument_error_behind_longest _ _ h).2⟩

/-! ## Documents in a row -/

/-- **Documents in a row.** Behind a document, a text is accepted or rejected as it is by
itself. The trees are joined, and the place of an error moves by the size of the document. -/
theorem parseDocument_append (x y : String) (tree : Node) (h : parseDocument x = .ok tree) :
    ∃ ns, tree = .inner ns ∧
      (∀ other, parseDocument y = .ok other →
        ∃ ms, other = .inner ms ∧ parseDocument (x ++ y) = .ok (.inner (Node.join ns ms))) ∧
      ∀ e, parseDocument y = .error e →
        ∃ e', parseDocument (x ++ y) = .error e' ∧ e'.reason = e.reason ∧
          e'.offset = x.utf8ByteSize + e.offset := by
  obtain ⟨ns, rfl, hx⟩ := derives_of_parseDocument_eq_ok h
  refine ⟨ns, rfl, fun other hy => ?_, fun e hy => ?_⟩
  · obtain ⟨ms, rfl, hms⟩ := derives_of_parseDocument_eq_ok hy
    refine ⟨ms, rfl, parseDocument_eq_ok_of_derives ?_⟩
    rw [String.toList_append]
    exact hx.append hms
  · obtain ⟨w, r, ms, ht, hw, hr, hne, rfl⟩ := exists_stuck_of_parseDocument_eq_error hy
    have hxy : (x ++ y).toList = x.toList ++ w ++ r := by
      rw [String.toList_append, ht, List.append_assoc]
    have he := parseDocument_of_derives hxy (hx.append hw) hr
    rw [if_neg hne] at he
    refine ⟨_, he, rfl, ?_⟩
    rw [← String.ofList_toList (s := x), utf8ByteSize_ofList, String.toList_ofList]
    exact utf8Length_append _ _

/-- Texts on both sides of the seam, and a tag behind it that is never closed. -/
theorem parseDocument_append_seam :
    parseDocument "<i>é</i>b" = .ok (.inner [.tag "i" .empty [.text "é"], .text "b"]) ∧
      parseDocument ("<i>é</i>b" ++ "c<u></u>") =
        .ok (.inner [.tag "i" .empty [.text "é"], .text "bc", .tag "u" .empty []]) ∧
      ∃ e, parseDocument ("<i>é</i>b" ++ "c<u>") = .error e ∧
        e.reason = .trailingInput ∧ e.offset = 11 := by
  have hx : parseDocument "<i>é</i>b" =
      .ok (.inner [.tag "i" .empty [.text "é"], .text "b"]) := by decide +kernel
  have hy : parseDocument "c<u></u>" = .ok (.inner [.text "c", .tag "u" .empty []]) := by
    decide +kernel
  have hz : parseDocument "c<u>" = .error ⟨.trailingInput, ⟨0, 1⟩, 1⟩ := by decide +kernel
  refine ⟨hx, ?_, ?_⟩
  · obtain ⟨ns, hns, hjoin, -⟩ := parseDocument_append _ "c<u></u>" _ hx
    obtain ⟨ms, hms, hok⟩ := hjoin _ hy
    injection hns with hns
    injection hms with hms
    rw [hok, ← hns, ← hms]
    decide +kernel
  · obtain ⟨ns, -, -, hmove⟩ := parseDocument_append _ "c<u>" _ hx
    obtain ⟨e, he, hreason, hoffset⟩ := hmove _ hz
    refine ⟨e, he, hreason, ?_⟩
    rw [hoffset]
    decide +kernel

end TagMarkup

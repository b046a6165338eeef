import TagMarkup.Proofs.Attributes
import TagMarkup.Proofs.Derivation
import TagMarkup.Proofs.Reading

/-!
# What the rules for tags read

The rules for attributes, start tags and end tags read exactly what the grammar derives for them
(`reads_entry`, `reads_startTag`, `reads_endTag`), and what lies behind it makes no difference.

The rules are greedy, so each step needs to know where a run of characters ends. It is enough
that letters and digits are no white space and that neither of them is one of the characters
`<`, `>`, `/`, `=` and `"`. The attributes end in front of `>` because there the attempt to read
another one takes the white space, finds no key and gives everything back.
-/

namespace TagMarkup

open Cursor Outcome TagMarkup.Parser

/-! ## Kinds of characters -/

/-- The code points of ranges, one by one. -/
def Ranges.codes (ranges : Ranges) : List Nat :=
  ranges.flatMap fun range => List.range' range.1 (range.2 + 1 - range.1)

theorem Ranges.mem_codes {ranges : Ranges} {c : Char} (h : ranges.covers c = true) :
    c.toNat ∈ ranges.codes := by
  simp only [covers, List.any_eq_true, Bool.and_eq_true, decide_eq_true_eq] at h
  obtain ⟨range, hmem, hlo, hhi⟩ := h
  exact List.mem_flatMap.2 ⟨range, hmem, List.mem_range'_1.2 ⟨hlo, by omega⟩⟩

theorem not_isAlphanumeric_of_mem_codes :
    ∀ n ∈ whiteSpaceRanges.codes, isAlphanumeric (Char.ofNat n) = false := by
  decide +kernel

/-- White space is no letter and no digit. -/
theorem not_isAlphanumeric_of_isWhiteSpace {c : Char} (h : isWhiteSpace c = true) :
    isAlphanumeric c = false := by
  have hn := not_isAlphanumeric_of_mem_codes c.toNat (Ranges.mem_codes h)
  rwa [Char.ofNat_toNat] at hn

theorem isSpace_or_lineEnd (x : Char) :
    (isSpace x || (decide (x = '\n') || decide (x = '\r'))) = isWhiteSpace x := by
  by_cases hl : isLineEnd x = true
  · have hw : isWhiteSpace x = true := by
      rcases (by simpa [isLineEnd] using hl : x = '\n' ∨ x = '\r') with rfl | rfl <;> decide
    simpa [isLineEnd, hw] using Or.inr hl
  · simp_all [isSpace, isLineEnd]

/-! ## Where runs of characters end -/

theorem IsName.exists_cons {w : List Char} (h : IsName w) :
    ∃ x v, w = x :: v ∧ isAlphanumeric x = true := by
  obtain ⟨hne, hw⟩ := h
  cases w with
  | nil => exact absurd rfl hne
  | cons x w => exact ⟨x, w, rfl, hw x (by simp)⟩

/-- White space ends where a name starts. -/
theorem IsName.stops {w : List Char} (h : IsName w) (r : List Char) :
    Stops isWhiteSpace (w ++ r) := by
  obtain ⟨x, v, rfl, hx⟩ := h.exists_cons
  have hs : isWhiteSpace x = false := by
    by_contra hs
    rw [not_isAlphanumeric_of_isWhiteSpace (by simpa using hs)] at hx
    cases hx
  simpa using hs

/-- A name ends where white space starts. -/
theorem IsBlank.stops {w : List Char} (h : IsBlank w) : Stops isAlphanumeric w := by
  cases w with
  | nil => simp
  | cons x w => simpa using not_isAlphanumeric_of_isWhiteSpace (h x (by simp))

theorem DerivesEntry.stops {w : List Char} {e : String × String} (h : DerivesEntry w e)
    (r : List Char) : Stops isWhiteSpace (w ++ r) := by
  cases h with
  | mk hkey _ =>
    rw [List.append_assoc, List.append_assoc]
    exact hkey.stops _

theorem DerivesEntries.stops {w : List Char} {es : List (String × String)}
    (h : DerivesEntries w es) : Stops isAlphanumeric w := by
  cases h with
  | nil => simp
  | @cons blank v u e es hne hb _ _ =>
    cases blank with
    | nil => exact absurd rfl hne
    | cons x blank => simpa using not_isAlphanumeric_of_isWhiteSpace (hb x (by simp))

theorem DerivesStart.exists_cons {w : List Char} {st : Grammar.StartTag}
    (h : DerivesStart w st) : ∃ x v, w = '<' :: x :: v ∧ isAlphanumeric x = true := by
  cases h with
  | mk hname _ _ _ _ =>
    obtain ⟨x, v, rfl, hx⟩ := hname.exists_cons
    exact ⟨x, _, rfl, hx⟩

theorem DerivesStart.ne_nil {w : List Char} {st : Grammar.StartTag} (h : DerivesStart w st) :
    w ≠ [] := by
  obtain ⟨x, v, rfl, -⟩ := h.exists_cons
  simp

theorem DerivesEnd.exists_cons {w : List Char} {name : String} (h : DerivesEnd w name) :
    ∃ v, w = '<' :: '/' :: v := by
  cases h
  exact ⟨_, rfl⟩

/-- An attribute after white space. -/
def SpacedEntry (w : List Char) (e : String × String) : Prop :=
  ∃ blank v, blank ≠ [] ∧ IsBlank blank ∧ DerivesEntry v e ∧ w = blank ++ v

theorem SpacedEntry.ne_nil {w : List Char} {e : String × String} (h : SpacedEntry w e) :
    w ≠ [] := by
  obtain ⟨blank, v, hne, -, -, rfl⟩ := h
  simp [hne]

/-- No attribute starts in front of the end of a start tag. -/
theorem not_spacedEntry_of_blank {gap r : List Char} (hg : IsBlank gap) :
    ∀ v r' e, gap ++ '>' :: r = v ++ r' → ¬ SpacedEntry v e := by
  intro u r' e h hu
  obtain ⟨blank, v, -, hb, he, rfl⟩ := hu
  rw [List.append_assoc] at h
  obtain ⟨-, hv⟩ := run_unique hg hb (by simp; decide) (he.stops r') h
  cases he with
  | mk hkey _ =>
    obtain ⟨x, key, rfl, hx⟩ := hkey.exists_cons
    simp only [List.cons_append, List.cons.injEq] at hv
    rw [← hv.1] at hx
    exact absurd hx (by decide)

namespace Grammar

variable {enter : (k : String) → Cursor → Outcome Empty (List Node)}

/-! ## Lexical rules -/

theorem reads_whitespace : Reads ((whitespace : Rule Char).run enter) (OneChar isWhiteSpace) := by
  have hn : Reads ((newline : Rule Char).run enter) (OneChar fun x => x = '\n' || x = '\r') :=
    ((reads_literal '\n').orElse (reads_literal '\r')).congr fun _ _ _ => either_oneChar
  refine ((reads_satisfy isSpace "a space").orElse hn).congr fun w r x => ?_
  rw [either_oneChar]
  simp only [OneChar, isSpace_or_lineEnd]

theorem reads_name : Reads (name.run enter) fun w r s =>
    s = .ofList w ∧ IsName w ∧ Stops isAlphanumeric r := by
  have h : Reads ((letterOrDigit : Rule Char).run enter) (OneChar isAlphanumeric) :=
    reads_satisfy isAlphanumeric "a letter or digit"
  refine (h.oneOrMore_char.map spelledText).congr fun w r s => ?_
  refine ⟨fun h => ?_, fun h => ?_⟩
  · obtain ⟨cs, ⟨⟨rfl, hw, hr⟩, hne⟩, rfl⟩ := h
    exact ⟨spelledText_chars _, ⟨hne, hw⟩, hr⟩
  · obtain ⟨rfl, ⟨hne, hw⟩, hr⟩ := h
    exact ⟨w, ⟨⟨rfl, hw, hr⟩, hne⟩, spelledText_chars w⟩

theorem reads_gap : Reads (gap.run enter) fun w r cs =>
    cs = w ∧ IsBlank w ∧ Stops isWhiteSpace r :=
  reads_whitespace.many_char

theorem reads_value : Reads (value.run enter) fun w r s =>
    s = .ofList w ∧ IsValue w ∧ Stops (· ∉ ['"']) r := by
  refine ((reads_noneOf ['"']).many_char.map spelledText).congr fun w r s => ?_
  refine ⟨fun h => ?_, fun h => ?_⟩
  · obtain ⟨cs, ⟨rfl, hw, hr⟩, rfl⟩ := h
    exact ⟨spelledText_chars _, by simpa [IsValue] using hw, hr⟩
  · obtain ⟨rfl, hw, hr⟩ := h
    exact ⟨w, ⟨rfl, by simpa [IsValue] using hw, hr⟩, spelledText_chars w⟩

/-! ## Attributes -/

theorem reads_entry : Reads (entry.run enter) fun w _ e => DerivesEntry w e := by
  have h := (((@reads_name enter).left_literal '=').left_literal '"').sequence
    reads_value Prod.mk |>.left_literal '"'
  refine h.congr fun w r e => ?_
  refine ⟨fun h => ?_, fun h => ?_⟩
  · obtain ⟨_, rfl, _, value, _, _, rfl, ⟨_, rfl, key, rfl, rfl, hkey, -⟩, ⟨rfl, hvalue, -⟩,
      rfl⟩ := h
    simpa using DerivesEntry.mk hkey hvalue
  · obtain @⟨key, value, hkey, hvalue⟩ := h
    refine ⟨key ++ '=' :: '"' :: value, rfl, key ++ ['=', '"'], value, _, _, by simp, ?_,
      ⟨rfl, hvalue, by simp⟩, rfl⟩
    exact ⟨key ++ ['='], by simp, key, rfl, rfl, hkey, by simp; decide⟩

theorem reads_spacedEntry :
    Reads ((right (oneOrMore whitespace) entry : Rule _).run enter) fun w _ e =>
      SpacedEntry w e := by
  refine (reads_whitespace.oneOrMore_char.sequence reads_entry fun _ e => e).congr
    fun w r e => ?_
  refine ⟨fun h => ?_, fun h => ?_⟩
  · obtain ⟨blank, v, _, _, rfl, ⟨⟨rfl, hb, -⟩, hne⟩, he, rfl⟩ := h
    exact ⟨_, v, hne, hb, he, rfl⟩
  · obtain ⟨blank, v, hne, hb, he, rfl⟩ := h
    exact ⟨blank, v, blank, e, rfl, ⟨⟨rfl, hb, he.stops r⟩, hne⟩, he, rfl⟩

theorem repeated_spacedEntry {w r : List Char} {es : List (String × String)} :
    Repeated (fun w _ e => SpacedEntry w e) w r es ↔
      DerivesEntries w es ∧ ∀ v r' e, r = v ++ r' → ¬ SpacedEntry v e := by
  refine ⟨fun h => ?_, fun h => ?_⟩
  · induction h with
    | nil hno => exact ⟨.nil, hno⟩
    | cons he _ ih =>
      obtain ⟨blank, v, hne, hb, hv, rfl⟩ := he
      exact ⟨.cons hne hb hv ih.1, ih.2⟩
  · obtain ⟨h, hno⟩ := h
    induction h with
    | nil => exact .nil hno
    | cons hne hb he _ ih => exact .cons ⟨_, _, hne, hb, he, rfl⟩ ih

theorem reads_entries : Reads (entries.run enter) fun w r a =>
    ∃ es, DerivesEntries w es ∧ (∀ v r' e, r = v ++ r' → ¬ SpacedEntry v e) ∧
      (es.map Prod.fst).Nodup ∧ a.entries.Perm es := by
  have h := (@reads_spacedEntry enter).many fun _ _ _ he => he.ne_nil
  refine ((h.validate distinctKeys).map Attributes.ofList).congr fun w r a => ?_
  simp only [repeated_spacedEntry, distinctKeys_iff]
  refine ⟨fun h => ?_, fun h => ?_⟩
  · obtain ⟨es, ⟨⟨hes, hno⟩, hnd⟩, rfl⟩ := h
    exact ⟨es, hes, hno, hnd, Attributes.ofList_perm hnd⟩
  · obtain ⟨es, hes, hno, hnd, hp⟩ := h
    exact ⟨es, ⟨⟨hes, hno⟩, hnd⟩, ((Attributes.eq_ofList_iff hnd).2 hp).symm⟩

/-! ## Start tags and end tags -/

/-- **Start tags.** The rule reads what the grammar derives, whatever follows. -/
theorem reads_startTag : Reads (startTag.run enter) fun w _ st => DerivesStart w st := by
  have h := (((@reads_name enter).right_literal '<').sequence reads_entries
    StartTag.mk).sequence reads_gap (fun st _ => st) |>.left_literal '>'
  refine h.congr fun w r st => ?_
  refine ⟨fun h => ?_, fun h => ?_⟩
  · obtain ⟨_, rfl, _, gap, _, _, rfl, ⟨_, v, _, a, rfl, ⟨name, rfl, rfl, hname, -⟩,
      ⟨es, hes, -, hnd, hp⟩, rfl⟩, ⟨rfl, hgap, -⟩, rfl⟩ := h
    exact .mk hname hes hnd hp hgap
  · obtain @⟨name, v, gap, es, a, hname, hes, hnd, hp, hgap⟩ := h
    -- the name must not run on into attributes, white space or the bracket
    have hstop : Stops isAlphanumeric (v ++ (gap ++ '>' :: r)) :=
      hes.stops.append (hgap.stops.append (by simp; decide))
    refine ⟨'<' :: name ++ v ++ gap, rfl, '<' :: name ++ v, gap, _, _, rfl, ?_,
      ⟨rfl, hgap, by simp; decide⟩, rfl⟩
    exact ⟨'<' :: name, v, _, a, rfl, ⟨name, rfl, rfl, hname, hstop⟩,
      ⟨es, hes, not_spacedEntry_of_blank hgap, hnd, hp⟩, rfl⟩

/-- **End tags.** The rule reads what the grammar derives, whatever follows. -/
theorem reads_endTag : Reads (endTag.run enter) fun w _ n => DerivesEnd w n := by
  have hslash : Reads ((neither (literal '<') (literal '/') : Rule Unit).run enter) _ :=
    (reads_literal '<').sequence (reads_literal '/') fun _ _ => ()
  have h := ((hslash.sequence reads_gap fun _ _ => ()).sequence reads_name fun _ n => n).sequence
    reads_gap (fun n _ => n) |>.left_literal '>'
  refine h.congr fun w r n => ?_
  refine ⟨fun h => ?_, fun h => ?_⟩
  · obtain ⟨_, rfl, _, gap', _, _, rfl, ⟨_, name, _, _, rfl, ⟨_, gap, _, _, rfl, ⟨_, _, x, y, rfl,
      ⟨rfl, hx⟩, ⟨rfl, hy⟩, -⟩, ⟨rfl, hgap, -⟩, -⟩, ⟨rfl, hname, -⟩, rfl⟩, ⟨rfl, hgap', -⟩,
      rfl⟩ := h
    obtain rfl : x = '<' := by simpa using hx
    obtain rfl : y = '/' := by simpa using hy
    exact .mk hgap hname hgap'
  · obtain @⟨gap, name, gap', hgap, hname, hgap'⟩ := h
    have hstop : Stops isAlphanumeric (gap' ++ '>' :: r) := hgap'.stops.append (by simp; decide)
    refine ⟨'<' :: '/' :: gap ++ name ++ gap', rfl, '<' :: '/' :: gap ++ name, gap', _, _, rfl, ?_,
      ⟨rfl, hgap', by simp; decide⟩, rfl⟩
    refine ⟨'<' :: '/' :: gap, name, (), _, rfl, ?_, ⟨rfl, hname, hstop⟩, rfl⟩
    exact ⟨['<', '/'], gap, (), _, rfl, ⟨['<'], ['/'], '<', '/', rfl, ⟨rfl, by simp⟩,
      ⟨rfl, by simp⟩, rfl⟩, ⟨rfl, hgap, hname.stops _⟩, rfl⟩

end Grammar

end TagMarkup

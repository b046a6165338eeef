import TagMarkup.Proofs.Tags

/-!
# Start tags and their attributes

**Theorem (`Grammar.startTag_of_row`).** A start tag keeps each of its attributes or rejects all of
them. With distinct keys it is read up to its `>`, its attributes hold every key with its own value
and nothing else, and the order and the white space of the attributes make no difference. Where two
keys are equal it fails right behind the name, whatever follows the attributes.

The keys are compared after the last attribute that can be read. What follows the given attributes
may hold more of them, and two equal keys are still there; so nothing about the rest is needed to
know that the list is rejected (`Grammar.startTag_of_duplicate`).
-/

namespace TagMarkup

open Cursor Outcome TagMarkup.Parser

/-! ## Attributes as they are written -/

/-- An attribute as it stands in a start tag: white space, a key, and a value in quotation marks. -/
structure WrittenAttribute where
  blank : List Char
  key : List Char
  value : List Char
  blank_ne_nil : blank ≠ []
  isBlank : IsBlank blank
  isName : IsName key
  isValue : IsValue value

namespace WrittenAttribute

/-- The key and the value. -/
def toEntry (a : WrittenAttribute) : String × String := (.ofList a.key, .ofList a.value)

/-- The characters of the attribute. -/
def chars (a : WrittenAttribute) : List Char :=
  a.blank ++ (a.key ++ '=' :: '"' :: a.value ++ ['"'])

/-- The characters of attributes in a row. -/
def row (as : List WrittenAttribute) : List Char := as.flatMap chars

theorem derivesEntries_row (as : List WrittenAttribute) :
    DerivesEntries (row as) (as.map toEntry) := by
  induction as with
  | nil => exact .nil
  | cons a as ih => exact .cons a.blank_ne_nil a.isBlank (.mk a.isName a.isValue) ih

theorem keys_nodup_iff {as : List WrittenAttribute} :
    ((as.map toEntry).map Prod.fst).Nodup ↔ (as.map key).Nodup := by
  have h : (as.map toEntry).map Prod.fst = (as.map key).map String.ofList := by simp [toEntry]
  rw [h, List.nodup_map_iff fun _ _ => String.ofList_injective]

end WrittenAttribute

/-- The name does not run on into attributes if there are two of them. -/
theorem DerivesEntries.stops_of_duplicate {v : List Char} {es : List (String × String)}
    (hv : DerivesEntries v es) (hdup : ¬ (es.map Prod.fst).Nodup) (r : List Char) :
    Stops isAlphanumeric (v ++ r) := by
  have hne : v ≠ [] := by
    cases hv with
    | nil => exact absurd .nil hdup
    | cons hne => simp [hne]
  obtain ⟨x, v, rfl⟩ := List.exists_cons_of_ne_nil hne
  simpa using hv.stops

theorem DerivesEntries.append {w v : List Char} {es es' : List (String × String)}
    (h : DerivesEntries w es) (h' : DerivesEntries v es') :
    DerivesEntries (w ++ v) (es ++ es') := by
  induction h with
  | nil => exact h'
  | cons hne hb he _ ih =>
    rw [List.append_assoc]
    exact .cons hne hb he ih

namespace Grammar

variable {enter : (k : String) → Cursor → Outcome Empty (List Node)}

/-! ## Equal keys -/

/-- Attributes with two equal keys are rejected where they start, whatever follows them. -/
theorem entries_of_duplicate {v : List Char} {es : List (String × String)}
    (hv : DerivesEntries v es) (hdup : ¬ (es.map Prod.fst).Nodup) (b r : List Char) :
    entries.run enter (between b (v ++ r)) =
      failure ⟨.validationFailed, between b (v ++ r)⟩ := by
  -- whatever more can be read behind them, the keys are still not distinct
  obtain ⟨w, r, more, rfl, hmore⟩ :=
    exists_repeated (R := fun w _ e => SpacedEntry w e) (fun _ _ _ he => he.ne_nil) r
  obtain ⟨hw, hno⟩ := repeated_spacedEntry.1 hmore
  have hrepeated := repeated_spacedEntry.2 ⟨hv.append hw, hno⟩
  have hmany := ((@reads_spacedEntry enter).many fun _ _ _ he => he.ne_nil).complete hrepeated b
  have hkeys : distinctKeys (es ++ more) = false := by
    rw [← Bool.not_eq_true, distinctKeys_iff, List.map_append]
    exact fun h => hdup h.of_append_left
  rw [← List.append_assoc, entries, Parser.run, Parser.run, hmany]
  simp only [Outcome.andThen, hkeys, Bool.false_eq_true, if_false]
  rfl

/-- Where a start tag with two equal keys begins, it fails right behind the name. -/
theorem startTag_of_duplicate {name v : List Char} {es : List (String × String)}
    (hname : IsName name) (hv : DerivesEntries v es) (hdup : ¬ (es.map Prod.fst).Nodup)
    {c d : Cursor} (hd : c.Leads ('<' :: name) d) (hfront : v <+: d.unread) :
    startTag.run enter c = failure ⟨.validationFailed, d⟩ := by
  obtain ⟨r, hr⟩ := hfront
  have hopen : (right (literal '<') Grammar.name : Rule String).run enter c =
      success (.ofList name) d := by
    have hstops : Stops isAlphanumeric d.unread := hr ▸ hv.stops_of_duplicate hdup r
    exact ((@reads_name enter).right_literal '<').eq_success_iff.2
      ⟨_, hd, name, rfl, rfl, hname, hstops⟩
  have hentries : entries.run enter d = failure ⟨.validationFailed, d⟩ := by
    rw [d.eq_between, ← hr]
    exact entries_of_duplicate hv hdup d.before r
  simp only [startTag, left, Parser.run, hopen, Outcome.andThen, hentries]
  rfl

/-! ## All attributes or none -/

open WrittenAttribute

/-- **Start tags keep every attribute or reject them all.** Let attributes stand in a row behind `<`
and a name. If their keys are distinct, some attributes hold just their entries, and a start tag
with the same entries in any order and with any white space is read up to its `>`, whatever
follows, with these attributes. If two keys are equal, the start tag fails right behind the name,
whatever follows the row. -/
theorem startTag_of_row {name : List Char} (hname : IsName name) (as : List WrittenAttribute) :
    ((as.map key).Nodup → ∃ attributes : Attributes,
      attributes.entries.length = as.length ∧
        (∀ a ∈ as, attributes.get? (.ofList a.key) = some (.ofList a.value)) ∧
        ∀ bs : List WrittenAttribute, (bs.map toEntry).Perm (as.map toEntry) →
          ∀ (gap : List Char) (c d : Cursor), IsBlank gap →
            c.Leads ('<' :: name ++ row bs ++ gap ++ ['>']) d →
            apply startTag c = success ⟨.ofList name, attributes⟩ d) ∧
      (¬ (as.map key).Nodup → ∀ c d : Cursor, c.Leads ('<' :: name) d → row as <+: d.unread →
        apply startTag c = failure ⟨.validationFailed, d⟩) := by
  rw [← keys_nodup_iff]
  refine ⟨fun hnd => ?_, fun hdup c d => startTag_of_duplicate hname (derivesEntries_row as) hdup⟩
  have hperm := Attributes.ofList_perm hnd
  refine ⟨.ofList (as.map toEntry), by simpa using hperm.length_eq, fun a ha => ?_,
    fun bs hbs gap c d hgap hd => ?_⟩
  · exact Attributes.get?_eq_some_iff.2 (hperm.mem_iff.2 (List.mem_map_of_mem ha))
  · have hnd' := (hbs.map Prod.fst).nodup_iff.2 hnd
    exact reads_startTag.eq_success_iff.2
      ⟨_, hd, .mk hname (derivesEntries_row bs) hnd' (hperm.trans hbs.symm) hgap⟩

/-- An attribute whose value looks like the end of a start tag. -/
def angleAttribute : WrittenAttribute where
  blank := [' ']
  key := ['b']
  value := ['/', '>']
  blank_ne_nil := by decide
  isBlank := by decide
  isName := by decide
  isValue := by decide

/-- An attribute with an empty value, on a line of its own. -/
def emptyAttribute : WrittenAttribute where
  blank := ['\n', ' ']
  key := ['a']
  value := []
  blank_ne_nil := by decide
  isBlank := by decide
  isName := by decide
  isValue := by decide

/-- The two attributes in both orders, and one of them twice in front of something else. -/
theorem startTag_of_row_swapped :
    (∃ attributes : Attributes, attributes.entries.length = 2 ∧
      attributes.get? "a" = some "" ∧ attributes.get? "b" = some "/>" ∧
      apply startTag (start "<é b=\"/>\"\n a=\"\">x") =
        success ⟨"é", attributes⟩ (between "<é b=\"/>\"\n a=\"\">".toList.reverse ['x']) ∧
      apply startTag (start "<é\n a=\"\" b=\"/>\" >") =
        success ⟨"é", attributes⟩ (between "<é\n a=\"\" b=\"/>\" >".toList.reverse [])) ∧
    apply startTag (start "<é b=\"/>\" b=\"/>\"</") =
      failure ⟨.validationFailed, between "<é".toList.reverse " b=\"/>\" b=\"/>\"</".toList⟩ := by
  have hname : IsName ['é'] := by decide +kernel
  obtain ⟨attributes, hlength, hget, hread⟩ :=
    (startTag_of_row hname [angleAttribute, emptyAttribute]).1 (by decide)
  refine ⟨⟨attributes, hlength, hget emptyAttribute (by simp), hget angleAttribute (by simp),
    ?_, ?_⟩, ?_⟩
  · exact hread [angleAttribute, emptyAttribute] (.refl _) [] _ _ (by decide)
      ⟨by decide +kernel, by decide +kernel⟩
  · exact hread [emptyAttribute, angleAttribute] (.swap ..) [' '] _ _ (by decide)
      ⟨by decide +kernel, by decide +kernel⟩
  · exact (startTag_of_row hname [angleAttribute, angleAttribute]).2 (by decide) _ _
      ⟨by decide +kernel, by decide +kernel⟩ ⟨['<', '/'], by decide +kernel⟩

end Grammar

end TagMarkup

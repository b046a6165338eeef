import Mathlib.Data.List.Nodup
import Mathlib.Tactic.Common
import TagMarkup.Markup.Attributes

/-!
# Attributes and their entries

Attributes made of entries with distinct keys hold exactly these entries, in whatever order they
came. Where keys are distinct, looking one up finds its entry.
-/

namespace TagMarkup

universe u

/-- Where no key comes twice, the entry that is found is the one that is there. -/
theorem lookup_eq_some_iff_mem {β : Type u} {es : List (String × β)}
    (h : (es.map Prod.fst).Nodup) {key : String} {b : β} :
    es.lookup key = some b ↔ (key, b) ∈ es := by
  induction es with
  | nil => simp
  | cons e es ih =>
    obtain ⟨name, held⟩ := e
    have := List.mem_map_of_mem (f := Prod.fst) (a := (key, b)) (l := es)
    grind

namespace Attributes

/-- Attributes are known by the entries they hold. -/
theorem eq_of_perm {a b : Attributes} (h : a.entries.Perm b.entries) : a = b := by
  have he : a.entries = b.entries :=
    h.eq_of_pairwise (fun x y _ _ hxy hyx => absurd hyx (String.lt_asymm hxy))
      a.increasing b.increasing
  cases a
  cases b
  simpa using he

/-- The keys of attributes are pairwise distinct. -/
theorem nodup_keys (a : Attributes) : (a.entries.map Prod.fst).Nodup := by
  rw [List.nodup_iff_pairwise_ne, List.pairwise_map]
  refine a.increasing.imp fun {x y} hlt heq => ?_
  rw [heq] at hlt
  exact String.lt_irrefl _ hlt

theorem get?_eq_some_iff {a : Attributes} {key value : String} :
    a.get? key = some value ↔ (key, value) ∈ a.entries :=
  lookup_eq_some_iff_mem a.nodup_keys

theorem insertEntry_perm {key value : String} :
    ∀ {es : List (String × String)}, key ∉ es.map Prod.fst →
      (insertEntry key value es).Perm ((key, value) :: es)
  | [], _ => .refl _
  | e :: rest, h => by
    simp only [List.map_cons, List.mem_cons, not_or] at h
    unfold insertEntry
    split_ifs with hlt hgt
    · exact .refl _
    · exact ((insertEntry_perm h.2).cons e).trans (.swap ..)
    · exact absurd (String.le_antisymm (String.not_lt.1 hgt) (String.not_lt.1 hlt)) h.1

theorem foldl_insert_perm {es : List (String × String)} {a : Attributes}
    (h : ((a.entries ++ es).map Prod.fst).Nodup) :
    (es.foldl (fun a e => a.insert e.1 e.2) a).entries.Perm (a.entries ++ es) := by
  induction es generalizing a with
  | nil => simp
  | cons e es ih =>
    have hp : (a.entries ++ e :: es).Perm (e :: a.entries ++ es) := List.perm_middle
    have hnd := (hp.map Prod.fst).nodup_iff.1 h
    simp only [List.cons_append, List.map_cons, List.nodup_cons, List.map_append,
      List.mem_append, not_or] at hnd
    have hi : (a.insert e.1 e.2).entries.Perm (e :: a.entries) := insertEntry_perm hnd.1.1
    have hies := hi.append_right es
    exact (ih ((hies.trans hp.symm).map Prod.fst |>.nodup_iff.2 h)).trans (hies.trans hp.symm)

/-- **Nothing is lost**: entries with distinct keys are exactly those of the attributes made of
them. -/
theorem ofList_perm {es : List (String × String)} (h : (es.map Prod.fst).Nodup) :
    (ofList es).entries.Perm es :=
  foldl_insert_perm (a := empty) h

theorem eq_ofList_iff {es : List (String × String)} (h : (es.map Prod.fst).Nodup)
    {a : Attributes} : a = ofList es ↔ a.entries.Perm es :=
  ⟨fun ha => ha ▸ ofList_perm h, fun ha => eq_of_perm (ha.trans (ofList_perm h).symm)⟩

end Attributes

end TagMarkup

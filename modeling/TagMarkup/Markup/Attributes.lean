/-!
# Attributes

The attributes of a tag map keys to values. They are kept in increasing order of their keys, by
the code points of the characters, so two maps are equal exactly when they hold the same
entries, and listing the entries lists them in order.
-/

namespace TagMarkup

/-- A finite map from keys to values, in increasing order of the keys. -/
structure Attributes where
  entries : List (String × String)
  increasing : entries.Pairwise (·.1 < ·.1)
deriving DecidableEq

namespace Attributes

/-- No attributes. -/
def empty : Attributes := ⟨[], .nil⟩

instance : Inhabited Attributes := ⟨empty⟩

/-- Puts an entry into a list in increasing order; it replaces an entry of the same key. -/
def insertEntry (key value : String) : List (String × String) → List (String × String)
  | [] => [(key, value)]
  | e :: rest =>
    if key < e.1 then (key, value) :: e :: rest
    else if e.1 < key then e :: insertEntry key value rest
    else (key, value) :: rest

theorem mem_insertEntry {key value : String} {x : String × String} :
    ∀ {es : List (String × String)}, x ∈ insertEntry key value es → x = (key, value) ∨ x ∈ es
  | [], h => by simpa [insertEntry] using h
  | e :: rest, h => by
    unfold insertEntry at h
    split at h
    · simpa using h
    · split at h
      · rcases List.mem_cons.1 h with rfl | h
        · simp
        · rcases mem_insertEntry h with rfl | h <;> simp [*]
      · rcases List.mem_cons.1 h with rfl | h <;> simp [*]

theorem insertEntry_increasing (key value : String) :
    ∀ {es : List (String × String)}, es.Pairwise (·.1 < ·.1) →
      (insertEntry key value es).Pairwise (·.1 < ·.1)
  | [], _ => by simp [insertEntry]
  | e :: rest, h => by
    obtain ⟨he, hrest⟩ := List.pairwise_cons.1 h
    unfold insertEntry
    split
    · rename_i hlt
      refine List.pairwise_cons.2 ⟨fun x hx => ?_, h⟩
      rcases List.mem_cons.1 hx with rfl | hx
      · exact hlt
      · exact String.lt_trans hlt (he x hx)
    · split
      · rename_i hlt
        refine List.pairwise_cons.2 ⟨fun x hx => ?_, insertEntry_increasing key value hrest⟩
        rcases mem_insertEntry hx with rfl | hx
        · exact hlt
        · exact he x hx
      · rename_i h₁ h₂
        have heq : key = e.1 := String.le_antisymm (String.not_lt.1 h₂) (String.not_lt.1 h₁)
        exact List.pairwise_cons.2 ⟨fun x hx => heq ▸ he x hx, hrest⟩

/-- Gives a key a value, in place of the one it had. -/
def insert (a : Attributes) (key value : String) : Attributes :=
  ⟨insertEntry key value a.entries, insertEntry_increasing key value a.increasing⟩

/-- The attributes of a list of entries; of entries with one key the last one counts. -/
def ofList (es : List (String × String)) : Attributes :=
  es.foldl (fun a e => a.insert e.1 e.2) empty

/-- The value of a key. -/
def get? (a : Attributes) (key : String) : Option String := a.entries.lookup key

end Attributes

end TagMarkup

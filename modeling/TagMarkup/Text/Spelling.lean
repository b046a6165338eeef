/-!
# Values that are spelled with characters

Parsers read characters and build values of many types from them. `spelling` gives the
characters of such a value back, in order.
-/

namespace TagMarkup

/-- The types whose values are spelled with characters. -/
class Spelled (α : Type) where
  /-- The characters of a value, in order. -/
  spelling : α → List Char

export Spelled (spelling)

instance : Spelled Char := ⟨fun c => [c]⟩

instance : Spelled String := ⟨String.toList⟩

instance : Spelled Unit := ⟨fun _ => []⟩

instance {α : Type} [Spelled α] : Spelled (List α) := ⟨fun as => as.flatMap spelling⟩

instance {α β : Type} [Spelled α] [Spelled β] : Spelled (α × β) :=
  ⟨fun ab => spelling ab.1 ++ spelling ab.2⟩

/-- The text of a value. -/
def spelledText {α : Type} [Spelled α] (a : α) : String := String.ofList (spelling a)

theorem spelledText_chars (cs : List Char) : spelledText cs = .ofList cs := by
  simp [spelledText, spelling]

end TagMarkup

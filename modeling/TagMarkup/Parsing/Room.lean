/-!
# Room for values

The values that a counted repetition collects lie side by side, and room for all of them is
reserved before the first attempt. Nothing larger than `Room.largest` bytes can be reserved, so
a count that asks for more breaks the run off, whatever the input is. How many bytes a value takes
is a matter of its type.
-/

namespace TagMarkup

/-- How many bytes a value of a type takes where values lie side by side. -/
class Sized (α : Type) where
  width : Nat

/-- A character takes as many bytes as its number needs. -/
instance : Sized Char := ⟨4⟩

/-- There is only one value of this type, and it takes none. -/
instance : Sized Unit := ⟨0⟩

/-- A text takes the bytes of its place and of its two lengths. -/
instance : Sized String := ⟨24⟩

/-- A list takes the bytes of its place and of its two lengths. -/
instance {α : Type} : Sized (List α) := ⟨24⟩

namespace Room

/-- The largest number of bytes that can be reserved. -/
def largest : Nat := 0x7fffffffffffffff

/-- Whether there is room for so many values of a type. -/
def holds (α : Type) [Sized α] (count : Nat) : Bool := count * Sized.width α ≤ largest

end Room

end TagMarkup

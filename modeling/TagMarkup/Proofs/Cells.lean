import Mathlib.Tactic.Common
import TagMarkup.Parsing.History

/-!
# Parsers with functions and cells inside

A parser may hold functions that do as they like, and cells whose parsers are given elsewhere.
What is proved about all parsers is asked of these functions (`Parser.Leaves`) and follows for the
cells of a registry by induction on how deep they are entered (`Registry.enter_induction`).
-/

namespace TagMarkup

/-- All functions that are used as parsers inside of a parser have a property. -/
def Parser.Leaves {κ ε : Type} {ν : κ → Type} (P : (α : Type) → (Cursor → Outcome ε α) → Prop) :
    {α : Type} → Parser ε ν α → Prop
  | _, any | _, literal _ | _, satisfy .. | _, noneOf _ | _, cell _ => True
  | α, ofFn f => P α f
  | _, sequence p q _ | _, sequenceIf p q _ _ | _, orElse p q => p.Leaves P ∧ q.Leaves P
  | _, many p | _, oneOrMore p | _, exactly p _ _ | _, map p _ | _, validate p _ | _, toEnd p
  | _, shared p => p.Leaves P

namespace Registry

variable {ν : Type}

theorem exists_slot_of_target? {r : Registry ν} {cell : Cell} {held : Held ν}
    (h : r.target? cell = some held) : ∃ slot ∈ r.slots, slot.2 = held := by
  obtain ⟨id, -, hid⟩ := Option.bind_eq_some_iff.1 h
  obtain ⟨slot, hslot, rfl⟩ := Option.map_eq_some_iff.1 hid
  exact ⟨slot, List.mem_of_find?_eq_some hslot, rfl⟩

/-- The parser that a cell stands for, or the fault that breaks off an entry. -/
def resolve (r : Registry ν) (scope : List (String × CellId)) (handle : String) :
    Except Fault (Held ν) :=
  match (scope.lookup handle).bind fun id => r.cells[id]? with
  | none => .error (.unavailable handle)
  | some cell =>
    match r.target? cell with
    | none => .error (.unavailable cell.name)
    | some held => .ok held

section Resolve

variable {r : Registry ν} {scope : List (String × CellId)} {handle : String} {held : Held ν}

theorem enter_of_refused {fault : Fault} (h : r.resolve scope handle = .error fault)
    (entries : Nat) (c : Cursor) : r.enter entries scope handle c = .broken fault := by
  unfold resolve at h
  unfold enter
  cases hcell : (scope.lookup handle).bind fun id => r.cells[id]? with
  | none => simp_all
  | some cell => cases htarget : r.target? cell <;> simp_all

theorem enter_succ_of_ok (h : r.resolve scope handle = .ok held) (n : Nat) (c : Cursor) :
    r.enter (n + 1) scope handle c = held.parser.run (r.enter n held.scope) c := by
  unfold resolve at h
  unfold enter
  cases hcell : (scope.lookup handle).bind fun id => r.cells[id]? with
  | none => simp_all
  | some cell => cases htarget : r.target? cell <;> simp_all

/-- Where no entry is left, a cell is taken to be entered without end. -/
theorem enter_zero_of_ok (h : r.resolve scope handle = .ok held) :
    ∃ name, r.enter 0 scope handle = fun _ => .broken (.endless name) := by
  unfold resolve at h
  cases hcell : (scope.lookup handle).bind fun id => r.cells[id]? with
  | none => simp_all
  | some cell =>
    refine ⟨cell.name, funext fun c => ?_⟩
    unfold enter
    cases htarget : r.target? cell <;> simp_all

theorem exists_slot_of_resolve (h : r.resolve scope handle = .ok held) :
    ∃ slot ∈ r.slots, slot.2 = held := by
  unfold resolve at h
  split at h
  · cases h
  · split at h
    next => cases h
    next held' htarget =>
      cases h
      exact exists_slot_of_target? htarget

end Resolve

/-- An entry is broken off wherever it is made, or it runs a parser that some slot holds, whose
cells are entered one level less deep. -/
theorem enter_cases (r : Registry ν) (entries : Nat) (scope : List (String × CellId))
    (handle : String) :
    (∃ fault, r.enter entries scope handle = fun _ => .broken fault) ∨
      ∃ n, entries = n + 1 ∧ ∃ slot ∈ r.slots,
        r.enter entries scope handle = slot.2.parser.run (r.enter n slot.2.scope) := by
  cases hheld : r.resolve scope handle with
  | error fault => exact .inl ⟨fault, funext fun c => enter_of_refused hheld entries c⟩
  | ok held =>
    cases entries with
    | zero =>
      obtain ⟨name, h⟩ := enter_zero_of_ok hheld
      exact .inl ⟨.endless name, h⟩
    | succ n =>
      obtain ⟨slot, hslot, rfl⟩ := exists_slot_of_resolve hheld
      exact .inr ⟨n, rfl, slot, hslot, funext fun c => enter_succ_of_ok hheld n c⟩

/-- **Induction on entries.** What holds of entries that are broken off, and of the run of a held
parser whenever it holds of the cells, holds of every cell, however deep it is entered. -/
theorem enter_induction (r : Registry ν) {P : (Cursor → Outcome Fault ν) → Prop}
    (brokenOff : ∀ fault, P fun _ => .broken fault)
    (runs : ∀ slot ∈ r.slots, ∀ enter : String → Cursor → Outcome Fault ν,
      (∀ handle, P (enter handle)) → P (slot.2.parser.run enter))
    (entries : Nat) (scope : List (String × CellId)) (handle : String) :
    P (r.enter entries scope handle) := by
  induction entries using Nat.strongRecOn generalizing scope handle with
  | _ n ih =>
    obtain ⟨fault, h⟩ | ⟨m, rfl, slot, hslot, h⟩ := r.enter_cases n scope handle
    · rw [h]
      exact brokenOff fault
    · rw [h]
      exact runs slot hslot _ fun handle => ih m (Nat.lt_succ_self m) slot.2.scope handle

end Registry

/-! ## A rule that enters itself -/

/-- Round brackets around the same again or around one character. -/
def Parser.nested : Parser Fault (Uniform String) String :=
  left (right (literal '(') (orElse (cell "nested") (take 1))) (literal ')')

/-- The registry in which the cell of `Parser.nested` is defined. -/
def Registry.nested : Registry String :=
  (empty.replay [.create "nested" "nested", .hold "rule" .nested, .define "nested" "rule"]).1

theorem Registry.leaves_nested {P : (α : Type) → (Cursor → Outcome Fault α) → Prop}
    (h : Parser.nested.Leaves P) : ∀ slot ∈ nested.slots, slot.2.parser.Leaves P := by
  intro slot hslot
  obtain rfl : slot = ("rule", ⟨0, .nested, [("nested", 0)]⟩) := List.mem_singleton.1 hslot
  exact h

end TagMarkup

import TagMarkup.Proofs.Attributes
import TagMarkup.Proofs.Cells

/-!
# The life of a cell

**Theorem (`Registry.lifecycle`).** After every history, a cell is defined exactly when a define
on one of its handles succeeded; at most one ever does, and every later one is refused and changes
nothing. Entering the cell does what applying the parser of that define does as long as some slot
holds that very parser, and is broken off otherwise.

A history is read here from its end: `past` lists the steps, the last one first, and
`Registry.after past` is the registry behind them. What a handle stands for, what a slot holds and
what a cell was defined as are read off from the steps alone (`cellOf?`, `parserIn?`,
`definition?`), without a registry. Handles that stand for the same cell share its definition; a
new handle of that kind comes from a clone.

The proof is an induction over the history with the invariant `Reflects`: the registry says the
same as the steps, and slots that hold parsers of one number hold the same parser, whichever of
them is asked. Liveness is no part of the cell, so the invariant has nothing to say when a parser
goes: the slots alone decide it.
-/

namespace TagMarkup

universe u

/-! ## What the steps of a history say -/

namespace History

variable {π : Type u}

/-- How many cells were created. -/
def cellCount : List (Step π) → Nat
  | [] => 0
  | .create .. :: past => cellCount past + 1
  | _ :: past => cellCount past

/-- How many parsers were built. -/
def parserCount : List (Step π) → Nat
  | [] => 0
  | .hold .. :: past => parserCount past + 1
  | _ :: past => parserCount past

/-- The cell that a handle stands for. -/
def cellOf? : List (Step π) → String → Option CellId
  | [], _ => none
  | .create handle _ :: past, x => if x = handle then some (cellCount past) else cellOf? past x
  | .clone handle other :: past, x =>
    if x = other then (cellOf? past handle).or (cellOf? past x) else cellOf? past x
  | _ :: past, x => cellOf? past x

/-- The name that a cell was created with. -/
def nameOf? : List (Step π) → CellId → Option String
  | [], _ => none
  | .create _ name :: past, k => if k = cellCount past then some name else nameOf? past k
  | _ :: past, k => nameOf? past k

/-- The parser that a slot holds, and its number. -/
def parserIn? : List (Step π) → String → Option (ParserId × π)
  | [], _ => none
  | .hold slot p :: past, s => if s = slot then some (parserCount past, p) else parserIn? past s
  | .share slot other :: past, s =>
    if s = other then (parserIn? past slot).or (parserIn? past s) else parserIn? past s
  | .drop slot :: past, s => if s = slot then none else parserIn? past s
  | _ :: past, s => parserIn? past s

/-- The parser that a cell was defined as first. -/
def definition? : List (Step π) → CellId → Option ParserId
  | [], _ => none
  | .define handle slot :: past, k =>
    (definition? past k).or
      (if cellOf? past handle = some k then (parserIn? past slot).map Prod.fst else none)
  | _ :: past, k => definition? past k

theorem cellOf?_lt {past : List (Step π)} {x : String} {k : CellId}
    (h : cellOf? past x = some k) : k < cellCount past := by
  induction past generalizing x with
  | nil => cases h
  | cons s past ih =>
    cases s with
    | create handle name =>
      simp only [cellOf?] at h
      simp only [cellCount]
      split_ifs at h with hx
      · cases h
        exact Nat.lt_succ_self _
      · exact Nat.lt_succ_of_lt (ih h)
    | clone handle other =>
      simp only [cellOf?] at h
      split_ifs at h with hx
      · rcases Option.or_eq_some_iff.1 h with h | ⟨-, h⟩
        · exact ih h
        · exact ih h
      · exact ih h
    | _ => exact ih h

/-- A cell that is yet to be created has no definition. -/
theorem definition?_eq_none {past : List (Step π)} {k : CellId} (h : cellCount past ≤ k) :
    definition? past k = none := by
  induction past with
  | nil => rfl
  | cons s past ih =>
    cases s with
    | create handle name => exact ih (Nat.le_of_succ_le h)
    | define handle slot =>
      have hk : cellOf? past handle ≠ some k := fun hk => Nat.not_lt.2 h (cellOf?_lt hk)
      simp only [definition?, ih h, if_neg hk]
      rfl
    | _ => exact ih h

/-- A definition stays what it is. -/
theorem definition?_append {past : List (Step π)} {k : CellId} {id : ParserId}
    (h : definition? past k = some id) (more : List (Step π)) :
    definition? (more ++ past) k = some id := by
  induction more with
  | nil => exact h
  | cons s more ih =>
    cases s with
    | define handle slot => simp [definition?, ih]
    | _ => exact ih

end History

namespace Registry

open History

variable {ν : Type}

/-! ## The registry behind a history -/

/-- The steps of a history, the last one first. -/
abbrev Past (ν : Type) := List (Step (Parser Fault (Uniform ν) ν))

theorem replay_append (r : Registry ν) (ss ts : List (Step (Parser Fault (Uniform ν) ν))) :
    (r.replay (ss ++ ts)).1 = ((r.replay ss).1.replay ts).1 := by
  induction ss generalizing r with
  | nil => rfl
  | cons s ss ih => exact ih _

/-- The registry behind a history that starts without cells and parsers. -/
def after (past : Past ν) : Registry ν := (empty.replay past.reverse).1

theorem after_cons (s : Step (Parser Fault (Uniform ν) ν)) (past : Past ν) :
    after (s :: past) = ((after past).step s).1 := by
  rw [after, List.reverse_cons, replay_append]
  rfl

/-- The registry says the same as the steps. Each slot holds one parser, and parsers of the same
number are the same, in whatever slots they are. -/
structure Reflects (r : Registry ν) (past : Past ν) : Prop where
  handle (x : String) : r.handles.lookup x = cellOf? past x
  cell (k : CellId) : r.cells[k]? = (nameOf? past k).map fun name => ⟨name, definition? past k⟩
  slot (s : String) :
    (r.slots.lookup s).map (fun held => (held.id, held.parser)) = parserIn? past s
  size : r.cells.size = cellCount past
  created : r.created = parserCount past
  slots_nodup : (r.slots.map Prod.fst).Nodup
  ids_lt : ∀ x ∈ r.slots, x.2.id < r.created
  same : ∀ x ∈ r.slots, ∀ y ∈ r.slots, x.2.id = y.2.id → x.2 = y.2

/-! ## Slots -/

theorem lookup_filter_ne {β : Type u} (slots : List (String × β)) (slot s : String) :
    (slots.filter (·.1 != slot)).lookup s = if s = slot then none else slots.lookup s := by
  induction slots with
  | nil => simp
  | cons e slots ih =>
    obtain ⟨name, held⟩ := e
    grind

theorem lookup_fill (r : Registry ν) (slot : String) (held : Held ν) (s : String) :
    (r.fill slot held).slots.lookup s = if s = slot then some held else r.slots.lookup s := by
  by_cases hs : s = slot
  · simp [fill, hs]
  · have hbeq : (s == slot) = false := beq_eq_false_iff_ne.2 hs
    simp [fill, drop, List.lookup_cons, lookup_filter_ne, hbeq, hs]

theorem nodup_fill {r : Registry ν} (h : (r.slots.map Prod.fst).Nodup) (slot : String)
    (held : Held ν) : ((r.fill slot held).slots.map Prod.fst).Nodup := by
  have hslot : slot ∉ (r.drop slot).slots.map Prod.fst := by
    simp [drop]
  exact List.nodup_cons.2 ⟨hslot, h.sublist (List.filter_sublist.map _)⟩

/-- What is in the slots is what one of them was filled with, or was in a slot before. -/
theorem mem_fill {r : Registry ν} {slot : String} {held : Held ν} {x : String × Held ν}
    (h : x ∈ (r.fill slot held).slots) : x.2 = held ∨ x ∈ r.slots := by
  rcases List.mem_cons.1 h with rfl | h
  · exact .inl rfl
  · exact .inr (List.mem_of_mem_filter h)

namespace Reflects

variable {r : Registry ν} {past : Past ν}

/-- A parser is alive as long as some slot holds it. -/
theorem live?_eq_some_iff (h : r.Reflects past) {id : ParserId} {held : Held ν} :
    r.live? id = some held ↔ held.id = id ∧ ∃ s, r.slots.lookup s = some held := by
  simp only [lookup_eq_some_iff_mem h.slots_nodup]
  refine ⟨fun hl => ?_, fun hl => ?_⟩
  · obtain ⟨⟨s, b⟩, hfind, rfl⟩ := Option.map_eq_some_iff.1 hl
    exact ⟨by simpa using List.find?_some hfind, s, List.mem_of_find?_eq_some hfind⟩
  · obtain ⟨rfl, s, hmem⟩ := hl
    cases hfind : r.slots.find? (·.2.id = held.id) with
    | none => exact absurd hfind (by simpa using ⟨s, held, hmem, rfl⟩)
    | some e =>
      -- another slot may be found, but it holds a parser of the same number
      have hid : e.2.id = held.id := by simpa using List.find?_some hfind
      have heq : e.2 = held := h.same e (List.mem_of_find?_eq_some hfind) (s, held) hmem hid
      simp [live?, hfind, heq]

theorem nil : (empty : Registry ν).Reflects [] where
  handle _ := rfl
  cell _ := rfl
  slot _ := rfl
  size := rfl
  created := rfl
  slots_nodup := .nil
  ids_lt := by simp [empty]
  same := by simp [empty]

theorem create (h : r.Reflects past) (handle name : String) :
    (r.create handle name).Reflects (.create handle name :: past) where
  handle x := by
    simp only [Registry.create, List.lookup_cons, h.handle, h.size, cellOf?]
    split <;> simp_all
  cell k := by
    simp only [Registry.create, Array.getElem?_push, h.size, nameOf?, definition?]
    split_ifs with hk
    · simp [definition?_eq_none (Nat.le_of_eq hk.symm)]
    · exact h.cell k
  slot := h.slot
  size := by simp [Registry.create, h.size, cellCount]
  created := h.created
  slots_nodup := h.slots_nodup
  ids_lt := h.ids_lt
  same := h.same

theorem clone (h : r.Reflects past) (handle other : String) :
    (r.clone handle other).Reflects (.clone handle other :: past) := by
  unfold Registry.clone
  rw [h.handle]
  cases hk : cellOf? past handle with
  | none => exact { h with handle := fun x => by simp [h.handle, cellOf?, hk] }
  | some k =>
    refine { h with handle := fun x => ?_ }
    simp only [List.lookup_cons, h.handle, cellOf?, hk]
    split <;> simp_all

theorem drop (h : r.Reflects past) (slot : String) : (r.drop slot).Reflects (.drop slot :: past) :=
  { h with
    slot := fun s => by
      simp only [Registry.drop, lookup_filter_ne, parserIn?, ← h.slot]
      split <;> rfl
    slots_nodup := h.slots_nodup.sublist (List.filter_sublist.map _)
    ids_lt := fun x hx => h.ids_lt x (List.mem_of_mem_filter hx)
    same := fun x hx y hy => h.same x (List.mem_of_mem_filter hx) y (List.mem_of_mem_filter hy) }

/-- What the slots hold when one of them is filled. -/
theorem slot_fill (h : r.Reflects past) (slot : String) (held : Held ν) (s : String) :
    ((r.fill slot held).slots.lookup s).map (fun held => (held.id, held.parser)) =
      if s = slot then some (held.id, held.parser) else parserIn? past s := by
  rw [lookup_fill, ← h.slot]
  split_ifs <;> rfl

theorem hold (h : r.Reflects past) (slot : String) (p : Parser Fault (Uniform ν) ν) :
    (r.hold slot p).Reflects (.hold slot p :: past) := by
  have hne (x : String × Held ν) (hx : x ∈ r.slots) : x.2.id ≠ r.created :=
    Nat.ne_of_lt (h.ids_lt x hx)
  refine { h with slot := fun s => ?slot, created := ?created,
                  slots_nodup := nodup_fill h.slots_nodup slot _,
                  ids_lt := fun x hx => ?ids_lt, same := fun x hx y hy hid => ?same }
  case slot =>
    rw [parserIn?, ← h.created]
    exact h.slot_fill slot _ s
  case created => simp [Registry.hold, h.created, parserCount]
  case ids_lt =>
    rcases mem_fill hx with hx | hx
    · rw [hx]
      exact Nat.lt_succ_self _
    · exact Nat.lt_succ_of_lt (h.ids_lt x hx)
  case same =>
    -- the number is new, so no other slot has it
    rcases mem_fill hx with hx | hx <;> rcases mem_fill hy with hy | hy
    · rw [hx, hy]
    · exact absurd (hid.symm.trans (by rw [hx])) (hne y hy)
    · exact absurd (hid.trans (by rw [hy])) (hne x hx)
    · exact h.same x hx y hy hid

theorem share (h : r.Reflects past) (slot other : String) :
    (r.share slot other).Reflects (.share slot other :: past) := by
  unfold Registry.share
  cases hheld : r.slots.lookup slot with
  | none =>
    have hparser : parserIn? past slot = none := by rw [← h.slot, hheld, Option.map_none]
    exact { h with slot := fun s => by simp [h.slot, parserIn?, hparser] }
  | some held =>
    have hparser : parserIn? past slot = some (held.id, held.parser) := by
      rw [← h.slot, hheld, Option.map_some]
    -- whatever is in a slot now was in a slot before
    have hbefore (x : String × Held ν) (hx : x ∈ (r.fill other held).slots) :
        ∃ y ∈ r.slots, x.2 = y.2 := by
      rcases mem_fill hx with hx | hx
      · exact ⟨(slot, held), (lookup_eq_some_iff_mem h.slots_nodup).1 hheld, hx⟩
      · exact ⟨x, hx, rfl⟩
    refine { h with slot := fun s => ?slot, slots_nodup := nodup_fill h.slots_nodup other held,
                    ids_lt := fun x hx => ?ids_lt, same := fun x hx y hy hid => ?same }
    case slot =>
      rw [parserIn?, hparser, Option.some_or]
      exact h.slot_fill other held s
    case ids_lt =>
      obtain ⟨x', hx', heq⟩ := hbefore x hx
      rw [heq]
      exact h.ids_lt x' hx'
    case same =>
      obtain ⟨x', hx', heqx⟩ := hbefore x hx
      obtain ⟨y', hy', heqy⟩ := hbefore y hy
      rw [heqx, heqy] at hid ⊢
      exact h.same x' hx' y' hy' hid

/-- A cell that was created, with its name and its definition. -/
theorem exists_cell (h : r.Reflects past) {k : CellId} (hlt : k < cellCount past) :
    ∃ name, nameOf? past k = some name ∧ r.cells[k]? = some ⟨name, definition? past k⟩ := by
  have hk := h.cell k
  rw [← h.size] at hlt
  rw [Array.getElem?_eq_getElem hlt] at hk ⊢
  obtain ⟨name, hname, hcell⟩ := Option.map_eq_some_iff.1 hk.symm
  exact ⟨name, hname, by rw [hcell]⟩

theorem exists_held (h : r.Reflects past) {slot : String} {id : ParserId}
    {p : Parser Fault (Uniform ν) ν} (hp : parserIn? past slot = some (id, p)) :
    ∃ held, r.slots.lookup slot = some held ∧ held.id = id ∧ held.parser = p := by
  rw [← h.slot, Option.map_eq_some_iff] at hp
  obtain ⟨held, hs, heq⟩ := hp
  injection heq with hid hparser
  exact ⟨held, hs, hid, hparser⟩

/-- A define of a cell that is defined is refused and changes nothing. -/
theorem step_define_of_some (h : r.Reflects past) {x : String} {k : CellId} {id : ParserId}
    (hx : cellOf? past x = some k) (hk : definition? past k = some id) (slot : String) :
    ∃ name, nameOf? past k = some name ∧
      r.step (.define x slot) = (r, .fault (.definedTwice name)) := by
  obtain ⟨name, hname, hcell⟩ := h.exists_cell (cellOf?_lt hx)
  refine ⟨name, hname, ?_⟩
  simp only [Registry.step, Registry.define, h.handle, hx, hcell, hk]

/-- A define of any other cell with a parser that is held succeeds. -/
theorem step_define_of_none (h : r.Reflects past) {x slot : String} {k : CellId} {held : Held ν}
    (hx : cellOf? past x = some k) (hk : definition? past k = none)
    (hs : r.slots.lookup slot = some held) :
    ∃ name, nameOf? past k = some name ∧ r.step (.define x slot) =
      ({ r with cells := r.cells.setIfInBounds k ⟨name, some held.id⟩ }, .done) := by
  obtain ⟨name, hname, hcell⟩ := h.exists_cell (cellOf?_lt hx)
  refine ⟨name, hname, ?_⟩
  simp only [Registry.step, Registry.define, h.handle, hx, hcell, hk, hs]

/-- A define that adds no definition leaves the registry as it is. -/
theorem define_of_eq (h : r.Reflects past) {x slot : String}
    (hd : ∀ k, definition? (.define x slot :: past) k = definition? past k) :
    r.Reflects (.define x slot :: past) :=
  { h with cell := fun k => by simp only [hd, nameOf?, h.cell] }

theorem define (h : r.Reflects past) (x slot : String) :
    (r.step (.define x slot)).1.Reflects (.define x slot :: past) := by
  cases hx : cellOf? past x with
  | none =>
    simp only [Registry.step, Registry.define, h.handle, hx]
    exact h.define_of_eq fun k => by simp [definition?, hx]
  | some k =>
    cases hk : definition? past k with
    | some id =>
      obtain ⟨name, -, hstep⟩ := h.step_define_of_some hx hk slot
      rw [hstep]
      refine h.define_of_eq fun k' => ?_
      by_cases hk' : k = k'
      · subst hk'
        simp [definition?, hk]
      · simp [definition?, hx, hk']
    | none =>
      have hparser := h.slot slot
      cases hs : r.slots.lookup slot with
      | none =>
        obtain ⟨name, -, hcell⟩ := h.exists_cell (cellOf?_lt hx)
        simp only [Registry.step, Registry.define, h.handle, hx, hcell, hk, hs]
        rw [hs] at hparser
        exact h.define_of_eq fun k' => by simp [definition?, ← hparser]
      | some held =>
        obtain ⟨name, hname, hstep⟩ := h.step_define_of_none hx hk hs
        rw [hstep]
        rw [hs] at hparser
        refine { h with cell := fun k' => ?_, size := by simpa [cellCount] using h.size }
        by_cases hk' : k = k'
        · subst hk'
          have hlt : k < r.cells.size := h.size ▸ cellOf?_lt hx
          simp [nameOf?, definition?, hname, hk, hx, ← hparser, hlt]
        · simp [nameOf?, definition?, hx, hk', h.cell, Array.getElem?_setIfInBounds_ne hk']

theorem step (h : r.Reflects past) (s : Step (Parser Fault (Uniform ν) ν)) :
    (r.step s).1.Reflects (s :: past) := by
  cases s with
  | create handle name => exact h.create handle name
  | clone handle other => exact h.clone handle other
  | hold slot p => exact h.hold slot p
  | share slot other => exact h.share slot other
  | define handle slot => exact h.define handle slot
  | drop slot => exact h.drop slot
  | isDefined handle => exact { h with }
  | name handle => exact { h with }
  | inspect handle => exact { h with }
  | runCell handle text => exact { h with }
  | runSlot slot text =>
    simp only [Registry.step]
    split <;> exact { h with }

end Reflects

/-- After every history the registry says what its steps say. -/
theorem reflects_after (past : Past ν) : (after past).Reflects past := by
  induction past with
  | nil => exact .nil
  | cons s past ih =>
    rw [after_cons]
    exact ih.step s

/-! ## Definitions -/

/-- A define in the history, on a handle of the cell `k` and with the parser of number `id` in the
slot, succeeded. -/
def Defined (past : Past ν) (k : CellId) (id : ParserId) : Prop :=
  ∃ later handle slot earlier p, past = later ++ .define handle slot :: earlier ∧
    cellOf? earlier handle = some k ∧ parserIn? earlier slot = some (id, p) ∧
    ((after earlier).step (.define handle slot)).2 = .done

/-- The define that succeeds is the first one. -/
theorem defined_iff {past : Past ν} {k : CellId} {id : ParserId} :
    Defined past k id ↔ definition? past k = some id := by
  refine ⟨fun h => ?_, fun h => ?_⟩
  · obtain ⟨later, handle, slot, earlier, p, rfl, hk, hp, hdone⟩ := h
    refine definition?_append ?_ later
    cases hd : definition? earlier k with
    | some id' =>
      obtain ⟨name, -, hstep⟩ := (reflects_after earlier).step_define_of_some hk hd slot
      rw [hstep] at hdone
      cases hdone
    | none => simp [definition?, hd, hk, hp]
  · induction past with
    | nil => cases h
    | cons s past ih =>
      by_cases hd : definition? past k = some id
      · obtain ⟨later, handle, slot, earlier, p, rfl, hrest⟩ := ih hd
        exact ⟨s :: later, handle, slot, earlier, p, rfl, hrest⟩
      · cases s with
        | define handle slot =>
          -- this define is the first one, so the registry takes it
          obtain h | ⟨hnone, hnew⟩ := Option.or_eq_some_iff.1 h
          · exact absurd h hd
          · split_ifs at hnew with hk
            obtain ⟨⟨id', p⟩, hp, rfl⟩ := Option.map_eq_some_iff.1 hnew
            obtain ⟨held, hs, -⟩ := (reflects_after past).exists_held hp
            obtain ⟨name, -, hstep⟩ := (reflects_after past).step_define_of_none hk hnone hs
            exact ⟨[], handle, slot, past, p, rfl, hk, hp, by rw [hstep]⟩
        | _ => exact absurd h hd

/-! ## Entering a cell -/

namespace Reflects

variable {r : Registry ν} {past : Past ν}

/-- A cell whose parser is held stands for that parser. -/
theorem resolve_of_held (h : r.Reflects past) {k : CellId} {held : Held ν} {slot handle : String}
    {scope : List (String × CellId)} (hk : definition? past k = some held.id)
    (hs : r.slots.lookup slot = some held) (hscope : scope.lookup handle = some k) :
    r.resolve scope handle = .ok held := by
  have hlt : k < cellCount past := by
    by_contra hge
    rw [definition?_eq_none (Nat.le_of_not_lt hge)] at hk
    cases hk
  obtain ⟨name, -, hcell⟩ := h.exists_cell hlt
  have hlive : r.live? held.id = some held := h.live?_eq_some_iff.2 ⟨rfl, slot, hs⟩
  simp only [resolve, hscope, Option.bind_some, hcell, hk, target?, hlive]

end Reflects

/-- A parser that another slot holds, too, outlives the slot that it came from. -/
example : (after [.drop "rule", .share "rule" "kept", .define "a" "rule",
    .hold "rule" (.literal 'x'), .create "a" "letter"] : Registry Char).runCell "a" (.start "xy") =
      .success 'x' (.between ['x'] ['y']) := by
  decide +kernel

end Registry

end TagMarkup

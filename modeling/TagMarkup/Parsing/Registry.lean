import TagMarkup.Parsing.Fault
import TagMarkup.Parsing.Run

/-!
# Cells and the parsers behind them

A registry keeps cells and parsers. A cell has a name and is defined at most once, as one of the
parsers; it refers to that parser without keeping it. What keeps a parser is a slot that holds
it. Several slots may hold one parser. When the last one of them is dropped or filled anew, the
parser is gone, and a cell defined as it stays defined but can no longer be entered.

Cells and slots have handles, which are strings. Several handles may stand for one cell. The
parser in a slot names cells by the handles as they were when the slot was filled.

A cell that enters itself again at the same place would do so forever. On the way down through
cells that are entered inside each other, either some cell comes twice at one place or the
entries are at most as many as there are cells, for each place from the start to the end of the
input. So entries beyond that number are broken off as endless (`Registry.entriesFrom`).
-/

namespace TagMarkup

/-- The number of a cell, in the order of creation. -/
abbrev CellId := Nat

/-- The number of a parser, in the order of creation. -/
abbrev ParserId := Nat

/-- A cell: its name, and the parser that it was defined as. -/
structure Cell where
  name : String
  target : Option ParserId
deriving DecidableEq

/-- The cell for inspection. -/
def Cell.inspect (c : Cell) : String :=
  "Deferred \x7b name: " ++ Quoted.text c.name ++ ", defined: " ++
    (if c.target.isSome then "true" else "false") ++ " \x7d"

/-- A parser that a slot holds. -/
structure Held (ν : Type) where
  id : ParserId
  parser : Parser Fault (Uniform ν) ν
  /-- The cells that the parser's handles stand for. -/
  scope : List (String × CellId)

/-- Cells and the parsers that are held, by their handles. -/
structure Registry (ν : Type) where
  cells : Array Cell
  handles : List (String × CellId)
  slots : List (String × Held ν)
  /-- How many parsers were created. -/
  created : Nat

namespace Registry

variable {ν : Type}

/-- No cells and no parsers. -/
def empty : Registry ν := ⟨#[], [], [], 0⟩

/-! ## Cells -/

/-- Creates a cell with a name. -/
def create (r : Registry ν) (handle name : String) : Registry ν :=
  { r with
    cells := r.cells.push ⟨name, none⟩
    handles := (handle, r.cells.size) :: r.handles }

/-- Makes another handle stand for the cell of a handle. -/
def clone (r : Registry ν) (handle other : String) : Registry ν :=
  match r.handles.lookup handle with
  | some id => { r with handles := (other, id) :: r.handles }
  | none => r

/-- The cell of a handle. -/
def cell? (r : Registry ν) (handle : String) : Option Cell :=
  (r.handles.lookup handle).bind fun id => r.cells[id]?

/-- Whether the cell of a handle is defined. -/
def isDefined (r : Registry ν) (handle : String) : Bool :=
  (r.cell? handle).any fun c => c.target.isSome

/-! ## Parsers -/

/-- Empties a slot. -/
def drop (r : Registry ν) (slot : String) : Registry ν :=
  { r with slots := r.slots.filter (·.1 != slot) }

/-- Puts a parser into a slot, in place of what the slot held. -/
def fill (r : Registry ν) (slot : String) (held : Held ν) : Registry ν :=
  { r with slots := (slot, held) :: (r.drop slot).slots }

/-- Puts a new parser into a slot. -/
def hold (r : Registry ν) (slot : String) (p : Parser Fault (Uniform ν) ν) : Registry ν :=
  { r.fill slot ⟨r.created, p, r.handles⟩ with created := r.created + 1 }

/-- Makes another slot hold the parser of a slot, too. -/
def share (r : Registry ν) (slot other : String) : Registry ν :=
  match r.slots.lookup slot with
  | some held => r.fill other held
  | none => r

/-- The parser with a number, if some slot still holds it. -/
def live? (r : Registry ν) (id : ParserId) : Option (Held ν) :=
  (r.slots.find? (·.2.id = id)).map (·.2)

/-- Defines the cell of a handle as the parser in a slot. A cell is defined at most once, and
nothing changes where there is no cell or no parser. -/
def define (r : Registry ν) (handle slot : String) : Except Fault (Registry ν) :=
  match r.handles.lookup handle with
  | none => .ok r
  | some id =>
    match r.cells[id]?, r.slots.lookup slot with
    | some ⟨name, some _⟩, _ => .error (.definedTwice name)
    | some ⟨name, none⟩, some held =>
      .ok { r with cells := r.cells.setIfInBounds id ⟨name, some held.id⟩ }
    | _, _ => .ok r

/-! ## Runs -/

/-- The parser behind a cell, if the cell is defined and its parser is still held. -/
def target? (r : Registry ν) (c : Cell) : Option (Held ν) := c.target.bind r.live?

/-- Enters the cell of a handle, with so many entries inside each other at most. -/
def enter (r : Registry ν) :
    Nat → List (String × CellId) → String → Cursor → Outcome Fault ν
  | entries, scope, handle, c =>
    match (scope.lookup handle).bind fun id => r.cells[id]? with
    | none => .broken (.unavailable handle)
    | some cell =>
      match r.target? cell with
      | none => .broken (.unavailable cell.name)
      | some held =>
        match entries with
        | 0 => .broken (.endless cell.name)
        | entries + 1 => held.parser.run (r.enter entries held.scope) c

/-- How many cells can be entered inside each other from a cursor on, unless one of them is
entered without end. -/
def entriesFrom (r : Registry ν) (c : Cursor) : Nat := r.cells.size * (c.remaining + 1)

/-- Applies the parser of a slot. -/
def runSlot (r : Registry ν) (held : Held ν) (c : Cursor) : Outcome Fault ν :=
  held.parser.run (r.enter (r.entriesFrom c) held.scope) c

/-- Applies the cell of a handle. -/
def runCell (r : Registry ν) (handle : String) (c : Cursor) : Outcome Fault ν :=
  r.enter (r.entriesFrom c + 1) r.handles handle c

end Registry

end TagMarkup

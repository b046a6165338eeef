import TagMarkup.Text.Position

/-!
# Cursors

A cursor is a place between two characters of a text. It is kept as a zipper: the characters
already read, the last one first, and the characters still unread. Two cursors into one text
are equal exactly when they are at the same place.

Beside the two lists a cursor carries its byte offset and the number of unread characters, so
that reporting a place and checking that a repetition made progress take constant time; proof
fields tie both numbers to the lists. `Cursor.between` builds the cursor for two given lists,
and every cursor is of that form (`Cursor.eq_between`), so laws are stated about `between`.

A cursor advances by bytes. A single character is read by its size. To read several, the bytes
that they take are added up first (`utf8Width?`), and then the cursor advances once, behind the
slice of so many bytes; `Cut` says that this slice ends between two characters.
-/

namespace TagMarkup

/-- The number of bytes that the characters take in UTF-8. -/
def utf8Length (cs : List Char) : Nat := cs.foldr (fun c n => c.utf8Size + n) 0

@[simp] theorem utf8Length_nil : utf8Length [] = 0 := rfl

@[simp] theorem utf8Length_cons (c : Char) (cs : List Char) :
    utf8Length (c :: cs) = c.utf8Size + utf8Length cs := rfl

@[simp] theorem utf8Length_append (cs ds : List Char) :
    utf8Length (cs ++ ds) = utf8Length cs + utf8Length ds := by
  induction cs with
  | nil => simp
  | cons c cs ih => rw [List.cons_append, utf8Length_cons, ih, utf8Length_cons, Nat.add_assoc]

@[simp] theorem utf8Length_reverse (cs : List Char) :
    utf8Length cs.reverse = utf8Length cs := by
  induction cs with
  | nil => rfl
  | cons c cs ih => simp [ih, Nat.add_comm]

/-! ## Slices -/

/-- How many bytes the next `n` characters of a text take, with `len` bytes in front of them;
nothing if there are fewer characters. -/
def utf8Width? (len : Nat) : Nat → List Char → Option Nat
  | 0, _ => some len
  | _ + 1, [] => none
  | n + 1, x :: text => utf8Width? (len + x.utf8Size) n text

theorem utf8Width?_eq (len n : Nat) (text : List Char) :
    utf8Width? len n text =
      if n ≤ text.length then some (len + utf8Length (text.take n)) else none := by
  induction n generalizing len text with
  | zero => simp [utf8Width?]
  | succ n ih =>
    cases text with
    | nil => simp [utf8Width?]
    | cons x text => simp [utf8Width?, ih, Nat.add_assoc]

theorem utf8Width?_eq_some_iff {n len : Nat} {text : List Char} :
    utf8Width? 0 n text = some len ↔ n ≤ text.length ∧ utf8Length (text.take n) = len := by
  rw [utf8Width?_eq, Option.ite_none_right_eq_some, Nat.zero_add, Option.some.injEq]

/-- The bytes of the first characters end between two characters. -/
theorem exists_append_of_utf8Width? {n len : Nat} {text : List Char}
    (h : utf8Width? 0 n text = some len) : ∃ w r, text = w ++ r ∧ len = utf8Length w := by
  obtain ⟨-, hlen⟩ := utf8Width?_eq_some_iff.1 h
  exact ⟨text.take n, text.drop n, (List.take_append_drop n text).symm, hlen.symm⟩

/-- A text that is cut in two behind so many bytes, between two of its characters. -/
structure Cut (text : List Char) (len : Nat) where
  slice : List Char
  rest : List Char
  text_eq : text = slice ++ rest
  len_eq : len = utf8Length slice

namespace Cut

/-- Cuts a text behind `len` bytes. What was cut off before stands in `front`, the last character
first. -/
def go (front : List Char) : Nat → List Char → List Char × List Char
  | 0, text => (front.reverse, text)
  | _ + 1, [] => (front.reverse, [])
  | len + 1, x :: text => go (x :: front) (len + 1 - x.utf8Size) text

theorem go_cons (front : List Char) {len : Nat} (h : 0 < len) (x : Char) (text : List Char) :
    go front len (x :: text) = go (x :: front) (len - x.utf8Size) text := by
  cases len with
  | zero => exact absurd h (Nat.lt_irrefl 0)
  | succ len => rfl

theorem go_append (front w r : List Char) :
    go front (utf8Length w) (w ++ r) = (front.reverse ++ w, r) := by
  induction w generalizing front with
  | nil => simp [go]
  | cons x w ih =>
    have hpos : 0 < utf8Length (x :: w) := Nat.add_pos_left x.utf8Size_pos _
    rw [List.cons_append, go_cons front hpos, utf8Length_cons, Nat.add_sub_cancel_left, ih]
    simp

/-- Cuts a text behind so many bytes, where one of its characters ends. -/
def behind {text : List Char} {len : Nat} (h : ∃ w r, text = w ++ r ∧ len = utf8Length w) :
    Cut text len where
  slice := (go [] len text).1
  rest := (go [] len text).2
  text_eq := by
    obtain ⟨w, r, rfl, rfl⟩ := h
    rw [go_append]
    rfl
  len_eq := by
    obtain ⟨w, r, rfl, rfl⟩ := h
    rw [go_append]
    rfl

/-- A text is cut in one way only. -/
theorem behind_eq {text w r : List Char} {len : Nat} (htext : text = w ++ r)
    (hlen : len = utf8Length w) : behind ⟨w, r, htext, hlen⟩ = ⟨w, r, htext, hlen⟩ := by
  subst htext hlen
  simp [behind, go_append]

end Cut

/-! ## Cursors -/

/-- A place in a text: what lies before it, the last character first, and what is unread. -/
structure Cursor where
  before : List Char
  unread : List Char
  /-- The number of bytes before the cursor. -/
  offset : Nat
  /-- The number of unread characters. -/
  remaining : Nat
  offset_eq : offset = utf8Length before
  remaining_eq : remaining = unread.length
deriving DecidableEq

/-- A read past the last character was attempted at a byte offset. -/
structure EndOfInput where
  offset : Nat
deriving DecidableEq

/-- The text of the error. -/
def EndOfInput.message (e : EndOfInput) : String :=
  "reached end of input at offset " ++ toString e.offset

namespace Cursor

/-- The cursor between the characters of `before`, the last one first, and those of `unread`. -/
def between (before unread : List Char) : Cursor :=
  ⟨before, unread, utf8Length before, unread.length, rfl, rfl⟩

/-- The cursor before the first character of a text. -/
def start (text : String) : Cursor := between [] text.toList

/-- The whole text that the cursor points into. -/
def source (c : Cursor) : List Char := c.before.reverse ++ c.unread

/-- The number of bytes of the whole text. -/
def sourceLength (c : Cursor) : Nat := c.offset + utf8Length c.unread

/-- The unread text. -/
def rest (c : Cursor) : String := String.ofList c.unread

/-- Whether nothing is left to read. -/
def atEnd (c : Cursor) : Bool := c.unread.isEmpty

/-- The cursor behind a slice of the unread text, which takes `len` bytes. -/
def advance (c : Cursor) (len : Nat) (cut : Cut c.unread len) : Cursor where
  before := cut.slice.reverse ++ c.before
  unread := cut.rest
  offset := c.offset + len
  remaining := c.remaining - cut.slice.length
  offset_eq := by
    rw [c.offset_eq, utf8Length_append, utf8Length_reverse, ← cut.len_eq, Nat.add_comm]
  remaining_eq := by
    have hlength := congrArg List.length cut.text_eq
    rw [c.remaining_eq, hlength, List.length_append, Nat.add_sub_cancel_left]

/-- The next character and the cursor behind it. -/
def next? (c : Cursor) : Option (Char × Cursor) :=
  match h : c.unread with
  | [] => none
  | x :: rest => some (x, c.advance x.utf8Size ⟨[x], rest, h, rfl⟩)

/-- The next character and the cursor behind it, or the error that nothing is left. -/
def readOne (c : Cursor) : Except EndOfInput (Char × Cursor) :=
  match c.next? with
  | some read => .ok read
  | none => .error ⟨c.offset⟩

/-- The next `n` characters and the cursor behind them; all of them are there or none is read.
The bytes that they take are added up, and the slice of so many bytes is cut off in one go. -/
def readMany (c : Cursor) (n : Nat) : Except EndOfInput (List Char × Cursor) :=
  match h : utf8Width? 0 n c.unread with
  | some len =>
    let cut := Cut.behind (exists_append_of_utf8Width? h)
    .ok (cut.slice, c.advance len cut)
  | none => .error ⟨c.offset⟩

/-- Line and column of the cursor: the line feeds behind it, and the characters since the last
of them. -/
def position (c : Cursor) : Position :=
  ⟨c.before.count '\n', (c.before.takeWhile (· != '\n')).length⟩

/-! ## Cursors as pairs of lists -/

@[simp] theorem before_between (b u : List Char) : (between b u).before = b := rfl
@[simp] theorem unread_between (b u : List Char) : (between b u).unread = u := rfl
@[simp] theorem offset_between (b u : List Char) : (between b u).offset = utf8Length b := rfl
@[simp] theorem remaining_between (b u : List Char) : (between b u).remaining = u.length := rfl

/-- Every cursor lies between two lists. -/
theorem eq_between (c : Cursor) : c = between c.before c.unread := by
  obtain ⟨b, u, o, r, rfl, rfl⟩ := c
  rfl

theorem ext_lists {c d : Cursor} (hb : c.before = d.before) (hu : c.unread = d.unread) :
    c = d := by
  rw [c.eq_between, d.eq_between, hb, hu]

@[simp] theorem next?_between_nil (b : List Char) : (between b []).next? = none := rfl

@[simp] theorem next?_between_cons (b : List Char) (x : Char) (u : List Char) :
    (between b (x :: u)).next? = some (x, between (x :: b) u) := by
  simp only [next?, between, Option.some.injEq, Prod.mk.injEq, true_and]
  exact ext_lists rfl rfl

/-- Reading `n` characters needs `n` unread ones and yields them. -/
theorem readMany_between (n : Nat) (b u : List Char) :
    (between b u).readMany n =
      if n ≤ u.length then .ok (u.take n, between ((u.take n).reverse ++ b) (u.drop n))
      else .error ⟨utf8Length b⟩ := by
  unfold readMany
  split
  · rename_i len h
    obtain ⟨hn, hlen⟩ := utf8Width?_eq_some_iff.1 h
    rw [unread_between] at hn hlen
    have hcut : Cut.behind (exists_append_of_utf8Width? h) = ⟨u.take n, u.drop n, _, _⟩ :=
      Cut.behind_eq (List.take_append_drop n u).symm hlen.symm
    rw [if_pos hn]
    simp only [hcut]
    exact congrArg (fun d => Except.ok (u.take n, d)) (ext_lists rfl rfl)
  · rename_i h
    rw [unread_between, utf8Width?_eq] at h
    rw [if_neg fun hn => by simp [hn] at h]
    rfl

@[simp] theorem source_between (b u : List Char) : (between b u).source = b.reverse ++ u := rfl

/-- The bytes of the text are those of its characters. -/
theorem sourceLength_eq (c : Cursor) : c.sourceLength = utf8Length c.source := by
  simp [sourceLength, source, c.offset_eq]

end Cursor

end TagMarkup

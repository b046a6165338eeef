import TagMarkup.Proofs.Repetition
import TagMarkup.Proofs.Rules

/-!
# What stands before a cursor

**Theorem (`Registry.run_ignoresPast`).** A parser does behind any text what it does at the start
of the unread text: it succeeds with the same value or fails for the same reason, and its cursor
is the same one with that text in front.

`c.behind u` is the cursor `c` when `u` stands in front of its text. All that a parser asks of a
cursor is what is unread: the next character, whether there is one, and how many there are. So
each step of a run commutes with `behind`, and so does reporting a failure at a cursor that was
kept. The number of unread characters decides whether a repetition goes on, and it is the same in
both runs, although the offsets differ.
-/

namespace TagMarkup

open Cursor Outcome

variable {ε α β : Type}

/-! ## Cursors and outcomes with a text in front -/

namespace Cursor

/-- The same place when the characters of `u` stand in front of the text. -/
def behind (u : List Char) (c : Cursor) : Cursor := between (c.before ++ u.reverse) c.unread

variable (u : List Char) (c : Cursor)

@[simp] theorem behind_between (b r : List Char) :
    (between b r).behind u = between (b ++ u.reverse) r := rfl

@[simp] theorem unread_behind : (c.behind u).unread = c.unread := rfl

@[simp] theorem remaining_behind : (c.behind u).remaining = c.remaining := c.remaining_eq.symm

@[simp] theorem atEnd_behind : (c.behind u).atEnd = c.atEnd := rfl

theorem offset_behind : (c.behind u).offset = utf8Length u + c.offset := by
  rw [behind, offset_between, utf8Length_append, utf8Length_reverse, c.offset_eq, Nat.add_comm]

theorem behind_behind (v : List Char) : (c.behind v).behind u = c.behind (u ++ v) := by
  simp [behind]

theorem next?_behind :
    (c.behind u).next? = c.next?.map fun read => (read.1, read.2.behind u) := by
  rw [c.eq_between]
  cases c.unread with
  | nil => rfl
  | cons x r => simp

end Cursor

namespace Outcome

/-- The outcome with its cursor behind the characters of `u`. -/
def behind (u : List Char) : Outcome ε α → Outcome ε α
  | success a d => success a (d.behind u)
  | failure f => failure ⟨f.reason, f.cursor.behind u⟩
  | broken cause => broken cause

/-- The same outcome, with the offset of its cursor larger by `n`. -/
inductive Moved (n : Nat) : Outcome ε α → Outcome ε α → Prop
  | success {a : α} {c d : Cursor} : d.offset = n + c.offset → Moved n (success a c) (success a d)
  | failure {reason : Reason} {c d : Cursor} : d.offset = n + c.offset →
      Moved n (failure ⟨reason, c⟩) (failure ⟨reason, d⟩)
  | broken {cause : ε} : Moved n (broken cause) (broken cause)

variable (u : List Char)

theorem moved_behind (o : Outcome ε α) : Moved (utf8Length u) o (o.behind u) := by
  cases o with
  | success a d => exact .success (d.offset_behind u)
  | failure f => exact .failure (f.cursor.offset_behind u)
  | broken cause => exact .broken

theorem behind_behind (v : List Char) (o : Outcome ε α) :
    (o.behind v).behind u = o.behind (u ++ v) := by
  cases o <;> simp [behind, Cursor.behind_behind]

@[simp] theorem behind_map (o : Outcome ε α) (f : α → β) :
    (o.map f).behind u = (o.behind u).map f := by
  cases o <;> rfl

@[simp] theorem behind_relocate (o : Outcome ε α) (c : Cursor) :
    (o.relocate c).behind u = (o.behind u).relocate (c.behind u) := by
  cases o <;> rfl

theorem behind_andThen {o : Outcome ε α} {f g : α → Cursor → Outcome ε β}
    (h : ∀ a d, (f a d).behind u = g a (d.behind u)) :
    (o.andThen f).behind u = (o.behind u).andThen g := by
  cases o with
  | success a d => exact h a d
  | failure f => rfl
  | broken cause => rfl

end Outcome

/-- For all texts `u` and `w`, an attempt at the end of `u` in `u ++ w` has the outcome that it has
at the start of `w`, with the offset larger by the size of `u`. -/
def IgnoresPast (attempt : Cursor → Outcome ε α) : Prop :=
  ∀ u w : String,
    attempt (between u.toList.reverse w.toList) = (attempt (start w)).behind u.toList ∧
      Moved u.utf8ByteSize (attempt (start w)) (attempt (between u.toList.reverse w.toList))

/-- Putting a text in front commutes with the attempt, wherever it is made. -/
def Translates (attempt : Cursor → Outcome ε α) : Prop :=
  ∀ u c, attempt (c.behind u) = (attempt c).behind u

theorem ignoresPast_iff_translates {attempt : Cursor → Outcome ε α} :
    IgnoresPast attempt ↔ Translates attempt := by
  refine ⟨fun h u c => ?_, fun h u w => ?_⟩
  · -- both runs are compared with the one at the start of what is unread
    have hs : ∀ b r, attempt (between b r) = (attempt (between [] r)).behind b.reverse := by
      intro b r
      simpa [start] using (h (.ofList b.reverse) (.ofList r)).1
    obtain ⟨b, r, rfl⟩ : ∃ b r, c = between b r := ⟨_, _, c.eq_between⟩
    rw [behind_between, hs, hs b, Outcome.behind_behind, List.reverse_append,
      List.reverse_reverse]
  · have ho : attempt (between u.toList.reverse w.toList) =
        (attempt (start w)).behind u.toList := h u.toList (start w)
    refine ⟨ho, ?_⟩
    rw [ho, ← utf8Length_toList]
    exact moved_behind u.toList _

/-! ## Primitives and repetitions -/

theorem translates_ofChar (refuse : Char → Option Reason) :
    Translates (ofChar refuse : Cursor → Outcome ε Char) := by
  intro u c
  simp only [ofChar, next?_behind]
  cases c.next? with
  | none => rfl
  | some read =>
    simp only [Option.map_some]
    cases refuse read.1 <;> rfl

theorem ignoresPast_take {κ : Type} {ν : κ → Type}
    (enter : (k : κ) → Cursor → Outcome ε (ν k)) (count : Nat) :
    IgnoresPast ((Parser.take count).run enter) := by
  refine ignoresPast_iff_translates.2 fun u c => ?_
  obtain ⟨b, r, rfl⟩ : ∃ b r, c = between b r := ⟨_, _, c.eq_between⟩
  simp only [Parser.take, Parser.run, behind_between, readMany_between]
  by_cases h : count ≤ r.length
  · simp [h, Outcome.behind, List.append_assoc]
  · simp [h, Outcome.behind]

namespace Translates

variable {attempt : Cursor → Outcome ε α}

theorem collect (h : Translates attempt) : Translates (collect attempt []) := by
  intro u c
  refine collect_induction (P := fun c o => Outcome.collect attempt [] (c.behind u) = o.behind u)
    ?failed ?brokenOff ?still ?goesOn c
  case failed =>
    intro c f ho
    exact collect_of_failure (by rw [h, ho]; rfl)
  case brokenOff =>
    intro c cause ho
    exact collect_of_broken (by rw [h, ho]; rfl)
  case still =>
    intro c a d ho hlt
    exact collect_of_still (d := d.behind u) (by rw [h, ho]; rfl) (by simpa using hlt)
  case goesOn =>
    intro c a d ho hlt ih
    rw [collect_of_success (d := d.behind u) (by rw [h, ho]; rfl) (by simpa using hlt), ih,
      behind_map]

theorem collectOne (h : Translates attempt) : Translates (collectOne attempt) := by
  intro u c
  rw [collectOne_eq, collectOne_eq, h, h.collect]
  cases attempt c <;> rfl

theorem collectExactly (h : Translates attempt) (n : Nat) :
    Translates (collectExactly attempt [] n) := by
  intro u c
  induction n generalizing c with
  | zero => rfl
  | succ n ih =>
    rw [collectExactly_succ, collectExactly_succ, h]
    exact (behind_andThen u fun a d => by rw [behind_map, ih]).symm

end Translates

/-! ## All parsers -/

/-- A parser translates if the functions and the cells inside of it do. -/
theorem Parser.translates_run {κ : Type} {ν : κ → Type}
    {enter : (k : κ) → Cursor → Outcome ε (ν k)} (henter : ∀ k, Translates (enter k))
    {p : Parser ε ν α} (hp : p.Leaves fun _ => IgnoresPast) : Translates (p.run enter) := by
  induction p with
  | any => exact translates_ofChar _
  | literal => exact translates_ofChar _
  | satisfy => exact translates_ofChar _
  | noneOf => exact translates_ofChar _
  | ofFn f => exact ignoresPast_iff_translates.1 hp
  | cell k => exact henter k
  | sequence p q f ihp ihq =>
    intro u c
    simp only [Parser.run, ihp hp.1 u c]
    exact (behind_andThen u fun a d => by rw [behind_map, ihq hp.2]).symm
  | sequenceIf p q f fit ihp ihq =>
    intro u c
    simp only [Parser.run, ihp hp.1 u c]
    refine (behind_andThen u fun a d => ?_).symm
    rw [ihq hp.2]
    refine behind_andThen u fun b e => ?_
    split <;> rfl
  | orElse p q ihp ihq =>
    intro u c
    simp only [Parser.run, ihp hp.1 u c, ihq hp.2 u c]
    cases p.run enter c <;> rfl
  | many p ih => exact (ih hp).collect
  | oneOrMore p ih => exact (ih hp).collectOne
  | exactly p count cause ih =>
    intro u c
    simp only [Parser.run]
    split
    · rw [(ih hp).collectExactly, behind_relocate]
    · rfl
  | map p f ih =>
    intro u c
    simp only [Parser.run, ih hp u c, behind_map]
  | validate p valid ih =>
    intro u c
    simp only [Parser.run, ih hp u c]
    refine (behind_andThen u fun a d => ?_).symm
    split <;> rfl
  | toEnd p ih =>
    intro u c
    simp only [Parser.run, ih hp u c]
    refine (behind_andThen u fun a d => ?_).symm
    rw [atEnd_behind]
    split <;> rfl
  | shared p ih => exact ih hp

theorem Registry.translates_enter {ν : Type} {r : Registry ν}
    (hr : ∀ slot ∈ r.slots, slot.2.parser.Leaves fun _ => IgnoresPast) (entries : Nat)
    (scope : List (String × CellId)) (handle : String) :
    Translates (r.enter entries scope handle) := by
  refine r.enter_induction (P := Translates) ?brokenOff ?runs entries scope handle
  case brokenOff => exact fun fault u c => rfl
  case runs => exact fun slot hslot enter h => Parser.translates_run h (hr slot hslot)

/-! ## The rules of the grammar -/

namespace Grammar

/-- What is inside a tag is read the same behind every text. The induction is on what is unread,
which is the same with and without that text. -/
theorem translates_content : Translates content := by
  intro u c
  induction h : c.remaining using Nat.strongRecOn generalizing u c with
  | _ n ih =>
    rw [content, content, remaining_behind]
    refine Parser.translates_run (fun _ v d => ?_) (leaves_of_isRule .innerContent _) u c
    rw [remaining_behind]
    split
    · rename_i hlt
      exact ih _ (h ▸ hlt) v d rfl
    · rfl

theorem translates_apply {rule : Rule α} (h : IsRule rule) : Translates (apply rule) :=
  Parser.translates_run (fun _ => translates_content) (leaves_of_isRule h _)

end Grammar

/-- **What stands before a cursor makes no difference.** Let the functions inside of a parser and of
the parsers that a registry holds ignore what stands before the cursor. Then the parser ignores
it, and so does every rule of the grammar. -/
theorem Registry.run_ignoresPast {ν : Type} (r : Registry ν)
    (hr : ∀ slot ∈ r.slots, slot.2.parser.Leaves fun _ => IgnoresPast)
    (p : Parser Fault (Uniform ν) α) (hp : p.Leaves fun _ => IgnoresPast)
    (entries : Nat) (scope : List (String × CellId)) :
    IgnoresPast (p.run (r.enter entries scope)) ∧
      ∀ {β : Type} {rule : Grammar.Rule β}, Grammar.IsRule rule →
        IgnoresPast (Grammar.apply rule) := by
  refine ⟨?_, fun h => ignoresPast_iff_translates.2 (Grammar.translates_apply h)⟩
  rw [ignoresPast_iff_translates]
  exact Parser.translates_run (r.translates_enter hr entries scope) hp

/-- A bracket that is never closed, behind a text of two lines, and a tag behind the same text. -/
theorem Registry.run_ignoresPast_unclosed :
    Parser.nested.run (nested.enter 3 [("nested", 0)])
        (between "é\n".toList.reverse "((é)".toList) =
          failure ⟨.endOfInput, between "é\n((é)".toList.reverse []⟩ ∧
      Grammar.apply Grammar.tag (between "é\n".toList.reverse "<a></a>b".toList) =
        success (.tag "a" .empty []) (between "é\n<a></a>".toList.reverse ['b']) := by
  have hp : Parser.nested.Leaves fun _ => IgnoresPast :=
    ⟨⟨trivial, trivial, ignoresPast_take (nested.enter 0 []) 1⟩, trivial⟩
  obtain ⟨hrun, hrule⟩ :=
    nested.run_ignoresPast (leaves_nested hp) .nested hp 3 [("nested", 0)]
  refine ⟨(hrun "é\n" "((é)").1.trans ?_, (hrule .tag "é\n" "<a></a>b").1.trans ?_⟩
  · decide +kernel
  · decide +kernel

end TagMarkup

import Mathlib.Tactic.Common
import TagMarkup.Proofs.Cells
import TagMarkup.Proofs.Places
import TagMarkup.Proofs.Repetition

/-!
# Evaluations

`Parser.run` always has an outcome: a repetition goes on only where fewer characters are left, and
cells are entered inside each other only so often. An evaluation has no such limits. A repetition
goes on until an attempt fails or stays where it was, and a cell is entered wherever it is met. So
there is an evaluation only where all of this comes to an end, and `Registry.Evaluates` says which
evaluations there are, each with its outcome and with what happens on the way.

**Theorem (`Registry.Evaluates.advances`).** Let repeated parts always read something, and let the
parsers behind cells enter no cell before they have read something. Then every cell that is entered
inside of another entry is entered further on than that one, and every attempt of a repetition that
succeeds ends further on than it started.

The induction follows the evaluation. Before it, the same induction shows how far an evaluation
gets (`Registry.Evaluates.reaches`).
-/

namespace TagMarkup

open Outcome

variable {ε α β γ : Type}

/-! ## Outcomes on the way -/

/-- What might go on forever when a parser is evaluated. -/
inductive Event where
  /-- A cell was entered at a place, inside of an entry at an outer place. -/
  | entered (outer place : Cursor)
  /-- An attempt of a repetition succeeded. -/
  | repeated (start stop : Cursor)

/-- The event ends strictly further on than where it started. -/
def Event.Advances : Event → Prop
  | entered outer place => outer.offset < place.offset
  | repeated start stop => start.offset < stop.offset

namespace Outcome

/-- The events behind a success; behind anything else there are none. -/
def eventsBehind (o : Outcome ε α) (events : α → Cursor → List Event) : List Event :=
  match o with
  | success a d => events a d
  | _ => []

/-- What a repetition comes to if an attempt at `c` comes to `o` and `rest` is what follows: an
attempt that fails or stays where it was is the last one. -/
def repeats (c : Cursor) (o : Outcome ε α) (rest : α → Cursor → Outcome ε (List α)) :
    Outcome ε (List α) :=
  match o with
  | success a d => if d.offset = c.offset then success [a] d else (rest a d).map (a :: ·)
  | failure _ => success [] c
  | broken cause => broken cause

/-- The events of a repetition from an attempt at `c` on that comes to `o`. -/
def eventsRepeating (c : Cursor) (o : Outcome ε α) (events : α → Cursor → List Event) :
    List Event :=
  o.eventsBehind fun a d => .repeated c d :: if d.offset = c.offset then [] else events a d

end Outcome

/-! ## Evaluations -/

/-- An entry of a cell: the place, and the cells that the handles inside of it stand for. -/
structure Entry where
  place : Cursor
  scope : List (String × CellId)

namespace Registry

variable {ν : Type}

/-- Inside of the entry `i`, the parser `p` is evaluated at `c` to the outcome `o`, and `t` is what
happens on the way. -/
inductive Evaluates (r : Registry ν) : {α : Type} → (i : Entry) →
    (p : Parser Fault (Uniform ν) α) → (c : Cursor) → (t : List Event) →
    (o : Outcome Fault α) → Prop
  | any {i : Entry} {c : Cursor} : r.Evaluates i .any c [] (ofChar (fun _ => none) c)
  | literal {i : Entry} {c : Cursor} {expected : Char} : r.Evaluates i (.literal expected) c []
      (ofChar (fun x => if x = expected then none else some (.mismatch x expected)) c)
  | satisfy {i : Entry} {c : Cursor} {test : Char → Bool} {label : String} :
      r.Evaluates i (.satisfy test label) c []
        (ofChar (fun x => if test x then none else some (.unsatisfied x label)) c)
  | noneOf {i : Entry} {c : Cursor} {excluded : List Char} :
      r.Evaluates i (.noneOf excluded) c []
        (ofChar (fun x => if x ∈ excluded then some (.excluded x) else none) c)
  | ofFn {α : Type} {i : Entry} {c : Cursor} {f : Cursor → Outcome Fault α} :
      r.Evaluates i (.ofFn f) c [] (f c)
  /-- Entering a cell is evaluating the parser behind it. -/
  | cell {i : Entry} {c : Cursor} {k : String} {held : Held ν} {t : List Event}
      {o : Outcome Fault ν} : r.resolve i.scope k = .ok held →
      r.Evaluates ⟨c, held.scope⟩ held.parser c t o →
      r.Evaluates i (.cell k) c (.entered i.place c :: t) o
  | cellRefused {i : Entry} {c : Cursor} {k : String} {fault : Fault} :
      r.resolve i.scope k = .error fault → r.Evaluates i (.cell k) c [] (broken fault)
  | sequence {α β γ : Type} {i : Entry} {c : Cursor} {p : Parser Fault (Uniform ν) α}
      {q : Parser Fault (Uniform ν) β} {f : α → β → γ} {t : List Event} {o : Outcome Fault α}
      {t' : α → Cursor → List Event} {o' : α → Cursor → Outcome Fault β} :
      r.Evaluates i p c t o → (∀ a d, o = success a d → r.Evaluates i q d (t' a d) (o' a d)) →
      r.Evaluates i (.sequence p q f) c (t ++ o.eventsBehind t')
        (o.andThen fun a d => (o' a d).map (f a))
  | sequenceIf {α β γ : Type} {i : Entry} {c : Cursor} {p : Parser Fault (Uniform ν) α}
      {q : Parser Fault (Uniform ν) β} {f : α → β → γ} {fit : α → β → Bool} {t : List Event}
      {o : Outcome Fault α} {t' : α → Cursor → List Event} {o' : α → Cursor → Outcome Fault β} :
      r.Evaluates i p c t o → (∀ a d, o = success a d → r.Evaluates i q d (t' a d) (o' a d)) →
      r.Evaluates i (.sequenceIf p q f fit) c (t ++ o.eventsBehind t')
        (o.andThen fun a d => (o' a d).andThen fun b e =>
          if fit a b then success (f a b) e else failure ⟨.validationFailed, c⟩)
  | orElse {α : Type} {i : Entry} {c : Cursor} {p q : Parser Fault (Uniform ν) α}
      {t : List Event} {o : Outcome Fault α} : r.Evaluates i p c t o → o.isFailure = false →
      r.Evaluates i (.orElse p q) c t o
  | orElseFailed {α : Type} {i : Entry} {c : Cursor} {p q : Parser Fault (Uniform ν) α}
      {t t' : List Event} {f : Failure} {o : Outcome Fault α} :
      r.Evaluates i p c t (failure f) → r.Evaluates i q c t' o →
      r.Evaluates i (.orElse p q) c (t ++ t') o
  /-- A repetition is evaluated again behind an attempt that read something. -/
  | many {α : Type} {i : Entry} {c : Cursor} {p : Parser Fault (Uniform ν) α} {t : List Event}
      {o : Outcome Fault α} {t' : α → Cursor → List Event}
      {rest : α → Cursor → Outcome Fault (List α)} : r.Evaluates i p c t o →
      (∀ a d, o = success a d → d.offset ≠ c.offset →
        r.Evaluates i (.many p) d (t' a d) (rest a d)) →
      r.Evaluates i (.many p) c (t ++ o.eventsRepeating c t') (o.repeats c rest)
  | oneOrMore {α : Type} {i : Entry} {c : Cursor} {p : Parser Fault (Uniform ν) α}
      {t : List Event} {o : Outcome Fault α} {t' : α → Cursor → List Event}
      {rest : α → Cursor → Outcome Fault (List α)} : r.Evaluates i p c t o →
      o.isFailure = false →
      (∀ a d, o = success a d → d.offset ≠ c.offset →
        r.Evaluates i (.many p) d (t' a d) (rest a d)) →
      r.Evaluates i (.oneOrMore p) c (t ++ o.eventsRepeating c t') (o.repeats c rest)
  | oneOrMoreFailed {α : Type} {i : Entry} {c : Cursor} {p : Parser Fault (Uniform ν) α}
      {t : List Event} {f : Failure} : r.Evaluates i p c t (failure f) →
      r.Evaluates i (.oneOrMore p) c t (failure (f.relocate c))
  | exactly {α : Type} [Sized α] {i : Entry} {c : Cursor} {p : Parser Fault (Uniform ν) α}
      {n : Nat} {cause : Fault} {t : List Event} {o : Outcome Fault α}
      {t' : α → Cursor → List Event} {rest : α → Cursor → Outcome Fault (List α)} :
      Room.holds α (n + 1) = true → r.Evaluates i p c t o →
      (∀ a d, o = success a d → r.Evaluates i (.exactly p n cause) d (t' a d) (rest a d)) →
      r.Evaluates i (.exactly p (n + 1) cause) c (t ++ o.eventsBehind t')
        ((o.andThen fun a d => (rest a d).map (a :: ·)).relocate c)
  | exactlyNone {α : Type} [Sized α] {i : Entry} {c : Cursor} {p : Parser Fault (Uniform ν) α}
      {cause : Fault} : r.Evaluates i (.exactly p 0 cause) c [] (success [] c)
  | exactlyRefused {α : Type} [Sized α] {i : Entry} {c : Cursor} {p : Parser Fault (Uniform ν) α}
      {n : Nat} {cause : Fault} : Room.holds α n = false →
      r.Evaluates i (.exactly p n cause) c [] (broken cause)
  | map {α β : Type} {i : Entry} {c : Cursor} {p : Parser Fault (Uniform ν) α} {f : α → β}
      {t : List Event} {o : Outcome Fault α} : r.Evaluates i p c t o →
      r.Evaluates i (.map p f) c t (o.map f)
  | validate {α : Type} {i : Entry} {c : Cursor} {p : Parser Fault (Uniform ν) α}
      {valid : α → Bool} {t : List Event} {o : Outcome Fault α} : r.Evaluates i p c t o →
      r.Evaluates i (.validate p valid) c t
        (o.andThen fun a d => if valid a then success a d else failure ⟨.validationFailed, c⟩)
  | toEnd {α : Type} {i : Entry} {c : Cursor} {p : Parser Fault (Uniform ν) α} {t : List Event}
      {o : Outcome Fault α} : r.Evaluates i p c t o →
      r.Evaluates i (.toEnd p) c t
        (o.andThen fun a d => if d.atEnd then success a d else failure ⟨.trailingInput, d⟩)
  | shared {α : Type} {i : Entry} {c : Cursor} {p : Parser Fault (Uniform ν) α} {t : List Event}
      {o : Outcome Fault α} : r.Evaluates i p c t o → r.Evaluates i (.shared p) c t o

end Registry

/-! ## How far an outcome gets -/

namespace Outcome

/-- A success lies no further back than `c`, and further on if `strict` is set. -/
def Reaches (strict : Bool) (c : Cursor) (o : Outcome ε α) : Prop :=
  ∀ a d, o = success a d → c.Onward d ∧ (strict = true → c.offset < d.offset)

section Reaches

variable {s s' : Bool} {c d : Cursor} {o : Outcome ε α}

theorem reaches_success {a : α} :
    (success a d : Outcome ε α).Reaches s c ↔ c.Onward d ∧ (s = true → c.offset < d.offset) := by
  simp [Reaches]

@[simp] theorem reaches_failure {f : Failure} : (failure f : Outcome ε α).Reaches s c := by
  simp [Reaches]

@[simp] theorem reaches_broken {cause : ε} : (broken cause : Outcome ε α).Reaches s c := by
  simp [Reaches]

theorem reaches_here {a : α} : (success a c : Outcome ε α).Reaches false c :=
  reaches_success.2 ⟨.refl c, by simp⟩

@[simp] theorem reaches_map {f : α → β} : (o.map f).Reaches s c ↔ o.Reaches s c := by
  cases o <;> simp [Reaches, Outcome.map]

@[simp] theorem reaches_relocate : (o.relocate d).Reaches s c ↔ o.Reaches s c := by
  cases o <;> simp [Reaches, Outcome.relocate]

theorem reaches_ofChar (refuse : Char → Option Reason) :
    (ofChar refuse c : Outcome ε Char).Reaches true c := by
  unfold ofChar
  cases hn : c.next? with
  | none => exact reaches_failure
  | some read =>
    obtain ⟨x, d⟩ := read
    dsimp only
    cases refuse x with
    | some reason => exact reaches_failure
    | none =>
      have hlead := Cursor.leads_of_next? hn
      have hpos := x.utf8Size_pos
      refine reaches_success.2 ⟨hlead.onward, fun _ => ?_⟩
      rw [hlead.offset_eq]
      simpa using hpos

namespace Reaches

theorem weaken (h : o.Reaches s c) (hs : s' = true → s = true) : o.Reaches s' c :=
  fun a d ho => ⟨(h a d ho).1, fun h' => (h a d ho).2 (hs h')⟩

theorem andThen {f : α → Cursor → Outcome ε β} (h : o.Reaches s c)
    (hf : ∀ a d, o = success a d → (f a d).Reaches s' d) : (o.andThen f).Reaches (s || s') c := by
  cases o with
  | failure e => exact reaches_failure
  | broken cause => exact reaches_broken
  | success a d =>
    obtain ⟨hcd, hlt⟩ := h a d rfl
    intro b e he
    obtain ⟨hde, hlt'⟩ := hf a d rfl b e he
    refine ⟨hcd.trans hde, fun hs => ?_⟩
    rcases Bool.or_eq_true_iff.1 hs with hs | hs
    · exact Nat.lt_of_lt_of_le (hlt hs) hde.2
    · exact Nat.lt_of_le_of_lt hcd.2 (hlt' hs)

/-- A value that may be rejected lies where it was. -/
theorem accept (h : o.Reaches s c) {accepts : α → Cursor → Bool} {f : α → β}
    {reject : α → Cursor → Failure} : (o.andThen fun a d =>
      if accepts a d = true then success (f a) d else failure (reject a d)).Reaches s c := by
  have hf (a : α) (d : Cursor) : (if accepts a d = true then success (f a) d
      else failure (reject a d) : Outcome ε β).Reaches false d := by
    split
    · exact reaches_here
    · exact reaches_failure
  exact (h.andThen fun a d _ => hf a d).weaken (by simp)

theorem repeats {rest : α → Cursor → Outcome ε (List α)} (h : o.Reaches s c)
    (hrest : ∀ a d, o = success a d → d.offset ≠ c.offset → (rest a d).Reaches false d)
    (hs : s' = true → s = true ∧ o.isFailure = false) : (o.repeats c rest).Reaches s' c := by
  cases o with
  | failure e => exact reaches_success.2 ⟨.refl c, fun h' => by simpa [isFailure] using hs h'⟩
  | broken cause => exact reaches_broken
  | success a d =>
    simp only [Outcome.repeats]
    obtain ⟨hcd, hlt⟩ := h a d rfl
    split_ifs with ho
    · exact reaches_success.2 ⟨hcd, fun h' => hlt (hs h').1⟩
    · refine reaches_map.2 fun as e he => ?_
      have hde := (hrest a d rfl ho as e he).1
      exact ⟨hcd.trans hde, fun h' => Nat.lt_of_lt_of_le (hlt (hs h').1) hde.2⟩

end Reaches

end Reaches

end Outcome

/-! ## What can be said of a parser without applying it -/

namespace Parser

variable {κ : Type} {ν : κ → Type}

/-- The parser reads something whenever it succeeds, by the look of it. -/
def consumes : {α : Type} → Parser ε ν α → Bool
  | _, any | _, literal _ | _, satisfy .. | _, noneOf _ => true
  | _, ofFn _ | _, cell _ | _, many _ => false
  | _, sequence p q _ | _, sequenceIf p q _ _ => p.consumes || q.consumes
  | _, orElse p q => p.consumes && q.consumes
  | _, exactly p count _ => p.consumes && count != 0
  | _, oneOrMore p | _, map p _ | _, validate p _ | _, toEnd p | _, shared p => p.consumes

/-- The parser may enter a cell before anything is read. -/
def entersAtOnce : {α : Type} → Parser ε ν α → Bool
  | _, any | _, literal _ | _, satisfy .. | _, noneOf _ | _, ofFn _ => false
  | _, cell _ => true
  | _, sequence p q _ | _, sequenceIf p q _ _ => p.entersAtOnce || (!p.consumes && q.entersAtOnce)
  | _, orElse p q => p.entersAtOnce || q.entersAtOnce
  | _, many p | _, oneOrMore p | _, exactly p _ _ | _, map p _ | _, validate p _ | _, toEnd p
  | _, shared p => p.entersAtOnce

/-- Every part that is repeated as often as it succeeds reads something. The functions inside the
parser do not move back, and its cells are among the given ones. -/
def Steady (K : κ → Prop) : {α : Type} → Parser ε ν α → Prop
  | _, any | _, literal _ | _, satisfy .. | _, noneOf _ => True
  | _, ofFn f => ∀ c, (f c).Reaches false c
  | _, cell k => K k
  | _, many p | _, oneOrMore p => p.consumes = true ∧ p.Steady K
  | _, sequence p q _ | _, sequenceIf p q _ _ | _, orElse p q => p.Steady K ∧ q.Steady K
  | _, exactly p _ _ | _, map p _ | _, validate p _ | _, toEnd p | _, shared p => p.Steady K

end Parser

namespace Registry

variable {ν : Type} {r : Registry ν} {K : List (String × CellId) → String → Prop}

/-- The parsers behind the given cells are steady, enter only such cells, and none at once. -/
structure Guards (r : Registry ν) (K : List (String × CellId) → String → Prop) : Prop where
  steady {scope : List (String × CellId)} {k : String} {held : Held ν} :
    K scope k → r.resolve scope k = .ok held → held.parser.Steady (K held.scope)
  behind {scope : List (String × CellId)} {k : String} {held : Held ν} :
    K scope k → r.resolve scope k = .ok held → held.parser.entersAtOnce = false

/-- **How far an evaluation gets.** It does not end further back than it started, and further on if
the parser consumes. -/
theorem Evaluates.reaches (hr : r.Guards K) {i : Entry} {p : Parser Fault (Uniform ν) α}
    {c : Cursor} {t : List Event} {o : Outcome Fault α} (h : r.Evaluates i p c t o)
    (hp : p.Steady (K i.scope)) : o.Reaches p.consumes c := by
  induction h with
  | any | literal | satisfy | noneOf => exact reaches_ofChar _
  | ofFn => exact hp _
  | cell hk _ ih => exact (ih (hr.steady hp hk)).weaken (by simp [Parser.consumes])
  | cellRefused => exact reaches_broken
  | sequence _ _ ihp ihq =>
    exact (ihp hp.1).andThen fun a d ho => reaches_map.2 (ihq a d ho hp.2)
  | sequenceIf _ _ ihp ihq => exact (ihp hp.1).andThen fun a d ho => (ihq a d ho hp.2).accept
  | orElse _ _ ih => exact (ih hp.1).weaken (by simp [Parser.consumes]; tauto)
  | orElseFailed _ _ _ ih => exact (ih hp.2).weaken (by simp [Parser.consumes])
  | many _ _ ih ihrest =>
    exact (ih hp.2).repeats (fun a d ho hne => ihrest a d ho hne hp) (by simp [Parser.consumes])
  | oneOrMore _ hf _ ih ihrest =>
    exact (ih hp.2).repeats (fun a d ho hne => ihrest a d ho hne hp) fun h => ⟨h, hf⟩
  | oneOrMoreFailed => exact reaches_failure
  | exactly _ _ _ ih ihrest =>
    refine reaches_relocate.2 (((ih hp).andThen fun a d ho =>
      reaches_map.2 (ihrest a d ho hp)).weaken ?_)
    simp +contextual [Parser.consumes]
  | exactlyNone => exact reaches_here.weaken (by simp [Parser.consumes])
  | exactlyRefused => exact reaches_broken
  | map _ ih => exact reaches_map.2 (ih hp)
  | validate _ ih | toEnd _ ih => exact (ih hp).accept (f := fun a => a)
  | shared _ ih => exact ih hp

end Registry

/-! ## Where a parser may be evaluated -/

namespace Entry

/-- What may enter a cell at once is evaluated further on than the entry that it belongs to. -/
def Admits (i : Entry) (atOnce : Bool) (c : Cursor) : Prop :=
  i.place.Onward c ∧ (atOnce = true → i.place.offset < c.offset)

namespace Admits

variable {i : Entry} {a b s : Bool} {c d : Cursor}

theorem left (h : i.Admits (a || b) c) : i.Admits a c := ⟨h.1, fun ha => h.2 (by simp [ha])⟩

theorem right (h : i.Admits (a || b) c) : i.Admits b c := ⟨h.1, fun hb => h.2 (by simp [hb])⟩

theorem on (h : i.Admits a c) (hcd : c.Onward d) : i.Admits a d :=
  ⟨h.1.trans hcd, fun ha => Nat.lt_of_lt_of_le (h.2 ha) hcd.2⟩

/-- The second part of a sequence may enter a cell at once if the first part reads something. -/
theorem behind (h : i.Admits (a || (!s && b)) c) {o : Outcome ε α} {x : α} (ho : o.Reaches s c)
    (hx : o = success x d) : i.Admits b d := by
  obtain ⟨hcd, hlt⟩ := ho x d hx
  refine ⟨h.1.trans hcd, fun hb => ?_⟩
  cases s with
  | true => exact Nat.lt_of_le_of_lt h.1.2 (hlt rfl)
  | false => exact Nat.lt_of_lt_of_le (h.2 (by simp [hb])) hcd.2

end Admits

end Entry

/-! ## What happens on the way -/

theorem Outcome.advances_eventsBehind {o : Outcome ε α} {t : α → Cursor → List Event}
    (h : ∀ a d, o = success a d → ∀ e ∈ t a d, e.Advances) :
    ∀ e ∈ o.eventsBehind t, e.Advances := by
  cases o with
  | success a d => exact h a d rfl
  | failure f => simp [eventsBehind]
  | broken cause => simp [eventsBehind]

theorem Outcome.advances_eventsRepeating {o : Outcome ε α} {c : Cursor}
    {t : α → Cursor → List Event} (ho : o.Reaches true c)
    (h : ∀ a d, o = success a d → d.offset ≠ c.offset → ∀ e ∈ t a d, e.Advances) :
    ∀ e ∈ o.eventsRepeating c t, e.Advances := by
  refine advances_eventsBehind fun a d hd e he => ?_
  have hlt : c.offset < d.offset := (ho a d hd).2 rfl
  rw [if_neg (Nat.ne_of_gt hlt)] at he
  rcases List.mem_cons.1 he with rfl | he
  · exact hlt
  · exact h a d hd (Nat.ne_of_gt hlt) e he

namespace Registry

variable {ν : Type} {r : Registry ν} {K : List (String × CellId) → String → Prop}

/-- **An evaluation advances.** Let the parsers behind the given cells be steady and enter no cell
at once. Then every cell that is entered inside of another entry is entered further on, and every
attempt of a repetition that succeeds reads something. -/
theorem Evaluates.advances (hr : r.Guards K) {i : Entry} {p : Parser Fault (Uniform ν) α}
    {c : Cursor} {t : List Event} {o : Outcome Fault α} (h : r.Evaluates i p c t o)
    (hp : p.Steady (K i.scope)) (hc : i.Admits p.entersAtOnce c) : ∀ e ∈ t, e.Advances := by
  induction h with
  | any | literal | satisfy | noneOf | ofFn | cellRefused | exactlyNone | exactlyRefused =>
    exact fun e he => absurd he List.not_mem_nil
  | cell hk _ ih =>
    have hplace := ih (hr.steady hp hk) ⟨.refl _, by simp [hr.behind hp hk]⟩
    exact List.forall_mem_cons.2 ⟨hc.2 rfl, hplace⟩
  | sequence h _ ihp ihq | sequenceIf h _ ihp ihq =>
    refine List.forall_mem_append.2 ⟨ihp hp.1 hc.left, advances_eventsBehind fun a d ho => ?_⟩
    exact ihq a d ho hp.2 (hc.behind (h.reaches hr hp.1) ho)
  | orElse _ _ ih => exact ih hp.1 hc.left
  | orElseFailed _ _ ihp ihq =>
    exact List.forall_mem_append.2 ⟨ihp hp.1 hc.left, ihq hp.2 hc.right⟩
  | many h _ ih ihrest | oneOrMore h _ _ ih ihrest =>
    have hreach := h.reaches hr hp.2
    refine List.forall_mem_append.2 ⟨ih hp.2 hc, ?_⟩
    refine advances_eventsRepeating (hp.1 ▸ hreach) fun a d ho hne => ?_
    exact ihrest a d ho hne hp (hc.on (hreach a d ho).1)
  | oneOrMoreFailed _ ih => exact ih hp.2 hc
  | exactly _ h _ ih ihrest =>
    refine List.forall_mem_append.2 ⟨ih hp hc, advances_eventsBehind fun a d ho => ?_⟩
    exact ihrest a d ho hp (hc.on (h.reaches hr hp a d ho).1)
  | map _ ih | validate _ ih | toEnd _ ih | shared _ ih => exact ih hp hc

end Registry

end TagMarkup

import TagMarkup.Proofs.Lifecycle
import TagMarkup.Proofs.Rules
import TagMarkup.Proofs.Termination

/-!
# The grammar in a registry

The rules of the grammar have one cell, and `Grammar.content` says what it does. In a registry the
cell is defined as the rule for content instead, and it can be entered as long as that rule is held
(`Grammar.IsLive`).

**Theorem (`Grammar.evaluates_of_isRule`).** In a live grammar every rule terminates on every input,
with the outcome that `Grammar.apply` gives. The cell is never missing, every entry of it lies
strictly further on than the entry around it, and every successful attempt of a repetition reads
something.

By the look of them, the rules read a start tag before they enter the cell, and repeat only parts
that read something; so this is a case of what is proved about evaluations in general. What the cell
does follows because `Grammar.content` solves the equation of the cell
(`Grammar.solves_content`).
-/

namespace TagMarkup

open Outcome

variable {ε α β : Type}

/-! ## Runs that cannot be broken off -/

namespace Outcome

/-- The outcome of a run that cannot be broken off, among outcomes of runs that can. -/
def widen : Outcome Empty α → Outcome ε α
  | success a c => success a c
  | failure f => failure f
  | broken cause => cause.elim

variable {o : Outcome Empty α}

@[simp] theorem widen_success (a : α) (c : Cursor) :
    (success a c : Outcome Empty α).widen = (success a c : Outcome ε α) := rfl

theorem widen_ne_broken (o : Outcome Empty α) (cause : ε) : o.widen ≠ broken cause := by
  cases o with
  | success a c => simp [widen]
  | failure f => simp [widen]
  | broken cause => exact cause.elim

theorem widen_map (f : α → β) : (o.map f).widen = (o.widen.map f : Outcome ε β) := by
  cases o with
  | success a c => rfl
  | failure e => rfl
  | broken cause => exact cause.elim

theorem widen_andThen {f : α → Cursor → Outcome Empty β} {g : α → Cursor → Outcome ε β}
    (h : ∀ a d, (f a d).widen = g a d) : (o.andThen f).widen = o.widen.andThen g := by
  cases o with
  | success a c => exact h a c
  | failure e => rfl
  | broken cause => exact cause.elim

theorem widen_ofChar (refuse : Char → Option Reason) (c : Cursor) :
    (ofChar refuse c : Outcome Empty Char).widen = (ofChar refuse c : Outcome ε Char) := by
  unfold ofChar
  cases c.next? with
  | none => rfl
  | some read =>
    dsimp only
    cases refuse read.1 <;> rfl

section Repetition

variable {f : Cursor → Outcome Empty α} {g : Cursor → Outcome ε α}

theorem widen_collect (h : ∀ c, (f c).widen = g c) (c : Cursor) :
    (collect f [] c).widen = collect g [] c := by
  induction hn : c.remaining using Nat.strongRecOn generalizing c with
  | _ n ih =>
    rw [collect_step f, collect_step g, ← h c]
    cases f c with
    | failure e => rfl
    | broken cause => exact cause.elim
    | success a d =>
      simp only [widen_success]
      split_ifs with hlt
      · rw [← ih _ (hn ▸ hlt) d rfl, widen_map]
      · rfl

theorem widen_collectOne (h : ∀ c, (f c).widen = g c) (c : Cursor) :
    (collectOne f c).widen = collectOne g c := by
  rw [collectOne_eq, collectOne_eq, ← widen_collect h, ← h c]
  cases f c with
  | failure e => rfl
  | broken cause => exact cause.elim
  | success a d => rfl

end Repetition

end Outcome

namespace Parser

variable {κ : Type} {ν : κ → Type}

/-- The same parser among those whose runs can be broken off. -/
def widen : {α : Type} → Parser Empty ν α → Parser ε ν α
  | _, any => any
  | _, literal expected => literal expected
  | _, satisfy test label => satisfy test label
  | _, noneOf excluded => noneOf excluded
  | _, ofFn f => ofFn fun c => (f c).widen
  | _, cell k => cell k
  | _, sequence p q f => sequence p.widen q.widen f
  | _, sequenceIf p q f fit => sequenceIf p.widen q.widen f fit
  | _, orElse p q => orElse p.widen q.widen
  | _, many p => many p.widen
  | _, oneOrMore p => oneOrMore p.widen
  | _, exactly p count cause => exactly p.widen count cause.elim
  | _, map p f => map p.widen f
  | _, validate p valid => validate p.widen valid
  | _, toEnd p => toEnd p.widen
  | _, shared p => shared p.widen

theorem run_widen (enter : (k : κ) → Cursor → Outcome Empty (ν k)) (p : Parser Empty ν α)
    (c : Cursor) : (p.widen : Parser ε ν α).run (fun k d => (enter k d).widen) c =
      (p.run enter c).widen := by
  induction p generalizing c with
  | any | literal | satisfy | noneOf => exact (widen_ofChar _ c).symm
  | ofFn | cell => rfl
  | sequence p q f ihp ihq =>
    rw [widen, run, run, ihp]
    exact (widen_andThen fun a d => by rw [widen_map, ihq]).symm
  | sequenceIf p q f fit ihp ihq =>
    rw [widen, run, run, ihp]
    refine (widen_andThen fun a d => ?_).symm
    rw [ihq]
    exact widen_andThen fun b e => by split <;> rfl
  | orElse p q ihp ihq =>
    rw [widen, run, run, ihp, ihq]
    cases p.run enter c with
    | failure f => rfl
    | success a d => rfl
    | broken cause => exact cause.elim
  | many p ih => exact (widen_collect (fun d => (ih d).symm) c).symm
  | oneOrMore p ih => exact (widen_collectOne (fun d => (ih d).symm) c).symm
  | exactly p count cause ih => exact cause.elim
  | map p f ih => rw [widen, run, run, ih, widen_map]
  | validate p valid ih =>
    rw [widen, run, run, ih]
    exact (widen_andThen fun a d => by split <;> rfl).symm
  | toEnd p ih =>
    rw [widen, run, run, ih]
    exact (widen_andThen fun a d => by split <;> rfl).symm
  | shared p ih => exact ih c

end Parser

/-! ## The rules among the parsers of a registry -/

namespace Grammar

/-- The cell of the grammar, in the given scope, is defined as the rule for content, and the rule
is held. Inside of it the cell is the same one. -/
def IsLive (r : Registry (List Node)) (scope : List (String × CellId)) : Prop :=
  ∃ held, r.resolve scope contentCell = .ok held ∧ held.parser = innerContent.widen ∧
    r.resolve held.scope contentCell = .ok held

variable {r : Registry (List Node)} {scope : List (String × CellId)} {rule : Rule α}

/-- The cells of a grammar that is live. -/
def IsCell (r : Registry (List Node)) (scope : List (String × CellId)) (k : String) : Prop :=
  k = contentCell ∧ IsLive r scope

/-- After any history, a grammar is live as long as some slot holds its rule for content, if the
cell was defined as that very rule and is the same one inside of it. -/
theorem isLive_after {past : Registry.Past (List Node)} {k : CellId} {slot : String}
    {held : Held (List Node)} (hdefined : Registry.Defined past k held.id)
    (hslot : (Registry.after past).slots.lookup slot = some held)
    (hparser : held.parser = innerContent.widen) (hscope : scope.lookup contentCell = some k)
    (hinside : held.scope.lookup contentCell = some k) :
    IsLive (Registry.after past) scope := by
  have h := Registry.reflects_after past
  have hk := Registry.defined_iff.1 hdefined
  exact ⟨held, h.resolve_of_held hk hslot hscope, hparser, h.resolve_of_held hk hslot hinside⟩

theorem steady_of_isRule (h : IsRule rule) {K : String → Prop} (hK : K contentCell) :
    (rule.widen : Parser Fault (Uniform (List Node)) α).Steady K := by
  cases h <;> simp [root, innerContent, tag, plainText, startTag, endTag, entry, entries, name,
    value, gap, Parser.left, Parser.right, Parser.neither, Parser.text, Parser.letterOrDigit,
    Parser.whitespace, Parser.space, Parser.newline, Parser.widen, Parser.Steady,
    Parser.consumes, hK]

/-- Every rule reads a start tag, or enters no cell at all, before it enters its cell. -/
theorem entersAtOnce_of_isRule (h : IsRule rule) :
    (rule.widen : Parser Fault (Uniform (List Node)) α).entersAtOnce = false := by
  cases h <;> rfl

theorem IsCell.held {k : String} {held : Held (List Node)} (h : IsCell r scope k)
    (hk : r.resolve scope k = .ok held) :
    held.parser = innerContent.widen ∧ IsCell r held.scope contentCell := by
  obtain ⟨rfl, held', hheld, hparser, hscope⟩ := h
  obtain rfl : held' = held := Except.ok.inj (hheld.symm.trans hk)
  exact ⟨hparser, rfl, held', hscope, hparser, hscope⟩

theorem guards_isCell (r : Registry (List Node)) : r.Guards (IsCell r) where
  steady h hk := by
    obtain ⟨hparser, hcell⟩ := h.held hk
    rw [hparser]
    exact steady_of_isRule .innerContent hcell
  behind h hk := by
    rw [(h.held hk).1]
    rfl

/-- In a grammar that is live, the cell does what is inside of a tag. -/
theorem solves_content (r : Registry (List Node)) :
    r.Solves (IsCell r) fun _ _ _ c => (content c).widen where
  refused n c h hk := by
    obtain ⟨rfl, held, hheld, -⟩ := h
    rw [hheld] at hk
    cases hk
  ok n c h hk := by
    rw [(h.held hk).1, Parser.run_widen, content_eq_apply]
    rfl

theorem admits_of_isRule (h : IsRule rule) (c : Cursor) : (⟨c, scope⟩ : Entry).Admits
    (rule.widen : Parser Fault (Uniform (List Node)) α).entersAtOnce c :=
  ⟨.refl c, by simp [entersAtOnce_of_isRule h]⟩

/-- Whatever evaluation a rule has, its outcome is that of the rule. -/
theorem outcome_eq_of_evaluates (hr : IsLive r scope) (hrule : IsRule rule) {c : Cursor}
    {t : List Event} {o : Outcome Fault α} (h : r.Evaluates ⟨c, scope⟩ rule.widen c t o) :
    o = (apply rule c).widen := by
  have hs := steady_of_isRule hrule (K := IsCell r scope) ⟨rfl, hr⟩
  rw [← h.run_eq (guards_isCell r) (solves_content r) hs (admits_of_isRule hrule c) le_rfl,
    Parser.run_widen]
  rfl

theorem exists_evaluates_of_isRule (hr : IsLive r scope) (hrule : IsRule rule) (c : Cursor)
    {n : Nat} (hn : c.remaining ≤ n) :
    ∃ t, r.Evaluates ⟨c, scope⟩ rule.widen c t (rule.widen.run (r.enter n scope) c) :=
  Registry.exists_evaluates (guards_isCell r) (steady_of_isRule hrule ⟨rfl, hr⟩)
    (admits_of_isRule hrule c) hn

/-- The registry applies a rule as it is, if cells may be entered inside each other as often as
there are characters left. -/
theorem run_of_isRule (hr : IsLive r scope) (hrule : IsRule rule) (c : Cursor) {n : Nat}
    (hn : c.remaining ≤ n) : rule.widen.run (r.enter n scope) c = (apply rule c).widen := by
  obtain ⟨t, ht⟩ := exists_evaluates_of_isRule hr hrule c hn
  exact outcome_eq_of_evaluates hr hrule ht

/-- Where there is a cell, the registry lets cells be entered inside each other as often as there
are characters left. -/
theorem remaining_le_entriesFrom (hr : IsLive r scope) (c : Cursor) :
    c.remaining ≤ r.entriesFrom c := by
  obtain ⟨held, hheld, -⟩ := hr
  have hsize : 0 < r.cells.size := by
    by_contra hsize
    have hcells (id : CellId) : r.cells[id]? = none := by simp; omega
    simp [Registry.resolve, hcells] at hheld
  calc c.remaining ≤ 1 * (c.remaining + 1) := by omega
    _ ≤ r.entriesFrom c := Nat.mul_le_mul_right _ hsize

/-- **Every rule of a live grammar terminates**, at every cursor. It has an evaluation, and whatever
evaluation it has ends with the outcome of the rule, so it is not broken off. On the way, each entry
of the cell lies strictly further on than the entry around it, and each attempt of a repetition that
succeeds reads something. The registry comes to the same outcome. -/
theorem evaluates_of_isRule (hr : IsLive r scope) (hrule : IsRule rule) (c : Cursor) :
    (∃ t, r.Evaluates ⟨c, scope⟩ rule.widen c t (apply rule c).widen) ∧
      (∀ t o, r.Evaluates ⟨c, scope⟩ rule.widen c t o →
        o = (apply rule c).widen ∧ (∀ fault, o ≠ .broken fault) ∧ ∀ e ∈ t, e.Advances) ∧
      rule.widen.run (r.enter (r.entriesFrom c) scope) c = (apply rule c).widen := by
  have hrun := run_of_isRule hr hrule c (remaining_le_entriesFrom hr c)
  refine ⟨?_, fun t o h => ?_, hrun⟩
  · obtain ⟨t, ht⟩ := exists_evaluates_of_isRule hr hrule c (remaining_le_entriesFrom hr c)
    exact ⟨t, hrun ▸ ht⟩
  · have ho := outcome_eq_of_evaluates hr hrule h
    refine ⟨ho, fun fault => ho ▸ widen_ne_broken _ fault, ?_⟩
    exact h.advances (guards_isCell r) (steady_of_isRule hrule ⟨rfl, hr⟩)
      (admits_of_isRule hrule c)

/-- A registry that holds the grammar. -/
def registry : Registry (List Node) :=
  (Registry.empty.replay [.create contentCell contentCell, .hold contentCell innerContent.widen,
    .define contentCell contentCell]).1

/-- A tag that is not closed inside of one that is. Both are given back, and nothing is read. -/
theorem evaluates_of_isRule_unclosed :
    IsLive registry registry.handles ∧ IsRule root ∧
      ∃ t, registry.Evaluates ⟨.start "<a>é<b></a>", registry.handles⟩ root.widen
        (.start "<a>é<b></a>") t (failure ⟨.trailingInput, .start "<a>é<b></a>"⟩) := by
  have hr : IsLive registry registry.handles :=
    ⟨⟨0, innerContent.widen, [(contentCell, 0)]⟩, rfl, rfl, rfl⟩
  have h : apply root (.start "<a>é<b></a>") =
      .failure ⟨.trailingInput, .start "<a>é<b></a>"⟩ := by decide +kernel
  obtain ⟨t, ht⟩ := (evaluates_of_isRule hr .root (.start "<a>é<b></a>")).1
  rw [h] at ht
  exact ⟨hr, .root, t, ht⟩

end Grammar

end TagMarkup

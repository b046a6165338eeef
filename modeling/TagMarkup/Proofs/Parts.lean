import TagMarkup.Proofs.Forward

/-!
# Parts of parsers

`p.parts` lists the parsers inside of a parser, and `r.Uses scope p q` says that in the registry `r`
the part `q` may be applied when `p` is: it is inside of `p`, or inside of a parser behind one of
the cells there, and so on. So a class of parsers is given by the kinds of parts that they use, and
the primitive that a failure comes from is one of these parts.

What a parser does depends only on the cells among its parts (`Parser.run_congr`).
-/

namespace TagMarkup

namespace Parser

variable {κ ε : Type} {ν : κ → Type} {α : Type}

/-- A parser, with the type of its values. -/
abbrev Part {κ : Type} (ε : Type) (ν : κ → Type) : Type 1 := Σ α : Type, Parser ε ν α

/-- The parsers inside of a parser, itself among them. -/
def parts : {α : Type} → Parser ε ν α → List (Part ε ν)
  | _, p@any | _, p@(literal _) | _, p@(satisfy ..) | _, p@(noneOf _) | _, p@(ofFn _)
  | _, p@(cell _) => [⟨_, p⟩]
  | _, p@(sequence q r _) | _, p@(sequenceIf q r _ _) | _, p@(orElse q r) =>
    ⟨_, p⟩ :: (q.parts ++ r.parts)
  | _, p@(many q) | _, p@(oneOrMore q) | _, p@(exactly q _ _) | _, p@(map q _)
  | _, p@(validate q _) | _, p@(toEnd q) | _, p@(shared q) => ⟨_, p⟩ :: q.parts

theorem mem_parts_self (p : Parser ε ν α) : ⟨α, p⟩ ∈ p.parts := by
  cases p <;> exact List.mem_cons_self

/-! ## Kinds of parts -/

/-- The parser reads a single character. -/
def isPrimitive : {α : Type} → Parser ε ν α → Bool
  | _, any | _, literal _ | _, satisfy .. | _, noneOf _ => true
  | _, _ => false

/-- The parser is a function. -/
def isFunction : {α : Type} → Parser ε ν α → Bool
  | _, ofFn _ => true
  | _, _ => false

/-- The parser reports the failures of its part where it started. -/
def relocates : {α : Type} → Parser ε ν α → Bool
  | _, oneOrMore _ | _, exactly .. => true
  | _, _ => false

/-- The parser may reject the values of its parts. -/
def validates : {α : Type} → Parser ε ν α → Bool
  | _, sequenceIf .. | _, validate .. => true
  | _, _ => false

/-- A parser without functions inside has no leaves of which anything could be asked. -/
theorem leaves_of_parts {P : (α : Type) → (Cursor → Outcome ε α) → Prop} {p : Parser ε ν α}
    (h : ∀ q ∈ p.parts, q.2.isFunction = false) : p.Leaves P := by
  induction p with
  | any | literal | satisfy | noneOf | cell => trivial
  | ofFn f => cases h _ (mem_parts_self _)
  | sequence _ _ _ ihp ihq | sequenceIf _ _ _ _ ihp ihq | orElse _ _ ihp ihq =>
    obtain ⟨hp, hq⟩ := List.forall_mem_append.1 (List.forall_mem_cons.1 h).2
    exact ⟨ihp hp, ihq hq⟩
  | many _ ih | oneOrMore _ ih | exactly _ _ _ ih | map _ _ ih | validate _ _ ih | toEnd _ ih
  | shared _ ih => exact ih (List.forall_mem_cons.1 h).2

/-- What a parser does depends only on the cells inside of it. -/
theorem run_congr {enter enter' : (k : κ) → Cursor → Outcome ε (ν k)} {p : Parser ε ν α}
    (h : ∀ k, (⟨ν k, cell k⟩ : Part ε ν) ∈ p.parts → enter k = enter' k) :
    p.run enter = p.run enter' := by
  induction p with
  | any | literal | satisfy | noneOf | ofFn => rfl
  | cell k => exact h k (mem_parts_self _)
  | sequence p q _ ihp ihq | sequenceIf p q _ _ ihp ihq | orElse p q ihp ihq =>
    have hp := ihp fun k hk => h k (List.mem_cons_of_mem _ (List.mem_append_left _ hk))
    have hq := ihq fun k hk => h k (List.mem_cons_of_mem _ (List.mem_append_right _ hk))
    funext c
    simp only [run, hp, hq]
  | many p ih | oneOrMore p ih | exactly p _ _ ih | map p _ ih | validate p _ ih | toEnd p ih
  | shared p ih =>
    have hp := ih fun k hk => h k (List.mem_cons_of_mem _ hk)
    funext c
    simp only [run, hp]

end Parser

/-! ## Parts behind cells -/

namespace Registry

variable {ν : Type}

/-- In a registry, the second parser may be applied when the first one is, with its cells in the
given scope. -/
inductive Uses (r : Registry ν) : List (String × CellId) → Parser.Part Fault (Uniform ν) →
    Parser.Part Fault (Uniform ν) → Prop
  | inside {scope : List (String × CellId)} {p q : Parser.Part Fault (Uniform ν)} :
      q ∈ p.2.parts → Uses r scope p q
  | behind {scope : List (String × CellId)} {p q : Parser.Part Fault (Uniform ν)} {k : String}
      {held : Held ν} : ⟨ν, .cell k⟩ ∈ p.2.parts → r.resolve scope k = .ok held →
      Uses r held.scope ⟨ν, held.parser⟩ q → Uses r scope p q

/-- What is used lies inside of a parser from any class that holds, with a parser, the parsers
behind its cells. -/
theorem Uses.exists_of_closed {r : Registry ν}
    {S : List (String × CellId) → Parser.Part Fault (Uniform ν) → Prop}
    (hS : ∀ {scope p k held}, S scope p → ⟨ν, .cell k⟩ ∈ p.2.parts →
      r.resolve scope k = .ok held → S held.scope ⟨ν, held.parser⟩)
    {scope : List (String × CellId)} {p q : Parser.Part Fault (Uniform ν)}
    (h : r.Uses scope p q) (hp : S scope p) : ∃ scope' p', S scope' p' ∧ q ∈ p'.2.parts := by
  induction h with
  | inside hq => exact ⟨_, _, hp, hq⟩
  | behind hk hheld _ ih => exact ih (hS hp hk hheld)

end Registry

end TagMarkup

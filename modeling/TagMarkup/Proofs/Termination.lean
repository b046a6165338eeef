import TagMarkup.Proofs.Evaluation

/-!
# Evaluations end

**Theorem (`Registry.exists_evaluates`).** Let the parsers behind some cells repeat only parts that
read something, and enter no cell before they have read something. Then every parser of this kind
that enters only these cells has an evaluation at every cursor, and the registry comes to its
outcome if cells may be entered inside each other as often as there are characters left.

Three inductions lie inside each other, since three things might go on forever. The outer one is on
how many characters are left where the cell was entered; an entry inside of it has fewer. The next
one is on the parser, and the inner one on how many characters are left for a repetition.

Conversely, whatever evaluation there is, its outcome is that of the run
(`Registry.Evaluates.run_enter_eq`), and that of a run with anything else that does at the cells
what entering them means (`Registry.Evaluates.run_eq`).
-/

namespace TagMarkup

open Outcome

variable {ε α β : Type}

namespace Outcome

theorem andThen_congr {o : Outcome ε α} {f g : α → Cursor → Outcome ε β}
    (h : ∀ a d, o = success a d → f a d = g a d) : o.andThen f = o.andThen g := by
  cases o with
  | success a d => exact h a d rfl
  | failure e => rfl
  | broken cause => rfl

theorem repeats_congr {o : Outcome ε α} {c : Cursor} {f g : α → Cursor → Outcome ε (List α)}
    (h : ∀ a d, o = success a d → d.offset ≠ c.offset → f a d = g a d) :
    o.repeats c f = o.repeats c g := by
  cases o with
  | success a d =>
    simp only [repeats]
    split_ifs with ho
    · rfl
    · rw [h a d rfl ho]
  | failure e => rfl
  | broken cause => rfl

/-- As long as no attempt goes back, a repetition may as well look at offsets to see whether an
attempt read something. -/
theorem collect_eq_repeats {attempt : Cursor → Outcome ε α} {s : Bool} {c : Cursor}
    (h : (attempt c).Reaches s c) :
    collect attempt [] c = (attempt c).repeats c fun _ d => collect attempt [] d := by
  rw [collect_step]
  cases ho : attempt c with
  | failure e => rfl
  | broken cause => rfl
  | success a d =>
    have hd := (h a d ho).1
    have hle := hd.2
    simp only [repeats]
    by_cases hlt : c.offset < d.offset
    · rw [if_pos (hd.remaining_lt_iff.2 hlt), if_neg (Nat.ne_of_gt hlt)]
    · rw [if_neg (mt hd.remaining_lt_iff.1 hlt), if_pos (by omega)]

/-- A failure is reported where the whole started, wherever a part would report it. -/
theorem relocate_andThen_map_relocate {o : Outcome ε α} {f : α → Cursor → Outcome ε β} {γ : Type}
    {g : α → β → γ} (c : Cursor) :
    (o.andThen fun a d => ((f a d).relocate d).map (g a)).relocate c =
      (o.andThen fun a d => (f a d).map (g a)).relocate c := by
  cases o with
  | failure e => rfl
  | broken cause => rfl
  | success a d =>
    simp only [andThen]
    cases f a d <;> rfl

end Outcome

/-- No attempts read nothing; there is always room for their values. -/
theorem Parser.run_exactly_zero {κ : Type} {ν : κ → Type} [Sized α]
    (enter : (k : κ) → Cursor → Outcome ε (ν k)) (p : Parser ε ν α) (cause : ε) (c : Cursor) :
    (exactly p 0 cause).run enter c = success [] c := by
  simp [run, Room.holds, collectExactly, relocate]

/-- The first of a number of attempts, in front of what follows. -/
theorem Parser.run_exactly_succ {κ : Type} {ν : κ → Type} [Sized α]
    (enter : (k : κ) → Cursor → Outcome ε (ν k)) (p : Parser ε ν α) {n : Nat} {cause : ε}
    (hroom : Room.holds α (n + 1) = true) (c : Cursor) :
    (exactly p (n + 1) cause).run enter c = ((p.run enter c).andThen fun a d =>
      ((exactly p n cause).run enter d).map (a :: ·)).relocate c := by
  have hn : Room.holds α n = true := by
    simp only [Room.holds, decide_eq_true_eq] at hroom ⊢
    exact Nat.le_trans (Nat.mul_le_mul_right _ (Nat.le_succ n)) hroom
  simp only [run, if_pos hroom, if_pos hn]
  rw [collectExactly_succ, relocate_andThen_map_relocate]

namespace Registry

variable {ν : Type} {r : Registry ν} {K : List (String × CellId) → String → Prop}

/-! ## What cells do -/

/-- With so many entries inside each other, `enter` does at the given cells what entering them
means: it hands on the fault, or it runs the parser behind the cell. -/
structure Solves (r : Registry ν) (K : List (String × CellId) → String → Prop)
    (enter : Nat → List (String × CellId) → String → Cursor → Outcome Fault ν) : Prop where
  refused {scope : List (String × CellId)} {k : String} {fault : Fault} (n : Nat) (c : Cursor) :
    K scope k → r.resolve scope k = .error fault → enter n scope k c = broken fault
  ok {scope : List (String × CellId)} {k : String} {held : Held ν} (n : Nat) (c : Cursor) :
    K scope k → r.resolve scope k = .ok held →
      enter (n + 1) scope k c = held.parser.run (enter n held.scope) c

theorem solves_enter (r : Registry ν) (K : List (String × CellId) → String → Prop) :
    r.Solves K r.enter where
  refused n c _ h := enter_of_refused h n c
  ok n c _ h := enter_succ_of_ok h n c

/-- The outcome of an evaluation is the one that a run has with anything that does at the cells
what entering them means, as often inside each other as there are characters left. -/
theorem Evaluates.run_eq (hr : r.Guards K)
    {enter : Nat → List (String × CellId) → String → Cursor → Outcome Fault ν}
    (hs : r.Solves K enter) {i : Entry} {p : Parser Fault (Uniform ν) α} {c : Cursor}
    {t : List Event} {o : Outcome Fault α} (h : r.Evaluates i p c t o)
    (hp : p.Steady (K i.scope)) (hc : i.Admits p.entersAtOnce c) {n : Nat}
    (hn : i.place.remaining ≤ n) : p.run (enter n i.scope) c = o := by
  induction h generalizing n with
  | any | literal | satisfy | noneOf | ofFn => rfl
  | cellRefused hk => exact hs.refused n _ hp hk
  | cell hk _ ih =>
    -- the entry is strictly further on, so one level less is enough inside of it
    have hlt := hc.1.remaining_lt_iff.2 (hc.2 rfl)
    obtain ⟨m, rfl⟩ : ∃ m, n = m + 1 := ⟨n - 1, by omega⟩
    rw [Parser.run, hs.ok m _ hp hk]
    exact ih (hr.steady hp hk) ⟨.refl _, by simp [hr.behind hp hk]⟩ (by dsimp only; omega)
  | sequence h _ ihp ihq | sequenceIf h _ ihp ihq =>
    rw [Parser.run, ihp hp.1 hc.left hn]
    refine andThen_congr fun a d ho => ?_
    rw [ihq a d ho hp.2 (hc.behind (h.reaches hr hp.1) ho) hn]
  | orElse _ hf ih =>
    rw [Parser.run, ih hp.1 hc.left hn]
    split
    · cases hf
    · rfl
  | orElseFailed _ _ ihp ihq =>
    rw [Parser.run, ihp hp.1 hc.left hn]
    exact ihq hp.2 hc.right hn
  | many h _ ih ihrest =>
    have hreach := h.reaches hr hp.2
    have hattempt := ih hp.2 hc hn
    rw [Parser.run, collect_eq_repeats (hattempt ▸ hreach), hattempt]
    refine repeats_congr fun a d ho hne => ?_
    exact ihrest a d ho hne hp (hc.on (hreach a d ho).1) hn
  | oneOrMore h hf _ ih ihrest =>
    have hreach := h.reaches hr hp.2
    have hattempt := ih hp.2 hc hn
    rw [Parser.run, collectOne_eq, collect_eq_repeats (hattempt ▸ hreach), hattempt]
    split
    · cases hf
    · refine repeats_congr fun a d ho hne => ?_
      exact ihrest a d ho hne hp (hc.on (hreach a d ho).1) hn
  | oneOrMoreFailed _ ih => rw [Parser.run, collectOne, ih hp.2 hc hn]
  | exactly hroom h _ ih ihrest =>
    rw [Parser.run_exactly_succ _ _ hroom, ih hp hc hn]
    refine congrArg _ (andThen_congr fun a d ho => ?_)
    rw [ihrest a d ho hp (hc.on (h.reaches hr hp a d ho).1) hn]
  | exactlyNone => exact Parser.run_exactly_zero _ _ _ _
  | exactlyRefused hroom => rw [Parser.run, if_neg (by simp [hroom])]
  | map _ ih | validate _ ih | toEnd _ ih => rw [Parser.run, ih hp hc hn]
  | shared _ ih => exact ih hp hc hn

/-- Whatever evaluation there is, the registry comes to its outcome. -/
theorem Evaluates.run_enter_eq (hr : r.Guards K) {i : Entry} {p : Parser Fault (Uniform ν) α}
    {c : Cursor} {t : List Event} {o : Outcome Fault α} (h : r.Evaluates i p c t o)
    (hp : p.Steady (K i.scope)) (hc : i.Admits p.entersAtOnce c) {n : Nat}
    (hn : i.place.remaining ≤ n) : p.run (r.enter n i.scope) c = o :=
  h.run_eq hr (r.solves_enter K) hp hc hn

/-! ## Every evaluation ends -/

/-- A repetition ends if each attempt does and reads something: every round leaves fewer characters
unread. -/
theorem exists_evaluates_many {i : Entry} {p : Parser Fault (Uniform ν) α}
    {attempt : Cursor → Outcome Fault α} (c : Cursor)
    (h : ∀ d, c.Onward d → (attempt d).Reaches true d ∧ ∃ t, r.Evaluates i p d t (attempt d)) :
    ∃ t, r.Evaluates i (.many p) c t (collect attempt [] c) := by
  induction hn : c.remaining using Nat.strongRecOn generalizing c with
  | _ n ih =>
    obtain ⟨hreach, t, ht⟩ := h c (.refl c)
    have hrest (a : α) (d : Cursor) (ho : attempt c = success a d) :
        ∃ t', r.Evaluates i (.many p) d t' (collect attempt [] d) := by
      obtain ⟨hcd, hlt⟩ := hreach a d ho
      refine ih _ ?_ d (fun e hde => h e (hcd.trans hde)) rfl
      exact hn ▸ hcd.remaining_lt_iff.2 (hlt rfl)
    choose! t' ht' using hrest
    rw [collect_eq_repeats hreach]
    exact ⟨_, .many ht fun a d ho _ => ht' a d ho⟩

/-- A number of attempts ends if each attempt does. -/
theorem exists_evaluates_exactly [Sized α] {i : Entry} {p : Parser Fault (Uniform ν) α} {n : Nat}
    {cause : Fault} {enter : String → Cursor → Outcome Fault ν} (c : Cursor)
    (h : ∀ d, c.Onward d →
      (p.run enter d).Reaches false d ∧ ∃ t, r.Evaluates i p d t (p.run enter d)) :
    ∃ t, r.Evaluates i (.exactly p n cause) c t ((Parser.exactly p n cause).run enter c) := by
  induction n generalizing c with
  | zero =>
    rw [Parser.run_exactly_zero]
    exact ⟨[], .exactlyNone⟩
  | succ n ih =>
    cases hroom : Room.holds α (n + 1) with
    | false =>
      rw [Parser.run, if_neg (by simp [hroom])]
      exact ⟨[], .exactlyRefused hroom⟩
    | true =>
      obtain ⟨hreach, t, ht⟩ := h c (.refl c)
      have hrest (a : α) (d : Cursor) (ho : p.run enter c = success a d) :
          ∃ t', r.Evaluates i (.exactly p n cause) d t' ((Parser.exactly p n cause).run enter d) :=
        ih d fun e hde => h e ((hreach a d ho).1.trans hde)
      choose! t' ht' using hrest
      rw [Parser.run_exactly_succ _ _ hroom]
      exact ⟨_, .exactly hroom ht ht'⟩

/-- A parser has an evaluation if the cells have one wherever they may be entered. -/
theorem exists_evaluates_of_cells (hr : r.Guards K) {i : Entry}
    {enter : String → Cursor → Outcome Fault ν}
    (hcells : ∀ k c, K i.scope k → i.Admits true c →
      ∃ t, r.Evaluates i (.cell k) c t (enter k c))
    (p : Parser Fault (Uniform ν) α) (hp : p.Steady (K i.scope)) (c : Cursor)
    (hc : i.Admits p.entersAtOnce c) : ∃ t, r.Evaluates i p c t (p.run enter c) := by
  induction p generalizing c with
  | any => exact ⟨[], .any⟩
  | literal => exact ⟨[], .literal⟩
  | satisfy => exact ⟨[], .satisfy⟩
  | noneOf => exact ⟨[], .noneOf⟩
  | ofFn => exact ⟨[], .ofFn⟩
  | cell k => exact hcells k c hp hc
  | sequence p q f ihp ihq =>
    obtain ⟨t, ht⟩ := ihp hp.1 c hc.left
    have hq (a) (d) (ho : p.run enter c = success a d) :=
      ihq hp.2 d (hc.behind (ht.reaches hr hp.1) ho)
    choose! t' ht' using hq
    exact ⟨_, .sequence ht ht'⟩
  | sequenceIf p q f fit ihp ihq =>
    obtain ⟨t, ht⟩ := ihp hp.1 c hc.left
    have hq (a) (d) (ho : p.run enter c = success a d) :=
      ihq hp.2 d (hc.behind (ht.reaches hr hp.1) ho)
    choose! t' ht' using hq
    exact ⟨_, .sequenceIf ht ht'⟩
  | orElse p q ihp ihq =>
    obtain ⟨t, ht⟩ := ihp hp.1 c hc.left
    obtain ⟨t', ht'⟩ := ihq hp.2 c hc.right
    simp only [Parser.run]
    generalize p.run enter c = o at ht
    cases o with
    | failure f => exact ⟨_, .orElseFailed ht ht'⟩
    | success a d => exact ⟨t, .orElse ht rfl⟩
    | broken cause => exact ⟨t, .orElse ht rfl⟩
  | many p ih =>
    refine exists_evaluates_many c fun d hcd => ?_
    obtain ⟨t, ht⟩ := ih hp.2 d (hc.on hcd)
    exact ⟨hp.1 ▸ ht.reaches hr hp.2, t, ht⟩
  | oneOrMore p ih =>
    obtain ⟨t, ht⟩ := ih hp.2 c hc
    have hreach := ht.reaches hr hp.2
    have hrest (a) (d) (ho : p.run enter c = success a d) :
        ∃ t, r.Evaluates i p.many d t (collect (p.run enter) [] d) := by
      refine exists_evaluates_many d fun e hde => ?_
      obtain ⟨t, ht⟩ := ih hp.2 e (hc.on ((hreach a d ho).1.trans hde))
      exact ⟨hp.1 ▸ ht.reaches hr hp.2, t, ht⟩
    choose! t' ht' using hrest
    simp only [Parser.run, collectOne_eq, collect_eq_repeats hreach]
    generalize p.run enter c = o at ht ht'
    cases o with
    | failure f => exact ⟨t, .oneOrMoreFailed ht⟩
    | success a d => exact ⟨_, .oneOrMore ht rfl fun a d ho _ => ht' a d ho⟩
    | broken cause => exact ⟨_, .oneOrMore ht rfl fun a d ho _ => ht' a d ho⟩
  | exactly p count cause ih =>
    refine exists_evaluates_exactly c fun d hcd => ?_
    obtain ⟨t, ht⟩ := ih hp d (hc.on hcd)
    exact ⟨(ht.reaches hr hp).weaken (by simp), t, ht⟩
  | map p f ih => exact (ih hp c hc).imp fun t ht => .map ht
  | validate p valid ih => exact (ih hp c hc).imp fun t ht => .validate ht
  | toEnd p ih => exact (ih hp c hc).imp fun t ht => .toEnd ht
  | shared p ih => exact (ih hp c hc).imp fun t ht => .shared ht

/-- **Evaluations end.** Where the parsers behind the given cells are steady and enter no cell at
once, every steady parser has an evaluation. Its outcome is the one of a run that lets cells be
entered inside each other as often as there are characters left. -/
theorem exists_evaluates (hr : r.Guards K) {i : Entry} {p : Parser Fault (Uniform ν) α}
    {c : Cursor} (hp : p.Steady (K i.scope)) (hc : i.Admits p.entersAtOnce c) {n : Nat}
    (hn : i.place.remaining ≤ n) : ∃ t, r.Evaluates i p c t (p.run (r.enter n i.scope) c) := by
  induction n generalizing α i p c with
  | zero =>
    -- nothing is left where the cell was entered, so no cell is entered further on
    refine exists_evaluates_of_cells hr (fun k d _ hd => ?_) p hp c hc
    have := hd.1.remaining_lt_iff.2 (hd.2 rfl)
    omega
  | succ n ih =>
    -- whatever cell is entered, it is entered further on, where fewer characters are left
    refine exists_evaluates_of_cells hr (fun k d hk hd => ?_) p hp c hc
    have hlt := hd.1.remaining_lt_iff.2 (hd.2 rfl)
    cases hheld : r.resolve i.scope k with
    | error fault =>
      rw [enter_of_refused hheld]
      exact ⟨[], .cellRefused hheld⟩
    | ok held =>
      obtain ⟨t, ht⟩ := ih (i := ⟨d, held.scope⟩) (hr.steady hk hheld)
        ⟨.refl d, by simp [hr.behind hk hheld]⟩ (by dsimp only; omega)
      rw [enter_succ_of_ok hheld]
      exact ⟨_, .cell hheld ht⟩

end Registry

end TagMarkup

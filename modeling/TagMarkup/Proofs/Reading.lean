import TagMarkup.Proofs.Places
import TagMarkup.Proofs.Repetition

/-!
# What parsers read

A parser is described by a relation: `R w r a` says that it reads `w` in front of `r` and yields
`a`. `Reads attempt R` says that the successes of `attempt` are those of `R`, at every cursor
and whatever lies before it.

Each combinator gets one lemma that builds its relation from those of its parts. A repetition
reads what `Repeated` says: the attempts follow each other, and none succeeds behind the last.
Both `many` and `oneOrMore` are described by it, because an attempt that succeeds here always
reads something.
-/

namespace TagMarkup

open Cursor Outcome

/-! ## Attempts and what they read -/

/-- The successes of `attempt` are those of `R`, where `R w r a` says that `w` is read in front
of `r` and yields `a`. -/
structure Reads {ε α : Type} (attempt : Cursor → Outcome ε α)
    (R : List Char → List Char → α → Prop) : Prop where
  complete {w r : List Char} {a : α} (h : R w r a) (b : List Char) :
    attempt (between b (w ++ r)) = success a (between (w.reverse ++ b) r)
  sound {b u : List Char} {a : α} {d : Cursor} (h : attempt (between b u) = success a d) :
    ∃ w r, u = w ++ r ∧ R w r a

variable {ε α β γ : Type}

namespace Reads

variable {attempt : Cursor → Outcome ε α} {R S : List Char → List Char → α → Prop}

/-- Where a success ends follows from what was read. -/
theorem sound_cursor (h : Reads attempt R) {b u : List Char} {a : α} {d : Cursor}
    (hs : attempt (between b u) = success a d) :
    ∃ w r, u = w ++ r ∧ d = between (w.reverse ++ b) r ∧ R w r a := by
  obtain ⟨w, r, rfl, hR⟩ := h.sound hs
  rw [h.complete hR b] at hs
  injection hs with _ hd
  exact ⟨w, r, rfl, hd.symm, hR⟩

/-- What was read leads from where an attempt was made to where it ended. -/
theorem eq_success_iff (h : Reads attempt R) {c d : Cursor} {a : α} :
    attempt c = success a d ↔ ∃ w, c.Leads w d ∧ R w d.unread a := by
  refine ⟨fun hs => ?_, fun ⟨w, hd, hR⟩ => ?_⟩
  · rw [c.eq_between] at hs ⊢
    obtain ⟨w, r, hu, rfl, hR⟩ := h.sound_cursor hs
    rw [hu]
    exact ⟨w, leads_between _ w r, hR⟩
  · rw [hd.eq_right, hd.eq_left]
    exact h.complete hR c.before

theorem congr (h : Reads attempt R) (hRS : ∀ w r a, R w r a ↔ S w r a) : Reads attempt S where
  complete hS b := h.complete ((hRS _ _ _).2 hS) b
  sound hs := by
    obtain ⟨w, r, hu, hR⟩ := h.sound hs
    exact ⟨w, r, hu, (hRS _ _ _).1 hR⟩

/-- A success that reads something moves on. -/
theorem remaining_lt (h : Reads attempt R) (hne : ∀ w r a, R w r a → w ≠ []) {c d : Cursor}
    {a : α} (hs : attempt c = success a d) : d.remaining < c.remaining := by
  obtain ⟨w, hlead, hR⟩ := h.eq_success_iff.1 hs
  have hw : 0 < w.length := List.length_pos_iff.2 (hne w _ a hR)
  rw [c.remaining_eq, d.remaining_eq, hlead.unread, List.length_append]
  omega

/-- Where nothing can be read, a run that is never broken off fails. -/
theorem exists_failure {attempt : Cursor → Outcome Empty α} (h : Reads attempt R)
    {u : List Char} (hR : ∀ w r a, u = w ++ r → ¬ R w r a) (b : List Char) :
    ∃ f, attempt (between b u) = failure f := by
  cases ho : attempt (between b u) with
  | success a d =>
    obtain ⟨w, r, hu, hwr⟩ := h.sound ho
    exact absurd hwr (hR w r a hu)
  | failure f => exact ⟨f, rfl⟩
  | broken cause => exact cause.elim

end Reads

/-! ## Single characters -/

/-- Reads one character that passes a test. -/
def OneChar (test : Char → Bool) (w _r : List Char) (x : Char) : Prop := w = [x] ∧ test x = true

theorem reads_ofChar {refuse : Char → Option Reason} {test : Char → Bool}
    (h : ∀ x, refuse x = none ↔ test x = true) :
    Reads (ofChar refuse : Cursor → Outcome ε Char) (OneChar test) where
  complete := by
    intro w r x hw b
    obtain ⟨rfl, hx⟩ := hw
    simp [ofChar, (h x).2 hx]
  sound := by
    intro b u x d hs
    cases u with
    | nil => simp [ofChar] at hs
    | cons y u =>
      simp only [ofChar, next?_between_cons] at hs
      cases hy : refuse y with
      | none =>
        simp only [hy, success.injEq] at hs
        exact ⟨[y], u, rfl, by rw [hs.1], hs.1 ▸ (h y).1 hy⟩
      | some reason => simp [hy] at hs

section Primitives

variable {κ : Type} {ν : κ → Type} {enter : (k : κ) → Cursor → Outcome ε (ν k)}

theorem reads_literal (expected : Char) :
    Reads ((Parser.literal expected).run enter) (OneChar (· = expected)) :=
  reads_ofChar fun x => by simp

theorem reads_satisfy (test : Char → Bool) (label : String) :
    Reads ((Parser.satisfy test label).run enter) (OneChar test) :=
  reads_ofChar fun x => by simp

theorem reads_noneOf (excluded : List Char) :
    Reads ((Parser.noneOf excluded).run enter) (OneChar (· ∉ excluded)) :=
  reads_ofChar fun x => by simp

end Primitives

/-! ## Sequences and values -/

/-- Reads by one relation and then by another. -/
def Sequenced (R : List Char → List Char → α → Prop) (S : List Char → List Char → β → Prop)
    (f : α → β → γ) (w r : List Char) (c : γ) : Prop :=
  ∃ v v' a b, w = v ++ v' ∧ R v (v' ++ r) a ∧ S v' r b ∧ f a b = c

section Parsers

variable {κ : Type} {ν : κ → Type} {enter : (k : κ) → Cursor → Outcome ε (ν k)}
  {p : Parser ε ν α} {q : Parser ε ν β}
  {R : List Char → List Char → α → Prop} {S : List Char → List Char → β → Prop}

theorem Reads.sequence (hp : Reads (p.run enter) R) (hq : Reads (q.run enter) S)
    (f : α → β → γ) : Reads ((Parser.sequence p q f).run enter) (Sequenced R S f) where
  complete := by
    intro w r c h before
    obtain ⟨v, v', a, b, rfl, hR, hS, rfl⟩ := h
    simp only [Parser.run, List.append_assoc, hp.complete hR, Outcome.andThen, hq.complete hS,
      Outcome.map, List.reverse_append]
  sound := by
    intro before u c d hs
    simp only [Parser.run] at hs
    obtain ⟨a, c₁, hpo, hs⟩ := andThen_eq_success.1 hs
    obtain ⟨v, r, rfl, rfl, hR⟩ := hp.sound_cursor hpo
    obtain ⟨b, hqo, hc⟩ := map_eq_success.1 hs
    obtain ⟨v', r, rfl, hS⟩ := hq.sound hqo
    exact ⟨v ++ v', r, by rw [List.append_assoc], v, v', a, b, rfl, hR, hS, hc⟩

/-- Reads by a relation and then the given character. -/
theorem Reads.left_literal (hp : Reads (p.run enter) R) (x : Char) :
    Reads ((Parser.left p (.literal x)).run enter)
      fun w r a => ∃ v, w = v ++ [x] ∧ R v (x :: r) a := by
  refine (hp.sequence (reads_literal x) fun a _ => a).congr fun w r a => ?_
  refine ⟨fun h => ?_, fun h => ?_⟩
  · obtain ⟨v, _, a, y, rfl, hR, ⟨rfl, hy⟩, rfl⟩ := h
    obtain rfl : y = x := by simpa using hy
    exact ⟨v, rfl, hR⟩
  · obtain ⟨v, rfl, hR⟩ := h
    exact ⟨v, [x], a, x, rfl, hR, ⟨rfl, by simp⟩, rfl⟩

/-- Reads the given character and then by a relation. -/
theorem Reads.right_literal (hp : Reads (p.run enter) R) (x : Char) :
    Reads ((Parser.right (.literal x) p).run enter) fun w r a => ∃ v, w = x :: v ∧ R v r a := by
  refine ((reads_literal x).sequence hp fun _ a => a).congr fun w r a => ?_
  refine ⟨fun h => ?_, fun h => ?_⟩
  · obtain ⟨_, v, y, a, rfl, ⟨rfl, hy⟩, hR, rfl⟩ := h
    obtain rfl : y = x := by simpa using hy
    exact ⟨v, rfl, hR⟩
  · obtain ⟨v, rfl, hR⟩ := h
    exact ⟨[x], v, x, a, rfl, ⟨rfl, by simp⟩, hR, rfl⟩

theorem Reads.map (hp : Reads (p.run enter) R) (f : α → β) :
    Reads ((Parser.map p f).run enter) fun w r b => ∃ a, R w r a ∧ f a = b where
  complete := by
    intro w r b h before
    obtain ⟨a, hR, rfl⟩ := h
    rw [Parser.run, hp.complete hR, map_success]
  sound := by
    intro before u b d hs
    rw [Parser.run] at hs
    obtain ⟨a, hpo, hb⟩ := map_eq_success.1 hs
    obtain ⟨w, r, rfl, hR⟩ := hp.sound hpo
    exact ⟨w, r, rfl, a, hR, hb⟩

theorem Reads.validate (hp : Reads (p.run enter) R) (valid : α → Bool) :
    Reads ((Parser.validate p valid).run enter) fun w r a => R w r a ∧ valid a = true where
  complete := by
    intro w r a h before
    obtain ⟨hR, ha⟩ := h
    simp [Parser.run, hp.complete hR, Outcome.andThen, ha]
  sound := by
    intro before u a d hs
    simp only [Parser.run] at hs
    obtain ⟨a', c, hpo, hs⟩ := andThen_eq_success.1 hs
    obtain ⟨ha, rfl, -⟩ := ite_eq_success.1 hs
    obtain ⟨w, r, rfl, hR⟩ := hp.sound hpo
    exact ⟨w, r, rfl, hR, ha⟩

end Parsers

/-! ## Alternatives -/

/-- Reads by the second relation where nothing can be read by the first one. -/
def Either (R S : List Char → List Char → α → Prop) (w r : List Char) (a : α) : Prop :=
  R w r a ∨ (∀ v r' a', w ++ r = v ++ r' → ¬ R v r' a') ∧ S w r a

theorem Reads.orElse {κ : Type} {ν : κ → Type} {enter : (k : κ) → Cursor → Outcome Empty (ν k)}
    {p q : Parser Empty ν α} {R S : List Char → List Char → α → Prop}
    (hp : Reads (p.run enter) R) (hq : Reads (q.run enter) S) :
    Reads ((Parser.orElse p q).run enter) (Either R S) where
  complete := by
    intro w r a h b
    rcases h with hR | ⟨hno, hS⟩
    · simp [Parser.run, hp.complete hR]
    · obtain ⟨f, hf⟩ := hp.exists_failure hno b
      simp [Parser.run, hf, hq.complete hS]
  sound := by
    intro b u a d hs
    simp only [Parser.run] at hs
    cases hpo : p.run enter (between b u) with
    | success a' c =>
      simp only [hpo, success.injEq] at hs
      obtain ⟨w, r, rfl, hR⟩ := hp.sound hpo
      exact ⟨w, r, rfl, .inl (hs.1 ▸ hR)⟩
    | failure f =>
      simp only [hpo] at hs
      obtain ⟨w, r, rfl, hS⟩ := hq.sound hs
      refine ⟨w, r, rfl, .inr ⟨fun v r' a' hv hR => ?_, hS⟩⟩
      rw [hv, hp.complete hR] at hpo
      cases hpo
    | broken cause => exact cause.elim

theorem either_oneChar {s t : Char → Bool} {w r : List Char} {x : Char} :
    Either (OneChar s) (OneChar t) w r x ↔ OneChar (fun x => s x || t x) w r x := by
  refine ⟨fun h => ?_, fun h => ?_⟩
  · rcases h with ⟨rfl, hx⟩ | ⟨-, rfl, hx⟩
    · exact ⟨rfl, by simp [hx]⟩
    · exact ⟨rfl, by simp [hx]⟩
  · obtain ⟨rfl, hx⟩ := h
    by_cases hs : s x = true
    · exact .inl ⟨rfl, hs⟩
    · refine .inr ⟨?_, rfl, by simpa [hs] using hx⟩
      intro v r' y hv hvy
      obtain ⟨rfl, hy⟩ := hvy
      obtain ⟨rfl, -⟩ : x = y ∧ r = r' := by simpa using hv
      exact hs hy

/-! ## Repetition -/

/-- Reads by `R` again and again, until nothing more can be read by it. -/
inductive Repeated (R : List Char → List Char → α → Prop) :
    List Char → List Char → List α → Prop
  | nil {r : List Char} : (∀ w r' a, r = w ++ r' → ¬ R w r' a) → Repeated R [] r []
  | cons {w v r : List Char} {a : α} {as : List α} :
      R w (v ++ r) a → Repeated R v r as → Repeated R (w ++ v) r (a :: as)

section Repetition

variable {attempt : Cursor → Outcome Empty α} {R : List Char → List Char → α → Prop}

/-- A repetition comes to an end on every text. -/
theorem exists_repeated (hne : ∀ w r a, R w r a → w ≠ []) (u : List Char) :
    ∃ w r as, u = w ++ r ∧ Repeated R w r as := by
  induction h : u.length using Nat.strongRecOn generalizing u with
  | _ n ih =>
    by_cases hu : ∃ w r a, u = w ++ r ∧ R w r a
    · obtain ⟨w, r, a, rfl, hR⟩ := hu
      have hw : 0 < w.length := List.length_pos_iff.2 (hne w r a hR)
      obtain ⟨v, r, as, rfl, has⟩ := ih r.length (by simp at h; omega) r rfl
      exact ⟨w ++ v, r, a :: as, by rw [List.append_assoc], .cons hR has⟩
    · exact ⟨[], u, [], rfl, .nil fun w r a hwr hR => hu ⟨w, r, a, hwr, hR⟩⟩

theorem collect_of_repeated (hp : Reads attempt R) (hne : ∀ w r a, R w r a → w ≠ [])
    {w r : List Char} {as : List α} (h : Repeated R w r as) (b : List Char) :
    collect attempt [] (between b (w ++ r)) = success as (between (w.reverse ++ b) r) := by
  induction h generalizing b with
  | nil hR =>
    obtain ⟨f, hf⟩ := hp.exists_failure hR b
    exact collect_of_failure hf
  | @cons w v r a as hR _ ih =>
    have hw : 0 < w.length := List.length_pos_iff.2 (hne _ _ _ hR)
    rw [List.append_assoc, collect_of_success (hp.complete hR b) (by simp; omega), ih]
    simp [Outcome.map]

theorem Reads.collect (hp : Reads attempt R) (hne : ∀ w r a, R w r a → w ≠ []) :
    Reads (collect attempt []) (Repeated R) where
  complete h b := collect_of_repeated hp hne h b
  sound := by
    intro b u as d hs
    obtain ⟨w, r, as', rfl, h⟩ := exists_repeated hne u
    rw [collect_of_repeated hp hne h b] at hs
    injection hs with has
    exact ⟨w, r, rfl, has ▸ h⟩

theorem Reads.collectOne (hp : Reads attempt R) (hne : ∀ w r a, R w r a → w ≠ []) :
    Reads (collectOne attempt) fun w r as => Repeated R w r as ∧ as ≠ [] where
  complete := by
    intro w r as h b
    obtain ⟨h, has⟩ := h
    cases h with
    | nil => exact absurd rfl has
    | @cons w v r a as hR h =>
      have hs := hp.complete hR b
      rw [← List.append_assoc] at hs
      rw [collectOne_of_success hs]
      exact collect_of_repeated hp hne (.cons hR h) b
  sound := by
    intro b u as d hs
    cases ho : attempt (between b u) with
    | failure f => simp [Outcome.collectOne, ho] at hs
    | broken cause => exact cause.elim
    | success a c =>
      rw [collectOne_of_success ho] at hs
      obtain ⟨w, r, rfl, h⟩ := (hp.collect hne).sound hs
      refine ⟨w, r, rfl, h, fun has => ?_⟩
      subst has
      obtain ⟨v, r', hv, hR⟩ := hp.sound ho
      cases h with
      | nil hno => exact hno v r' a hv hR

end Repetition

/-! ## Runs of characters -/

/-- The text does not go on with a character that passes the test. -/
def Stops (test : Char → Bool) (r : List Char) : Prop := ∀ x ∈ r.head?, test x = false

@[simp] theorem stops_nil (test : Char → Bool) : Stops test [] := by simp [Stops]

@[simp] theorem stops_cons {test : Char → Bool} {x : Char} {r : List Char} :
    Stops test (x :: r) ↔ test x = false := by simp [Stops]

theorem Stops.append {test : Char → Bool} {w r : List Char} (hw : Stops test w)
    (hr : Stops test r) : Stops test (w ++ r) := by
  cases w with
  | nil => exact hr
  | cons x w => simpa using hw

/-- Every text starts with a longest run of characters that pass a test, possibly none. -/
theorem exists_run (test : Char → Bool) (u : List Char) :
    ∃ w r, u = w ++ r ∧ (∀ x ∈ w, test x = true) ∧ Stops test r := by
  refine ⟨u.takeWhile test, u.dropWhile test, List.takeWhile_append_dropWhile.symm,
    List.all_eq_true.1 List.all_takeWhile, fun x hx => ?_⟩
  have := List.head?_dropWhile_not test u
  rw [Option.mem_def.1 hx] at this
  simpa using this

/-- A text has only one longest run of characters that pass a test. -/
theorem run_unique {test : Char → Bool} {w v r s : List Char} (hw : ∀ x ∈ w, test x = true)
    (hv : ∀ x ∈ v, test x = true) (hr : Stops test r) (hs : Stops test s)
    (h : w ++ r = v ++ s) : w = v ∧ r = s := by
  induction w generalizing v with
  | nil =>
    cases v with
    | nil => exact ⟨rfl, h⟩
    | cons y v =>
      subst h
      simp [hv y (by simp)] at hr
  | cons x w ih =>
    cases v with
    | nil =>
      simp only [List.nil_append] at h
      subst h
      simp [hw x (by simp)] at hs
    | cons y v =>
      simp only [List.cons_append, List.cons.injEq] at h
      obtain ⟨rfl, h⟩ := h
      obtain ⟨rfl, rfl⟩ := ih (fun z hz => hw z (by simp [hz])) (fun z hz => hv z (by simp [hz])) h
      exact ⟨rfl, rfl⟩

/-- Reads a whole run of characters that pass a test. -/
def CharRun (test : Char → Bool) (w r : List Char) (cs : List Char) : Prop :=
  cs = w ∧ (∀ x ∈ w, test x = true) ∧ Stops test r

theorem repeated_oneChar {test : Char → Bool} {w r cs : List Char} :
    Repeated (OneChar test) w r cs ↔ CharRun test w r cs := by
  refine ⟨fun h => ?_, fun h => ?_⟩
  · induction h with
    | @nil r hR =>
      refine ⟨rfl, by simp, fun x hx => ?_⟩
      cases r with
      | nil => simp at hx
      | cons y r =>
        obtain rfl : y = x := by simpa using hx
        exact Bool.eq_false_iff.2 fun hy => hR [y] r y rfl ⟨rfl, hy⟩
    | cons hR _ ih =>
      obtain ⟨rfl, hx⟩ := hR
      obtain ⟨rfl, hv, hr⟩ := ih
      exact ⟨rfl, by simpa [hx] using hv, hr⟩
  · obtain ⟨rfl, hw, hr⟩ := h
    induction cs with
    | nil =>
      refine .nil fun w r' x hwr hx => ?_
      obtain ⟨rfl, hx⟩ := hx
      subst hwr
      simp [hx] at hr
    | cons x cs ih =>
      exact .cons (w := [x]) ⟨rfl, hw x (by simp)⟩ (ih fun y hy => hw y (by simp [hy]))

section Parsers

variable {κ : Type} {ν : κ → Type} {enter : (k : κ) → Cursor → Outcome Empty (ν k)}

theorem Reads.many {p : Parser Empty ν α} {R : List Char → List Char → α → Prop}
    (hp : Reads (p.run enter) R) (hne : ∀ w r a, R w r a → w ≠ []) :
    Reads (p.many.run enter) (Repeated R) := hp.collect hne

theorem Reads.many_char {p : Parser Empty ν Char} {test : Char → Bool}
    (hp : Reads (p.run enter) (OneChar test)) : Reads (p.many.run enter) (CharRun test) :=
  (hp.collect fun _ _ _ h => by simp [h.1]).congr fun _ _ _ => repeated_oneChar

theorem Reads.oneOrMore_char {p : Parser Empty ν Char} {test : Char → Bool}
    (hp : Reads (p.run enter) (OneChar test)) :
    Reads (p.oneOrMore.run enter) fun w r cs => CharRun test w r cs ∧ cs ≠ [] :=
  (hp.collectOne fun _ _ _ h => by simp [h.1]).congr fun _ _ _ => by rw [repeated_oneChar]

end Parsers

end TagMarkup

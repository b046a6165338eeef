import TagMarkup.Proofs.Reading
import TagMarkup.Text.Quoted

/-!
# Reading quoted text

Quoted text tells what it quotes, and it tells where it ends.

What is written for the things of some kind is **prefix-free** (`PrefixFree`) if it determines the
thing in front of any further text, and with it the further text. The characters of quoted text are
written so: as themselves, or behind a backslash by a single character that is not `u`, or by their
number, which ends at a brace (`Quoted.prefixFree_encodeChar`). A sequence of such things is written
prefix-free again, if a character stands behind it with which none of them starts
(`PrefixFree.flatMap`). In quoted text this is the closing quotation mark
(`Quoted.prefixFree_text`).

A line feed is always escaped (`Quoted.newline_not_mem_text`).
-/

namespace TagMarkup

/-! ## Prefix-free writing -/

/-- For things of a kind: what is written for one of them determines it, whatever follows, and so
determines what follows. -/
def PrefixFree {α : Type} (P : α → Prop) (write : α → List Char) : Prop :=
  ∀ ⦃a b : α⦄ ⦃u v : List Char⦄, P a → P b → write a ++ u = write b ++ v → a = b ∧ u = v

/-- A sequence of things up to a character that none of them starts with. -/
theorem PrefixFree.flatMap {α : Type} {P : α → Prop} {write : α → List Char} {stop : Char}
    (h : PrefixFree P write) (hstop : ∀ a u v, P a → write a ++ u ≠ stop :: v) :
    PrefixFree (fun as => ∀ a ∈ as, P a) fun as : List α => as.flatMap write ++ [stop] := by
  intro as bs u v has hbs heq
  induction as generalizing bs with
  | nil =>
    cases bs with
    | nil => exact ⟨rfl, by simpa using heq⟩
    | cons b bs =>
      have hb := hstop b (bs.flatMap write ++ [stop] ++ v) u (hbs b List.mem_cons_self)
      exact absurd (by simpa using heq.symm) hb
  | cons a as ih =>
    obtain ⟨ha, has⟩ := List.forall_mem_cons.1 has
    cases bs with
    | nil =>
      have hb := hstop a (as.flatMap write ++ [stop] ++ u) v ha
      exact absurd (by simpa using heq) hb
    | cons b bs =>
      obtain ⟨hb, hrests⟩ := List.forall_mem_cons.1 hbs
      have hcut : write a ++ (as.flatMap write ++ [stop] ++ u) =
          write b ++ (bs.flatMap write ++ [stop] ++ v) := by simpa using heq
      obtain ⟨rfl, hrest⟩ := h ha hb hcut
      obtain ⟨rfl, rfl⟩ := ih has hrests hrest
      exact ⟨rfl, rfl⟩

namespace Quoted

/-! ## Numbers in hexadecimal digits -/

theorem not_mem_toDigits {x : Char} (hx : ∀ d, Nat.digitChar d ≠ x) (n : Nat) :
    x ∉ Nat.toDigits 16 n := by
  induction n using Nat.strongRecOn with
  | _ n ih =>
    by_cases hlt : n < 16
    · rw [Nat.toDigits_of_lt_base hlt]
      simpa using (hx n).symm
    · rw [Nat.toDigits_of_base_le (by omega) (by omega)]
      have hdiv := ih (n / 16) (by omega)
      simpa [hdiv] using (hx (n % 16)).symm

theorem eq_of_digitChar_eq : ∀ d < 16, ∀ e < 16, Nat.digitChar d = Nat.digitChar e → d = e := by
  decide

/-- A number is determined by its digits. -/
theorem toDigits_injective {m n : Nat} (h : Nat.toDigits 16 m = Nat.toDigits 16 n) : m = n := by
  induction m using Nat.strongRecOn generalizing n with
  | _ m ih =>
    by_cases hm : m < 16
    · by_cases hn : n < 16
      · rw [Nat.toDigits_of_lt_base hm, Nat.toDigits_of_lt_base hn] at h
        exact eq_of_digitChar_eq m hm n hn (by simpa using h)
      · rw [Nat.toDigits_of_lt_base hm, Nat.toDigits_of_base_le (by omega) (by omega)] at h
        exact absurd (List.append_eq_singleton_iff.1 h.symm) (by simp [Nat.toDigits_ne_nil])
    · by_cases hn : n < 16
      · rw [Nat.toDigits_of_lt_base hn, Nat.toDigits_of_base_le (by omega) (by omega)] at h
        exact absurd (List.append_eq_singleton_iff.1 h) (by simp [Nat.toDigits_ne_nil])
      · rw [Nat.toDigits_of_base_le (by omega) (by omega),
          Nat.toDigits_of_base_le (by omega) (by omega : 16 ≤ n)] at h
        obtain ⟨hdiv, hmod⟩ := List.append_inj' h rfl
        have hdiv := ih (m / 16) (by omega) hdiv
        have hmod := eq_of_digitChar_eq _ (Nat.mod_lt m (by omega)) _ (Nat.mod_lt n (by omega))
          (by simpa using hmod)
        omega

/-! ## Characters -/

/-- The character that a single character other than `u` stands for behind a backslash. -/
def unescape : Char → Char
  | '0' => '\x00'
  | 't' => '\t'
  | 'n' => '\n'
  | 'r' => '\r'
  | e => e

/-- The three ways to write a character of quoted text. -/
inductive CharCode (c : Char) : List Char → Prop
  | escape {e : Char} : e ≠ 'u' → e ≠ '\n' → unescape e = c → CharCode c ['\\', e]
  | byCode : CharCode c (byCode c)
  | itself : c ≠ '\\' → c ≠ '"' → c ≠ '\n' → CharCode c [c]

theorem charCode_encodeChar (c : Char) : CharCode c (encodeChar (· = '"') c) := by
  unfold encodeChar
  split
  case h_6 _ _ hnewline _ hbackslash =>
    by_cases hq : c = '"'
    · subst hq
      rw [if_pos (by simp)]
      exact .escape (by decide) (by decide) rfl
    · rw [if_neg (by simpa using hq)]
      split
      · exact .byCode
      · exact .itself hbackslash hq hnewline
  all_goals exact .escape (by decide) (by decide) rfl

namespace CharCode

variable {c d : Char} {w w' : List Char}

theorem newline_not_mem (h : CharCode c w) : '\n' ∉ w := by
  cases h with
  | escape _ hn _ => simpa using Ne.symm hn
  | itself _ _ hn => simpa using Ne.symm hn
  | byCode =>
    have hdigits : '\n' ∉ Nat.toDigits 16 c.toNat :=
      not_mem_toDigits (fun d => Nat.digitChar_ne '\n' rfl) _
    simp [Quoted.byCode, hdigits]

theorem ne_mark (h : CharCode c w) (u v : List Char) : w ++ u ≠ '"' :: v := by
  cases h with
  | escape | byCode => simp [Quoted.byCode]
  | itself _ hq _ => simp [hq]

/-- The code of a character determines it, whatever follows. -/
theorem unique (h : CharCode c w) (h' : CharCode d w') {u v : List Char}
    (heq : w ++ u = w' ++ v) : c = d ∧ u = v := by
  cases h with
  | @escape e hu _ hc =>
    cases h' with
    | @escape e' _ _ hd =>
      obtain ⟨rfl, rfl⟩ : e = e' ∧ u = v := by simpa using heq
      exact ⟨hc.symm.trans hd, rfl⟩
    | byCode => exact absurd heq (by simp [Quoted.byCode, hu])
    | itself hd _ _ => exact absurd heq (by simp [hd.symm])
  | byCode =>
    cases h' with
    | @escape e' hu _ _ => exact absurd heq (by simp [Quoted.byCode, hu.symm])
    | byCode =>
      -- both numbers end at the first brace
      have hbrace (c : Char) : ∀ x ∈ Nat.toDigits 16 c.toNat, (x != '\x7d') = true := by
        intro x hx
        have hbrace : '\x7d' ∉ Nat.toDigits 16 c.toNat :=
          not_mem_toDigits (fun d => Nat.digitChar_ne '\x7d' rfl) _
        simp only [bne_iff_ne]
        rintro rfl
        exact hbrace hx
      have hcut : Nat.toDigits 16 c.toNat ++ '\x7d' :: u =
          Nat.toDigits 16 d.toNat ++ '\x7d' :: v := by simpa [Quoted.byCode] using heq
      obtain ⟨hdigits, hrest⟩ := run_unique (hbrace c) (hbrace d) (by simp) (by simp) hcut
      refine ⟨?_, by simpa using hrest⟩
      rw [← Char.ofNat_toNat c, toDigits_injective hdigits, Char.ofNat_toNat]
    | itself hd _ _ => exact absurd heq (by simp [Quoted.byCode, hd.symm])
  | itself hc _ _ =>
    cases h' with
    | escape | byCode => exact absurd heq (by simp [Quoted.byCode, hc])
    | itself => simpa using heq

end CharCode

theorem prefixFree_encodeChar : PrefixFree (fun _ => True) (encodeChar (· = '"')) :=
  fun c d _ _ _ _ h => (charCode_encodeChar c).unique (charCode_encodeChar d) h

/-! ## Texts -/

theorem toList_text (s : String) :
    (text s).toList = '"' :: (s.toList.flatMap (encodeChar (· = '"')) ++ ['"']) := by
  simp [text, encode]

/-- **Quoted text determines what it quotes**, whatever follows. -/
theorem prefixFree_text : PrefixFree (fun _ => True) fun s => (text s).toList := by
  intro s t u v _ _ h
  simp only [toList_text, List.cons_append, List.cons.injEq, true_and] at h
  have hlist := prefixFree_encodeChar.flatMap
    (fun c u v _ => (charCode_encodeChar c).ne_mark u v) (by simp) (by simp) h
  exact ⟨String.toList_inj.1 hlist.1, hlist.2⟩

theorem newline_not_mem_text (s : String) : '\n' ∉ (text s).toList := by
  have hchar (c : Char) : '\n' ∉ encodeChar (· = '"') c :=
    (charCode_encodeChar c).newline_not_mem
  simp [toList_text, hchar]

end Quoted

end TagMarkup

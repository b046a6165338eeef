import Mathlib.Tactic.Common
import TagMarkup.Text.JsonString

/-!
# JSON objects

A JSON object on one line, and what it says. Its members are read one after the other, each of them
a key and a value, and a value is a truth value, a number without sign and fraction, or a string.
The escapes of a string are all those of JSON, but for halves of characters outside of the basic
plane.

**Theorem (`Json.isObject_write`).** What is written with `JsonString` reads as what it was written
from, and (`Json.IsObject.unique`) it does not read as anything else.
-/

namespace TagMarkup

namespace Json

/-- A value that is neither an object nor an array. -/
inductive Value where
  | truth (b : Bool)
  | number (n : Nat)
  | string (s : String)
deriving DecidableEq

/-! ## Reading -/

/-- The character that a single character behind a backslash stands for. -/
def shortEscape? : Char → Option Char
  | '"' => some '"'
  | '\\' => some '\\'
  | '/' => some '/'
  | 'b' => some '\x08'
  | 'f' => some '\x0c'
  | 'n' => some '\n'
  | 'r' => some '\r'
  | 't' => some '\t'
  | _ => none

/-- The value of a hexadecimal digit. -/
def hexDigit? (c : Char) : Option Nat :=
  if c.isDigit then some (c.toNat - '0'.toNat)
  else if 'a' ≤ c ∧ c ≤ 'f' then some (c.toNat - 'a'.toNat + 10)
  else if 'A' ≤ c ∧ c ≤ 'F' then some (c.toNat - 'A'.toNat + 10)
  else none

/-- The character with a number in hexadecimal digits. -/
def hexChar? (digits : List Char) : Option Char :=
  (digits.mapM hexDigit?).bind fun ds =>
    let n := ds.foldl (fun n d => 16 * n + d) 0
    if n.isValidChar then some (.ofNat n) else none

/-- The characters of a string up to its closing quotation mark, and what is behind it. -/
def readString? : List Char → Option (List Char × List Char)
  | '"' :: rest => some ([], rest)
  | '\\' :: 'u' :: a :: b :: c :: d :: rest =>
    (hexChar? [a, b, c, d]).bind fun x => (readString? rest).map fun (xs, rest) => (x :: xs, rest)
  | '\\' :: e :: rest =>
    (shortEscape? e).bind fun x => (readString? rest).map fun (xs, rest) => (x :: xs, rest)
  | x :: rest =>
    if x = '\\' ∨ x.toNat < 0x20 then none
    else (readString? rest).map fun (xs, rest) => (x :: xs, rest)
  | [] => none

/-- A number and what is behind it. No zero stands in front of other digits. -/
def readNumber? (text : List Char) : Option (Nat × List Char) :=
  let digits := text.takeWhile Char.isDigit
  if digits = [] ∨ digits.head? = some '0' ∧ digits ≠ ['0'] then none
  else some (Nat.ofDigitChars 10 digits 0, text.dropWhile Char.isDigit)

/-- A value and what is behind it. -/
def readValue? : List Char → Option (Value × List Char)
  | 't' :: 'r' :: 'u' :: 'e' :: rest => some (.truth true, rest)
  | 'f' :: 'a' :: 'l' :: 's' :: 'e' :: rest => some (.truth false, rest)
  | '"' :: rest => (readString? rest).map fun (cs, rest) => (.string (.ofList cs), rest)
  | text => (readNumber? text).map fun (n, rest) => (.number n, rest)

/-- A key with its value and what is behind them. -/
def readMember? : List Char → Option ((String × Value) × List Char)
  | '"' :: rest =>
    match readString? rest with
    | some (key, ':' :: rest) =>
      (readValue? rest).map fun (value, rest) => ((.ofList key, value), rest)
    | _ => none
  | _ => none

/-- From a member on, the text reads as these members up to the closing brace. -/
inductive IsMembers : List Char → List (String × Value) → Prop
  | last {text : List Char} {m : String × Value} : readMember? text = some (m, ['\x7d']) →
      IsMembers text [m]
  | cons {text rest : List Char} {m : String × Value} {ms : List (String × Value)} :
      readMember? text = some (m, ',' :: rest) → IsMembers rest ms → IsMembers text (m :: ms)

/-- The text is an object with these members. -/
def IsObject (text : String) (members : List (String × Value)) : Prop :=
  ∃ rest, text.toList = '\x7b' :: rest ∧ IsMembers rest members

theorem IsMembers.unique {text : List Char} {ms ms' : List (String × Value)}
    (h : IsMembers text ms) (h' : IsMembers text ms') : ms = ms' := by
  induction h generalizing ms' with
  | last hm =>
    cases h' with
    | last hm' => grind
    | cons hm' _ => grind
  | cons hm _ ih =>
    cases h' with
    | last hm' => grind
    | cons hm' hms => grind

/-- A text is one object at most. -/
theorem IsObject.unique {text : String} {ms ms' : List (String × Value)}
    (h : IsObject text ms) (h' : IsObject text ms') : ms = ms' := by
  obtain ⟨rest, htext, hms⟩ := h
  obtain ⟨rest', htext', hms'⟩ := h'
  obtain rfl : rest = rest' := by simpa using htext.symm.trans htext'
  exact hms.unique hms'

/-! ## Strings -/

theorem readString?_plain {c : Char} (rest : List Char) (hq : c ≠ '"') (hb : c ≠ '\\')
    (hc : 0x20 ≤ c.toNat) : readString? (c :: rest) =
      (readString? rest).map fun (xs, rest) => (c :: xs, rest) := by
  rw [readString?, if_neg (by simp [hb]; omega)]
  · exact hq
  · intro a b c d rest h
    exact absurd h hb
  · intro e rest h
    exact absurd h hb

theorem hexChar?_hex4 : ∀ n < 256, hexChar? (JsonString.hex4 n) = some (Char.ofNat n) := by
  decide +kernel

/-- What is written between quotation marks is read again, character by character. -/
theorem readString?_encode (cs rest : List Char) :
    readString? (JsonString.encode cs ++ '"' :: rest) = some (cs, rest) := by
  induction cs with
  | nil => rfl
  | cons c cs ih =>
    have happend : JsonString.encode (c :: cs) ++ '"' :: rest =
        JsonString.encodeChar c ++ (JsonString.encode cs ++ '"' :: rest) := by
      simp [JsonString.encode]
    rw [happend]
    unfold JsonString.encodeChar
    split
    case h_6 hq hb _ _ _ =>
      split_ifs with hcontrol
      · have hlt : c.toNat < 256 := by
          simp only [JsonString.isControl, Bool.or_eq_true, Bool.and_eq_true,
            decide_eq_true_eq] at hcontrol
          omega
        have hhex := hexChar?_hex4 c.toNat hlt
        rw [JsonString.hex4] at hhex
        simp [readString?, ih, JsonString.hex4, hhex]
      · simp only [JsonString.isControl, Bool.or_eq_true, decide_eq_true_eq, not_or] at hcontrol
        rw [List.singleton_append, readString?_plain _ hq hb (by omega), ih]
        rfl
    all_goals simp [readString?, ih, shortEscape?]

/-- Escapes that `JsonString` does not write are read as well. -/
example : readString? "a\\/\\u00E9\",".toList = some ("a/é".toList, [',']) := by decide

theorem toList_text (s : String) :
    (JsonString.text s).toList = '"' :: (JsonString.encode s.toList ++ ['"']) := by
  simp [JsonString.text]

theorem newline_not_mem_hex4 (n : Nat) : '\n' ∉ JsonString.hex4 n := by
  have hdigit : ∀ d < 16, '\n' ≠ Nat.digitChar d := by decide
  simp [JsonString.hex4, hdigit, Nat.mod_lt]

/-- A line feed is escaped. -/
theorem newline_not_mem_encodeChar (c : Char) : '\n' ∉ JsonString.encodeChar c := by
  unfold JsonString.encodeChar
  split
  case h_6 hn _ _ =>
    split_ifs
    · simp [newline_not_mem_hex4]
    · simpa using fun h => hn h.symm
  all_goals simp

theorem newline_not_mem_text (s : String) : '\n' ∉ (JsonString.text s).toList := by
  simp [toList_text, JsonString.encode, newline_not_mem_encodeChar]

/-! ## Numbers -/

/-- Only zero itself starts with the digit zero. -/
theorem toDigits_of_head?_eq_zero {n : Nat} (h : (Nat.toDigits 10 n).head? = some '0') :
    Nat.toDigits 10 n = ['0'] := by
  induction n using Nat.strongRecOn with
  | _ n ih =>
    by_cases hlt : n < 10
    · rw [Nat.toDigits_of_lt_base hlt] at h ⊢
      simpa using h
    · rw [Nat.toDigits_of_base_le (by omega) (by omega)] at h
      rw [List.head?_append, List.head?_eq_some_head Nat.toDigits_ne_nil, Option.some_or,
        ← List.head?_eq_some_head Nat.toDigits_ne_nil] at h
      -- the digits in front are those of zero, but there is more than one digit
      have hdigits := ih (n / 10) (by omega) h
      have hzero : n / 10 = 0 := by
        rw [← Nat.ofDigitChars_ten_toDigits (n := n / 10), hdigits]
        rfl
      omega

theorem isDigit_of_mem_toDigits {n : Nat} {c : Char} (h : c ∈ Nat.toDigits 10 n) :
    c.isDigit = true := Nat.isDigit_of_mem_toDigits (by omega) (by omega) h

theorem newline_not_mem_toDigits (n : Nat) : '\n' ∉ Nat.toDigits 10 n :=
  fun h => absurd (isDigit_of_mem_toDigits h) (by decide)

theorem readNumber?_toDigits (n : Nat) {c : Char} (hc : c.isDigit = false) (rest : List Char) :
    readNumber? (Nat.toDigits 10 n ++ c :: rest) = some (n, c :: rest) := by
  have htake : (Nat.toDigits 10 n ++ c :: rest).takeWhile Char.isDigit = Nat.toDigits 10 n := by
    rw [List.takeWhile_append_of_pos fun d hd => isDigit_of_mem_toDigits hd]
    simp [hc]
  have hdrop : (Nat.toDigits 10 n ++ c :: rest).dropWhile Char.isDigit = c :: rest := by
    rw [List.dropWhile_append_of_pos fun d hd => isDigit_of_mem_toDigits hd]
    simp [hc]
  have hvalid : ¬ (Nat.toDigits 10 n = [] ∨
      (Nat.toDigits 10 n).head? = some '0' ∧ Nat.toDigits 10 n ≠ ['0']) := by
    rintro (h | ⟨h, hne⟩)
    · exact Nat.toDigits_ne_nil h
    · exact hne (toDigits_of_head?_eq_zero h)
  simp only [readNumber?, htake, hdrop]
  rw [if_neg hvalid, Nat.ofDigitChars_ten_toDigits]

/-! ## Writing -/

/-- A value as it is written. -/
def Value.write : Value → List Char
  | truth b => if b then "true".toList else "false".toList
  | number n => (toString n).toList
  | string s => (JsonString.text s).toList

/-- A key and its value. -/
def writeMember (m : String × Value) : List Char :=
  (JsonString.text m.1).toList ++ ':' :: m.2.write

/-- Members up to the closing brace. -/
def writeMembers : List (String × Value) → List Char
  | [] => ['\x7d']
  | [m] => writeMember m ++ ['\x7d']
  | m :: ms => writeMember m ++ ',' :: writeMembers ms

/-- An object. -/
def write (members : List (String × Value)) : String := .ofList ('\x7b' :: writeMembers members)

theorem readValue?_write (v : Value) {c : Char} (hc : c.isDigit = false) (rest : List Char) :
    readValue? (v.write ++ c :: rest) = some (v, c :: rest) := by
  cases v with
  | truth b => cases b <;> rfl
  | string s => simp [Value.write, toList_text, readValue?, readString?_encode]
  | number n =>
    have hn := readNumber?_toDigits n hc rest
    rw [Value.write, Nat.toString_eq_ofList_toDigits, String.toList_ofList]
    -- the first character is a digit, so nothing but a number is read
    cases hdigits : Nat.toDigits 10 n with
    | nil => exact absurd hdigits Nat.toDigits_ne_nil
    | cons d ds =>
      have hd : d.isDigit = true := isDigit_of_mem_toDigits (n := n) (by simp [hdigits])
      rw [hdigits, List.cons_append] at hn
      rw [List.cons_append, readValue?, hn]
      · rfl
      all_goals
        intro _ h
        rw [(List.cons.inj h).1] at hd
        exact absurd hd (by decide)

theorem readMember?_writeMember (m : String × Value) {c : Char} (hc : c.isDigit = false)
    (rest : List Char) : readMember? (writeMember m ++ c :: rest) = some (m, c :: rest) := by
  simp [writeMember, toList_text, readMember?, readString?_encode, readValue?_write _ hc]

theorem isMembers_writeMembers {ms : List (String × Value)} (hms : ms ≠ []) :
    IsMembers (writeMembers ms) ms := by
  induction ms with
  | nil => exact absurd rfl hms
  | cons m ms ih =>
    cases ms with
    | nil => exact .last (readMember?_writeMember m rfl [])
    | cons m' ms => exact .cons (readMember?_writeMember m rfl _) (ih (by simp))

/-- What is written reads as it was meant. -/
theorem isObject_write {ms : List (String × Value)} (hms : ms ≠ []) : IsObject (write ms) ms :=
  ⟨writeMembers ms, by simp [write], isMembers_writeMembers hms⟩

/-- What is written reads as nothing else. -/
theorem isObject_write_iff {ms : List (String × Value)} (hms : ms ≠ [])
    (ms' : List (String × Value)) : IsObject (write ms) ms' ↔ ms' = ms := by
  refine ⟨fun h => h.unique (isObject_write hms), ?_⟩
  rintro rfl
  exact isObject_write hms

theorem newline_not_mem_value (v : Value) : '\n' ∉ v.write := by
  cases v with
  | truth b => cases b <;> decide
  | string s => exact newline_not_mem_text s
  | number n =>
    rw [Value.write, Nat.toString_eq_ofList_toDigits, String.toList_ofList]
    exact newline_not_mem_toDigits n

/-- An object is written on one line. -/
theorem newline_not_mem_write (ms : List (String × Value)) : '\n' ∉ (write ms).toList := by
  have hmember (m : String × Value) : '\n' ∉ writeMember m := by
    simp [writeMember, newline_not_mem_text, newline_not_mem_value]
  have hmembers : '\n' ∉ writeMembers ms := by
    induction ms with
    | nil => decide
    | cons m ms ih => cases ms <;> simp_all [writeMembers]
  simpa [write] using hmembers

end Json

end TagMarkup

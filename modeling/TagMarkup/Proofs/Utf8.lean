import Mathlib.Tactic.Common
import TagMarkup.Text.Utf8

/-!
# Texts as bytes

The bytes of a text are those of its characters, one after the other (`encodeUtf8_eq`), and they are
the only bytes that are decoded to it (`decodeUtf8?_eq_some_iff`).

A byte below 128 stands for the ASCII character with its number and for nothing else, so such a
character is found in a text by its byte: anywhere (`mem_encodeUtf8_iff`), as often as it is there
(`count_encodeUtf8`), or at the end (`getLast?_encodeUtf8_eq_iff`).
-/

namespace TagMarkup

/-! ## Encoding and decoding -/

theorem toList_loop (bytes : ByteArray) {unread i : Nat} (h : bytes.size = i + unread)
    (read : List UInt8) :
    ByteArray.toList.loop bytes i read = read.reverse ++ bytes.data.toList.drop i := by
  have hlength : bytes.data.toList.length = bytes.size := Array.length_toList
  induction unread generalizing i read with
  | zero =>
    rw [ByteArray.toList.loop, if_neg (by omega), List.drop_eq_nil_of_le (by omega),
      List.append_nil]
  | succ unread ih =>
    have hi : i < bytes.size := by omega
    have hget : bytes.get! i = bytes.data[i] := getElem!_pos bytes.data i hi
    have hdrop : bytes.data.toList.drop i = bytes.data[i] :: bytes.data.toList.drop (i + 1) :=
      List.drop_eq_getElem_cons (hlength ▸ hi)
    rw [ByteArray.toList.loop, if_pos hi, ih (by omega), hdrop, hget, List.reverse_cons,
      List.append_assoc, List.singleton_append]

theorem toList_eq_data_toList (bytes : ByteArray) : bytes.toList = bytes.data.toList := by
  rw [ByteArray.toList, toList_loop bytes (Nat.zero_add bytes.size).symm]
  rfl

/-- The bytes of a text are those of its characters. -/
theorem encodeUtf8_eq (text : String) :
    encodeUtf8 text = text.toList.flatMap String.utf8EncodeChar := by
  have hbytes : text.toUTF8 = (text.toList.flatMap String.utf8EncodeChar).toByteArray := by
    rw [String.toUTF8_eq_toByteArray, ← List.utf8Encode, ← String.toByteArray_ofList,
      String.ofList_toList]
  rw [encodeUtf8, hbytes, toList_eq_data_toList, List.toList_data_toByteArray]

@[simp] theorem encodeUtf8_empty : encodeUtf8 "" = [] := by
  rw [encodeUtf8_eq]
  rfl

@[simp] theorem encodeUtf8_append (s t : String) :
    encodeUtf8 (s ++ t) = encodeUtf8 s ++ encodeUtf8 t := by
  simp [encodeUtf8_eq]

/-- Bytes are decoded to a text exactly if they are the bytes of the text. -/
theorem decodeUtf8?_eq_some_iff {bytes : List UInt8} {text : String} :
    decodeUtf8? bytes = some text ↔ bytes = encodeUtf8 text := by
  unfold decodeUtf8? String.fromUTF8? encodeUtf8
  rw [toList_eq_data_toList, String.toUTF8_eq_toByteArray]
  refine ⟨fun h => ?_, ?_⟩
  · split_ifs at h
    cases h
    rfl
  · rintro rfl
    rw [dif_pos text.isValidUTF8]
    rfl

@[simp] theorem decodeUtf8?_encodeUtf8 (text : String) :
    decodeUtf8? (encodeUtf8 text) = some text := decodeUtf8?_eq_some_iff.2 rfl

theorem decodeUtf8?_nil : decodeUtf8? [] = some "" := rfl

/-- The bytes of a text are as many as were decoded. -/
theorem utf8ByteSize_of_decodeUtf8? {bytes : List UInt8} {text : String}
    (h : decodeUtf8? bytes = some text) : text.utf8ByteSize = bytes.length := by
  unfold decodeUtf8? String.fromUTF8? at h
  split_ifs at h
  cases h
  rfl

theorem length_encodeUtf8 (text : String) : (encodeUtf8 text).length = text.utf8ByteSize :=
  (utf8ByteSize_of_decodeUtf8? (decodeUtf8?_encodeUtf8 text)).symm

theorem isEmpty_of_decodeUtf8? {bytes : List UInt8} {text : String}
    (h : decodeUtf8? bytes = some text) : text.isEmpty = true ↔ bytes = [] := by
  rw [String.isEmpty_iff_utf8ByteSize_eq_zero, utf8ByteSize_of_decodeUtf8? h,
    List.length_eq_zero_iff]

/-! ## ASCII characters -/

/-- A character of ASCII is a byte below 128, and the bytes of all other characters are above. -/
theorem utf8EncodeChar_cases (c : Char) :
    c.toNat < 128 ∧ String.utf8EncodeChar c = [UInt8.ofNat c.toNat] ∨
      128 ≤ c.toNat ∧ ∀ b ∈ String.utf8EncodeChar c, 128 ≤ b.toNat := by
  have hcode : c.val.toNat = c.toNat := rfl
  have hhigh : ∀ n, 128 ≤ n → n < 256 → 128 ≤ (UInt8.ofNat n).toNat := by
    intro n hle hlt
    rwa [UInt8.toNat_ofNat', Nat.mod_eq_of_lt hlt]
  by_cases hc : c.toNat < 128
  · refine .inl ⟨hc, ?_⟩
    rw [String.utf8EncodeChar, hcode, if_pos (by omega)]
  · refine .inr ⟨by omega, fun b hb => ?_⟩
    rw [String.utf8EncodeChar, hcode, if_neg (by omega)] at hb
    split_ifs at hb <;> simp only [List.mem_cons, List.not_mem_nil, or_false] at hb
    · rcases hb with rfl | rfl <;> exact hhigh _ (by omega) (by omega)
    · rcases hb with rfl | rfl | rfl <;> exact hhigh _ (by omega) (by omega)
    · rcases hb with rfl | rfl | rfl | rfl <;> exact hhigh _ (by omega) (by omega)

theorem utf8EncodeChar_of_lt {c : Char} (h : c.toNat < 128) :
    String.utf8EncodeChar c = [UInt8.ofNat c.toNat] := by
  rcases utf8EncodeChar_cases c with ⟨-, hc⟩ | ⟨hle, -⟩
  · exact hc
  · omega

/-- The byte of a character of ASCII is a byte of no other character. -/
theorem eq_of_mem_utf8EncodeChar {a c : Char} (ha : a.toNat < 128)
    (h : UInt8.ofNat a.toNat ∈ String.utf8EncodeChar c) : c = a := by
  have hbyte : (UInt8.ofNat a.toNat).toNat = a.toNat := by
    rw [UInt8.toNat_ofNat', Nat.mod_eq_of_lt (by omega)]
  rcases utf8EncodeChar_cases c with ⟨hc, heq⟩ | ⟨-, hhigh⟩
  · rw [heq, List.mem_singleton] at h
    have hcodes := congrArg UInt8.toNat h
    rw [hbyte, UInt8.toNat_ofNat', Nat.mod_eq_of_lt (by omega)] at hcodes
    exact Char.toNat_inj.1 hcodes.symm
  · have hle := hhigh _ h
    omega

/-- A character of ASCII is in a text exactly if its byte is. -/
theorem mem_encodeUtf8_iff {a : Char} (ha : a.toNat < 128) (text : String) :
    UInt8.ofNat a.toNat ∈ encodeUtf8 text ↔ a ∈ text.toList := by
  rw [encodeUtf8_eq, List.mem_flatMap]
  refine ⟨fun ⟨c, hc, hmem⟩ => ?_, fun h => ⟨a, h, ?_⟩⟩
  · rwa [← eq_of_mem_utf8EncodeChar ha hmem]
  · rw [utf8EncodeChar_of_lt ha]
    exact List.mem_singleton_self _

/-- A character of ASCII is in a text as often as its byte. -/
theorem count_encodeUtf8 {a : Char} (ha : a.toNat < 128) (text : String) :
    (encodeUtf8 text).count (UInt8.ofNat a.toNat) = text.toList.count a := by
  rw [encodeUtf8_eq]
  induction text.toList with
  | nil => rfl
  | cons c cs ih =>
    rw [List.flatMap_cons, List.count_append, ih, List.count_cons, Nat.add_comm]
    congr 1
    by_cases hc : c = a
    · subst hc
      rw [utf8EncodeChar_of_lt ha]
      simp
    · rw [List.count_eq_zero_of_not_mem (mt (eq_of_mem_utf8EncodeChar ha) hc)]
      simp [hc]

/-- A text ends with a character of ASCII exactly if its bytes end with that of the character. -/
theorem getLast?_encodeUtf8_eq_iff {a : Char} (ha : a.toNat < 128) (text : String) :
    (encodeUtf8 text).getLast? = some (UInt8.ofNat a.toNat) ↔ text.toList.getLast? = some a := by
  rw [encodeUtf8_eq]
  rcases List.eq_nil_or_concat text.toList with hnil | ⟨front, c, hlast⟩
  · simp [hnil]
  · rw [hlast, List.concat_eq_append, List.flatMap_append, List.flatMap_singleton,
      List.getLast?_append, List.getLast?_concat]
    refine ⟨fun h => ?_, fun h => ?_⟩
    · rw [List.getLast?_eq_some_getLast String.utf8EncodeChar_ne_nil, Option.some_or] at h
      have hmem := List.getLast_mem (String.utf8EncodeChar_ne_nil (c := c))
      rw [Option.some.inj h] at hmem
      rw [eq_of_mem_utf8EncodeChar ha hmem]
    · obtain rfl : c = a := by simpa using h
      rw [utf8EncodeChar_of_lt ha]
      rfl

end TagMarkup

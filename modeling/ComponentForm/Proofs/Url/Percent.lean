import ComponentForm.Url.Percent
import Mathlib.Data.List.Basic

/-! Undoing escapes. A text that was escaped by a set that escapes the percent sign holds no escapes but
those written for it, and so it is read back as the bytes of the text. -/
namespace ComponentForm.Url

theorem toList_loop_eq (bytes : ByteArray) (i : Nat) (read : List UInt8) :
    ByteArray.toList.loop bytes i read = read.reverse ++ bytes.data.toList.drop i := by
  fun_induction ByteArray.toList.loop bytes i read with
  | case1 i read hi ih =>
    have hget : bytes.data.toList.drop i = bytes.get! i :: bytes.data.toList.drop (i + 1) := by
      rw [List.drop_eq_getElem_cons (by simpa using hi)]
      simp [ByteArray.get!, hi]
    rw [ih, hget, List.reverse_cons, List.append_assoc, List.singleton_append]
  | case2 i read hi =>
    rw [List.drop_eq_nil_of_le (by simpa using hi), List.append_nil]

theorem toList_eq_data (bytes : ByteArray) : bytes.toList = bytes.data.toList := by
  rw [ByteArray.toList, toList_loop_eq, List.reverse_nil, List.nil_append, List.drop_zero]

theorem bytesOf_eq (c : Char) : bytesOf c = String.utf8EncodeChar c := by
  rw [bytesOf, toList_eq_data, String.toUTF8_eq_toByteArray, String.toByteArray_singleton,
    List.utf8Encode_singleton, List.toList_data_toByteArray]

theorem digitValue?_upperHexDigit :
    ∀ n, n < 16 → Text.digitValue? 16 (Text.upperHexDigit n) = some n := by
  decide

theorem unescape_escapedByte (b : UInt8) (rest : List Char) :
    unescape (escapedByte b ++ rest) = b :: unescape rest := by
  have hbyte : b.toNat < 256 := b.toNat_lt
  have hhigh := digitValue?_upperHexDigit (b.toNat / 16) (by omega)
  have hlow := digitValue?_upperHexDigit (b.toNat % 16) (by omega)
  have hnumber : b.toNat / 16 * 16 + b.toNat % 16 = b.toNat := by omega
  have hback : b.toNat.toUInt8 = b := by simp
  simp only [escapedByte, List.cons_append, List.nil_append, unescape, hhigh, hlow, hnumber, hback]

theorem unescape_escapedBytes (bytes : List UInt8) (rest : List Char) :
    unescape (bytes.flatMap escapedByte ++ rest) = bytes ++ unescape rest := by
  induction bytes with
  | nil => rfl
  | cons b bytes ih =>
    rw [List.flatMap_cons, List.append_assoc, unescape_escapedByte, ih, List.cons_append]

theorem unescape_cons {c : Char} (h : c ≠ '%') (rest : List Char) :
    unescape (c :: rest) = bytesOf c ++ unescape rest := by
  rw [unescape]
  exact fun _ _ _ hc _ => h hc

variable {set : EscapeSet}

theorem unescape_escapeChar (hset : set '%' = true) (c : Char) (rest : List Char) :
    unescape (escapeChar set c ++ rest) = bytesOf c ++ unescape rest := by
  rw [escapeChar]
  split
  case isTrue _ => exact unescape_escapedBytes (bytesOf c) rest
  case isFalse h =>
    have hc : c ≠ '%' := by
      rintro rfl
      exact h hset
    rw [List.singleton_append, unescape_cons hc]

theorem unescape_escape (hset : set '%' = true) (cs : List Char) :
    unescape (escape set cs) = cs.flatMap bytesOf := by
  induction cs with
  | nil => rfl
  | cons c cs ih =>
    rw [escape, List.flatMap_cons, unescape_escapeChar hset, ← escape, ih, List.flatMap_cons]

/-- What holds of the marks and digits of escapes, and of the characters outside the set, holds of all
characters of an escaped text. -/
theorem forall_mem_escape {p : Char → Prop} (hkept : ∀ c, set c = false → p c) (hmark : p '%')
    (hdigit : ∀ n, n < 16 → p (Text.upperHexDigit n)) (cs : List Char) :
    ∀ c ∈ escape set cs, p c := by
  intro c hc
  obtain ⟨c', -, hc⟩ := List.mem_flatMap.mp hc
  rw [escapeChar] at hc
  split at hc
  case isTrue _ =>
    obtain ⟨b, -, hb⟩ := List.mem_flatMap.mp hc
    have hbyte : b.toNat < 256 := b.toNat_lt
    simp only [escapedByte, List.mem_cons, List.not_mem_nil, or_false] at hb
    obtain rfl | rfl | rfl := hb
    · exact hmark
    · exact hdigit _ (by omega)
    · exact hdigit _ (by omega)
  case isFalse hset =>
    obtain rfl := List.mem_singleton.mp hc
    exact hkept c (Bool.eq_false_iff.mpr hset)

/-- The text that an escaped text stands for, where its bytes are one. -/
def decoded? (s : String) : Option String :=
  String.fromUTF8? (ByteArray.mk (unescape s.toList).toArray)

theorem decoded?_escape (hset : set '%' = true) (cs : List Char) :
    decoded? (String.ofList (escape set cs)) = some (String.ofList cs) := by
  have hbytes : ByteArray.mk (cs.flatMap bytesOf).toArray = (String.ofList cs).toByteArray := by
    have hchar : bytesOf = String.utf8EncodeChar := funext bytesOf_eq
    rw [String.toByteArray_ofList, List.utf8Encode, hchar]
    exact ByteArray.ext (List.data_toByteArray).symm
  rw [decoded?, String.toList_ofList, unescape_escape hset, hbytes, String.fromUTF8?]
  split
  case isTrue _ => rfl
  case isFalse hvalid => exact absurd (String.ofList cs).isValidUTF8 hvalid

end ComponentForm.Url

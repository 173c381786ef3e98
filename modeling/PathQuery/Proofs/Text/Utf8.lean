import PathQuery.Text.Utf8
import Mathlib.Data.List.Basic

/-!
UTF-8 there and back. What is read from the bytes of a text is the text, and no
bytes that can be read start like compressed data.
-/
namespace PathQuery.Utf8

variable {index : Nat} {rest : List UInt8}

theorem toList_loop_eq (bytes : ByteArray) (i : Nat) (front : List UInt8) :
    ByteArray.toList.loop bytes i front = front.reverse ++ bytes.data.toList.drop i := by
  fun_induction ByteArray.toList.loop bytes i front with
  | case1 i front h ih =>
    have hi : i < bytes.data.toList.length := h
    rw [ih, List.drop_eq_getElem_cons hi, List.reverse_cons, List.append_assoc]
    have here : bytes.get! i = bytes.data.toList[i] := getElem!_pos bytes.data i h
    rw [here]
    rfl
  | case2 i front h =>
    have hi : bytes.data.toList.length ≤ i := Nat.le_of_not_lt h
    rw [List.drop_eq_nil_of_le hi, List.append_nil]

theorem encode_eq_flatMap (s : String) : encode s = s.toList.flatMap String.utf8EncodeChar := by
  have bytes : s.toUTF8 = (s.toList.flatMap String.utf8EncodeChar).toByteArray := by
    have chars : (String.ofList s.toList).toByteArray = s.toList.utf8Encode :=
      String.toByteArray_ofList
    rwa [String.ofList_toList] at chars
  rw [encode, bytes, ByteArray.toList, toList_loop_eq, List.toList_data_toByteArray]
  rfl

theorem toNat_ofNat {n : Nat} (h : n < 256) : (UInt8.ofNat n).toNat = n :=
  UInt8.toNat_ofNat_of_lt' h

theorem isTail_ofNat (n : Nat) : isTail (UInt8.ofNat (n % 64 + 0x80)) = true := by
  have hn := toNat_ofNat (n := n % 64 + 0x80) (by omega)
  simp only [isTail, UInt8.le_iff_toNat_le, hn, Bool.and_eq_true, decide_eq_true_eq]
  exact ⟨Nat.le_add_left _ _, by change n % 64 + 128 ≤ 191; omega⟩

theorem tailBits_ofNat (n : Nat) : tailBits (UInt8.ofNat (n % 64 + 0x80)) = n % 64 := by
  rw [tailBits, toNat_ofNat (by omega)]
  omega

section Steps

variable {a b c d m n : UInt8}

theorem not_lt_of_le_of_le (hmn : m ≤ n) (h : n ≤ a) : ¬ a < m :=
  UInt8.not_lt.mpr (UInt8.le_trans hmn h)

theorem not_lt_of_lt_of_le (h : a < m) (hmn : m ≤ n) : ¬ n < a :=
  UInt8.not_lt.mpr (UInt8.le_trans (UInt8.le_of_lt h) hmn)

theorem decodeFrom_one (h : a < 0x80) : decodeFrom index (a :: rest) =
    (decodeFrom (index + 1) rest).map (Char.ofNat a.toNat :: ·) := by
  rw [decodeFrom.eq_def]
  exact if_pos h

theorem decodeFrom_two (lower : 0xc2 ≤ a) (upper : a < 0xe0) (tail : isTail b = true) :
    decodeFrom index (a :: b :: rest) = (decodeFrom (index + 2) rest).map
      (Char.ofNat (a.toNat % 32 * 64 + tailBits b) :: ·) := by
  have more : ¬ a < 0x80 := not_lt_of_le_of_le (by decide) lower
  have starts : ¬ (a < 0xc2 ∨ 0xf4 < a) :=
    not_or.mpr ⟨UInt8.not_lt.mpr lower, not_lt_of_lt_of_le upper (by decide)⟩
  rw [decodeFrom.eq_def]
  simp only [more, starts, upper, tail, ↓reduceIte]

theorem decodeFrom_three (lower : 0xe0 ≤ a) (upper : a < 0xf0) (second : secondFits a b = true)
    (tail : isTail c = true) :
    decodeFrom index (a :: b :: c :: rest) = (decodeFrom (index + 3) rest).map
      (Char.ofNat ((a.toNat % 16 * 64 + tailBits b) * 64 + tailBits c) :: ·) := by
  have more : ¬ a < 0x80 := not_lt_of_le_of_le (by decide) lower
  have starts : ¬ (a < 0xc2 ∨ 0xf4 < a) :=
    not_or.mpr ⟨not_lt_of_le_of_le (by decide) lower, not_lt_of_lt_of_le upper (by decide)⟩
  rw [decodeFrom.eq_def]
  simp only [more, starts, UInt8.not_lt.mpr lower, upper, second, tail, Bool.not_true,
    Bool.false_eq_true, ↓reduceIte]

theorem decodeFrom_four (lower : 0xf0 ≤ a) (upper : a ≤ 0xf4) (second : secondFits a b = true)
    (tail : isTail c = true) (tail' : isTail d = true) :
    decodeFrom index (a :: b :: c :: d :: rest) = (decodeFrom (index + 4) rest).map
      (Char.ofNat (((a.toNat % 8 * 64 + tailBits b) * 64 + tailBits c) * 64 + tailBits d) :: ·) := by
  have more : ¬ a < 0x80 := not_lt_of_le_of_le (by decide) lower
  have starts : ¬ (a < 0xc2 ∨ 0xf4 < a) :=
    not_or.mpr ⟨not_lt_of_le_of_le (by decide) lower, UInt8.not_lt.mpr upper⟩
  have wide : ¬ a < 0xe0 := not_lt_of_le_of_le (by decide) lower
  rw [decodeFrom.eq_def]
  simp only [more, starts, wide, UInt8.not_lt.mpr lower, second, tail, tail', Bool.not_true,
    Bool.false_eq_true, ↓reduceIte]

end Steps

theorem secondFits_iff (a b : UInt8) : secondFits a b = true ↔ isTail b = true ∧
    (a.toNat = 0xe0 → 0xa0 ≤ b.toNat) ∧ (a.toNat = 0xed → b.toNat ≤ 0x9f) ∧
      (a.toNat = 0xf0 → 0x90 ≤ b.toNat) ∧ (a.toNat = 0xf4 → b.toNat ≤ 0x8f) := by
  simp only [secondFits, isTail, ← UInt8.toNat_inj, Bool.and_eq_true, decide_eq_true_eq,
    UInt8.le_iff_toNat_le, UInt8.reduceToNat]
  split_ifs <;> simp <;> omega

section Codes

variable {n : Nat}

theorem decodeFrom_code_two (low : 0x80 ≤ n) (high : n < 0x800) :
    decodeFrom index
        (UInt8.ofNat (n / 64 % 32 + 0xc0) :: UInt8.ofNat (n % 64 + 0x80) :: rest) =
      (decodeFrom (index + 2) rest).map (Char.ofNat n :: ·) := by
  have first := toNat_ofNat (n := n / 64 % 32 + 0xc0) (by omega)
  have lower : 0xc2 ≤ UInt8.ofNat (n / 64 % 32 + 0xc0) := by
    rw [UInt8.le_iff_toNat_le, first]
    change 194 ≤ _
    omega
  have upper : UInt8.ofNat (n / 64 % 32 + 0xc0) < 0xe0 := by
    rw [UInt8.lt_iff_toNat_lt, first]
    change _ < 224
    omega
  have value : (n / 64 % 32 + 0xc0) % 32 * 64 + n % 64 = n := by omega
  rw [decodeFrom_two lower upper (isTail_ofNat n), first, tailBits_ofNat, value]

theorem decodeFrom_code_three (low : 0x800 ≤ n) (high : n < 0x10000)
    (valid : n < 0xd800 ∨ 0xdfff < n) :
    decodeFrom index (UInt8.ofNat (n / 4096 % 16 + 0xe0) :: UInt8.ofNat (n / 64 % 64 + 0x80) ::
        UInt8.ofNat (n % 64 + 0x80) :: rest) =
      (decodeFrom (index + 3) rest).map (Char.ofNat n :: ·) := by
  have first := toNat_ofNat (n := n / 4096 % 16 + 0xe0) (by omega)
  have next := toNat_ofNat (n := n / 64 % 64 + 0x80) (by omega)
  have lower : 0xe0 ≤ UInt8.ofNat (n / 4096 % 16 + 0xe0) := by
    rw [UInt8.le_iff_toNat_le, first]
    exact Nat.le_add_left _ _
  have upper : UInt8.ofNat (n / 4096 % 16 + 0xe0) < 0xf0 := by
    rw [UInt8.lt_iff_toNat_lt, first]
    change _ < 240
    omega
  have second : secondFits (UInt8.ofNat (n / 4096 % 16 + 0xe0))
      (UInt8.ofNat (n / 64 % 64 + 0x80)) = true := by
    rw [secondFits_iff, first, next]
    exact ⟨isTail_ofNat _, by omega, by omega, by omega, by omega⟩
  have value : ((n / 4096 % 16 + 0xe0) % 16 * 64 + n / 64 % 64) * 64 + n % 64 = n := by omega
  rw [decodeFrom_three lower upper second (isTail_ofNat n), first, tailBits_ofNat, tailBits_ofNat,
    value]

theorem decodeFrom_code_four (low : 0x10000 ≤ n) (high : n < 0x110000) :
    decodeFrom index (UInt8.ofNat (n / 262144 % 8 + 0xf0) :: UInt8.ofNat (n / 4096 % 64 + 0x80) ::
        UInt8.ofNat (n / 64 % 64 + 0x80) :: UInt8.ofNat (n % 64 + 0x80) :: rest) =
      (decodeFrom (index + 4) rest).map (Char.ofNat n :: ·) := by
  have first := toNat_ofNat (n := n / 262144 % 8 + 0xf0) (by omega)
  have next := toNat_ofNat (n := n / 4096 % 64 + 0x80) (by omega)
  have lower : 0xf0 ≤ UInt8.ofNat (n / 262144 % 8 + 0xf0) := by
    rw [UInt8.le_iff_toNat_le, first]
    exact Nat.le_add_left _ _
  have upper : UInt8.ofNat (n / 262144 % 8 + 0xf0) ≤ 0xf4 := by
    rw [UInt8.le_iff_toNat_le, first]
    change _ ≤ 244
    omega
  have second : secondFits (UInt8.ofNat (n / 262144 % 8 + 0xf0))
      (UInt8.ofNat (n / 4096 % 64 + 0x80)) = true := by
    rw [secondFits_iff, first, next]
    exact ⟨isTail_ofNat _, by omega, by omega, by omega, by omega⟩
  have value : (((n / 262144 % 8 + 0xf0) % 8 * 64 + n / 4096 % 64) * 64 + n / 64 % 64) * 64 +
      n % 64 = n := by omega
  rw [decodeFrom_four lower upper second (isTail_ofNat _) (isTail_ofNat n), first, tailBits_ofNat,
    tailBits_ofNat, tailBits_ofNat, value]

end Codes

theorem decodeFrom_append (index : Nat) (c : Char) (rest : List UInt8) :
    decodeFrom index (String.utf8EncodeChar c ++ rest) =
      (decodeFrom (index + (String.utf8EncodeChar c).length) rest).map (c :: ·) := by
  have char : Char.ofNat c.val.toNat = c := Char.ofNat_toNat c
  have valid : c.val.toNat < 0xd800 ∨ 0xdfff < c.val.toNat ∧ c.val.toNat < 0x110000 := c.valid
  unfold String.utf8EncodeChar
  generalize c.val.toNat = n at char valid
  subst char
  dsimp only
  split_ifs with one two three
  · have code := toNat_ofNat (n := n) (by omega)
    have small : UInt8.ofNat n < 0x80 := by
      rw [UInt8.lt_iff_toNat_lt, code]
      exact Nat.lt_succ_of_le one
    exact (decodeFrom_one small).trans (by rw [code]; rfl)
  · exact decodeFrom_code_two (by omega) (by omega)
  · exact decodeFrom_code_three (by omega) (by omega) (by omega)
  · exact decodeFrom_code_four (by omega) (by omega)

theorem decodeFrom_flatMap (index : Nat) (cs : List Char) :
    decodeFrom index (cs.flatMap String.utf8EncodeChar) = .ok cs := by
  induction cs generalizing index with
  | nil => rfl
  | cons c cs ih =>
    rw [List.flatMap_cons, decodeFrom_append, ih]
    rfl

/-- What is read from the bytes of a text is the text. -/
theorem decode_encode (s : String) : decode (encode s) = .ok s := by
  rw [decode, encode_eq_flatMap, decodeFrom_flatMap]
  exact congrArg Except.ok String.ofList_toList

end PathQuery.Utf8

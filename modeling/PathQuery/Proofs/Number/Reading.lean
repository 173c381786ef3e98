import PathQuery.Proofs.Number.Decimal
import PathQuery.Proofs.Number.Integer
import PathQuery.Proofs.Number.Shortest
import PathQuery.Proofs.Text.Digits

/-!
Reading back the text of a number. Positional notation denotes the decimal it is
made of, and the shortest decimal of a number is rounded to the number, so every
text but the one of what is not a number gives back the number it was made from.
-/
namespace PathQuery

namespace Decimal

def ofDigitChars (cs : List Char) : Nat := Text.ofDigits 10 (cs.map fun c => c.toNat - '0'.toNat)

theorem ofDigitChars_append (as bs : List Char) :
    ofDigitChars (as ++ bs) = ofDigitChars as * 10 ^ bs.length + ofDigitChars bs := by
  simp only [ofDigitChars, Text.ofDigits_eq, List.map_append, List.reverse_append,
    Nat.ofDigits_append, List.length_reverse, List.length_map]
  rw [Nat.add_comm, Nat.mul_comm]

theorem ofDigitChars_zeros (n : Nat) : ofDigitChars (List.replicate n '0') = 0 := by
  induction n with
  | zero => rfl
  | succ n ih =>
    rw [List.replicate_succ', ofDigitChars_append, ih, Nat.zero_mul, Nat.zero_add]
    rfl

theorem isDigit_of_mem_zeros {n : Nat} {c : Char} (h : c ∈ List.replicate n '0') : c.isDigit := by
  rw [List.eq_of_mem_replicate h]
  rfl

theorem isDigit_of_mem_digitText {d : Decimal} {c : Char} (h : c ∈ d.digitText) : c.isDigit := by
  rw [digitText, Nat.toList_repr] at h
  exact Nat.isDigit_of_mem_toDigits (by decide) (by decide) h

theorem ofDigitChars_digitText (d : Decimal) : ofDigitChars d.digitText = d.digits := by
  have hread := Text.nat?_toDigits d.digits
  rw [Text.nat?_ten_eq_some_iff] at hread
  rw [ofDigitChars, Text.ofDigits_eq, digitText, Nat.toList_repr]
  exact hread.2.2

theorem ofDigitChars_zeros_append (n : Nat) (d : Decimal) :
    ofDigitChars (['0'] ++ (List.replicate n '0' ++ d.digitText)) = d.digits := by
  rw [ofDigitChars_append, ofDigitChars_append, ofDigitChars_zeros, ofDigitChars_digitText]
  simp [ofDigitChars, Text.ofDigits]

end Decimal

namespace Binary64

open Decimal (ofDigitChars)

variable {d : Decimal}

theorem readDigits_append {ds rest : List Char} (hds : ∀ c ∈ ds, c.isDigit)
    (hrest : ∀ c ∈ rest.head?, ¬ c.isDigit) :
    readDigits (ds ++ rest) = (ofDigitChars ds, ds.length, rest) := by
  have hstop : rest.takeWhile Char.isDigit = [] ∧ rest.dropWhile Char.isDigit = rest := by
    cases rest with
    | nil => exact ⟨rfl, rfl⟩
    | cons c cs =>
      have hc := hrest c rfl
      simp [hc]
  rw [readDigits, List.takeWhile_append_of_pos hds, List.dropWhile_append_of_pos hds, hstop.1,
    hstop.2, List.append_nil, ofDigitChars, Text.ofDigits, List.foldl_map]

theorem readDigits_eq {ds : List Char} (hds : ∀ c ∈ ds, c.isDigit) :
    readDigits ds = (ofDigitChars ds, ds.length, []) := by
  have h : readDigits (ds ++ []) = _ := readDigits_append hds nofun
  rwa [List.append_nil] at h

theorem readDecimal?_digits {ds : List Char} (hne : ds ≠ []) (hds : ∀ c ∈ ds, c.isDigit) :
    readDecimal? ds = some ⟨ofDigitChars ds, 0⟩ := by
  have hlength : ds.length ≠ 0 := mt List.length_eq_zero_iff.mp hne
  simp [readDecimal?, readDigits_eq hds, hlength, readExponent?]

theorem readDecimal?_point {whole part : List Char} (hne : whole ≠ [])
    (hwhole : ∀ c ∈ whole, c.isDigit) (hpart : ∀ c ∈ part, c.isDigit) :
    readDecimal? (whole ++ '.' :: part) = some ⟨ofDigitChars (whole ++ part), -part.length⟩ := by
  have hlength : whole.length ≠ 0 := mt List.length_eq_zero_iff.mp hne
  have hfront : readDigits (whole ++ '.' :: part) =
      (ofDigitChars whole, whole.length, '.' :: part) :=
    readDigits_append hwhole (by simp)
  simp [readDecimal?, hfront, readDigits_eq hpart, hlength, readExponent?,
    Decimal.ofDigitChars_append]

theorem readDecimal?_positional (d : Decimal) :
    ∃ d', readDecimal? d.positional = some d' ∧ d'.value = d.value := by
  have hdigits : ∀ c ∈ d.digitText, c.isDigit := fun c hc => Decimal.isDigit_of_mem_digitText hc
  have hzeros (n : Nat) : ∀ c ∈ List.replicate n '0', c.isDigit :=
    fun c hc => Decimal.isDigit_of_mem_zeros hc
  have hne := d.word_digitText.ne_nil
  have hlength : 0 < d.digitText.length := List.length_pos_iff.mpr hne
  -- The point is left out behind the digits, stands among them, or stands in front of them and zeros.
  unfold Decimal.positional
  dsimp only
  split
  · next hexp =>
    obtain ⟨n, hn⟩ := Int.eq_ofNat_of_zero_le hexp
    refine ⟨_, readDecimal?_digits (List.append_ne_nil_of_left_ne_nil hne _) ?_, ?_⟩
    · exact List.forall_mem_append.mpr ⟨hdigits, hzeros _⟩
    · simp [Decimal.value, Decimal.ofDigitChars_append, Decimal.ofDigitChars_digitText,
        Decimal.ofDigitChars_zeros, hn]
  split
  · next hexp hpoint =>
    refine ⟨_, readDecimal?_point ?_ ?_ ?_, ?_⟩
    · rw [Ne, List.take_eq_nil_iff, not_or]
      exact ⟨by omega, hne⟩
    · exact fun c hc => hdigits c (List.mem_of_mem_take hc)
    · exact fun c hc => hdigits c (List.mem_of_mem_drop hc)
    · have hplace :
          (-(d.digitText.drop (d.digitText.length + d.exponent).toNat).length : Int) = d.exponent := by
        rw [List.length_drop]
        omega
      rw [Decimal.value, Decimal.value, List.take_append_drop, Decimal.ofDigitChars_digitText,
        hplace]
  · next hexp hpoint =>
    let zeros := List.replicate (-(d.digitText.length + d.exponent)).toNat '0'
    have hpart : ∀ c ∈ zeros ++ d.digitText, c.isDigit :=
      List.forall_mem_append.mpr ⟨hzeros _, hdigits⟩
    have hplace : -((zeros ++ d.digitText).length : Int) = d.exponent := by
      rw [List.length_append, List.length_replicate]
      omega
    have hvalue := Decimal.ofDigitChars_zeros_append
      (-(d.digitText.length + d.exponent)).toNat d
    refine ⟨⟨ofDigitChars (['0'] ++ (zeros ++ d.digitText)), -(zeros ++ d.digitText).length⟩,
      readDecimal?_point (List.cons_ne_nil '0' []) (fun c hc => hzeros 1 c hc) hpart, ?_⟩
    rw [Decimal.value, Decimal.value, hplace, hvalue]

theorem digitCount_spec {n : Nat} (hn : n ≠ 0) :
    10 ^ digitCount n ≤ 10 * n ∧ n < 10 ^ digitCount n := by
  induction n using digitCount.induct with
  | case1 => exact absurd rfl hn
  | case2 n _ ih =>
    rw [digitCount, if_neg hn, Nat.pow_succ]
    by_cases hlast : n / 10 = 0
    · rw [hlast, digitCount, if_pos rfl]
      omega
    · have := ih hlast
      omega

section Range

variable {m : Nat} {e : Int} {q : ℚ}

theorem two_zpow_le_ten_zpow {i : Int} {n : Nat} (h : i ≤ 3 * n) :
    (2 : ℚ) ^ i ≤ 10 ^ (n : Int) :=
  calc (2 : ℚ) ^ i ≤ 2 ^ ((3 * n : Nat) : Int) := two_zpow_le (by omega)
    _ = (2 ^ 3) ^ n := by rw [zpow_natCast, pow_mul]
    _ ≤ 10 ^ n := pow_le_pow_left₀ (by norm_num) (by norm_num) n
    _ = 10 ^ (n : Int) := (zpow_natCast _ _).symm

theorem ten_zpow_neg_le_two_zpow {i : Int} {n : Nat} (h : -i ≤ 3 * n) :
    (10 : ℚ) ^ (-(n : Int)) ≤ 2 ^ i := by
  have hinv := inv_anti₀ (two_zpow_pos _) (two_zpow_le_ten_zpow h)
  rwa [← zpow_neg, ← zpow_neg, neg_neg] at hinv

theorem Near.lt_ten_zpow (h : Near m e q) (hc : Canonical m e) :
    q < 10 ^ ((400 : Nat) : Int) := by
  obtain ⟨hsignificand, -, hgreatest, -⟩ := hc
  have htop : (m : ℚ) + 1 ≤ 2 ^ 53 := by exact_mod_cast hsignificand
  have hbelow : q / 2 ^ e < 2 ^ 53 := by linarith [h.upper]
  calc q < 2 ^ 53 * 2 ^ e := (div_lt_iff₀ (two_zpow_pos e)).mp hbelow
    _ = 2 ^ (e + (53 : Nat)) := (two_zpow_add_nat e 53).symm
    _ ≤ 10 ^ ((400 : Nat) : Int) := two_zpow_le_ten_zpow (by omega)

theorem Near.ten_zpow_le (h : Near m e q) (hc : Canonical m e) (hm : m ≠ 0) :
    (10 : ℚ) ^ (-(401 : Nat) : Int) ≤ q := by
  have hleast := hc.2.1
  have hone : (1 : ℚ) ≤ m := by exact_mod_cast Nat.pos_of_ne_zero hm
  have hquarters := le_lowerQuarters m e
  have hhalf : 1 / 2 ≤ q / 2 ^ e := by linarith [h.lower]
  calc (10 : ℚ) ^ (-(401 : Nat) : Int) ≤ 2 ^ (e - 1) := ten_zpow_neg_le_two_zpow (by omega)
    _ = 1 / 2 * 2 ^ e := by rw [zpow_sub_one₀ (by norm_num), one_div, mul_comm]
    _ ≤ q := (le_div_iff₀ (two_zpow_pos e)).mp hhalf

theorem value_bounds (hd : d.digits ≠ 0) :
    (10 : ℚ) ^ (digitCount d.digits + d.exponent - 1) ≤ d.value ∧
      d.value < 10 ^ (digitCount d.digits + d.exponent) := by
  obtain ⟨hlow, hhigh⟩ := digitCount_spec hd
  have hpos := Decimal.ten_zpow_pos d.exponent
  have hlow' : (10 : ℚ) ^ digitCount d.digits ≤ 10 * d.digits := by exact_mod_cast hlow
  have hhigh' : (d.digits : ℚ) < 10 ^ digitCount d.digits := by exact_mod_cast hhigh
  rw [zpow_sub_one₀ (by norm_num), zpow_add₀ (by norm_num), zpow_natCast, Decimal.value]
  constructor
  · have := mul_le_mul_of_nonneg_right hlow' hpos.le
    linarith
  · exact mul_lt_mul_of_pos_right hhigh' hpos

theorem ofDecimal_of_near (h : Near m e d.value) (hc : Canonical m e) (s : Bool) :
    ofDecimal s d.digits d.exponent = .finite s m e hc := by
  -- Zero is the only number that no digits and settled exponents are near to.
  have hzero (hm : m = 0) : zero s = .finite s m e hc := by
    subst hm
    obtain rfl : e = -1074 := hc.2.2.2.resolve_left (by decide)
    rfl
  unfold ofDecimal
  dsimp only
  split
  · next hsettled =>
    refine hzero ?_
    by_contra hm
    have hlow := h.ten_zpow_le hc hm
    rcases eq_or_ne d.digits 0 with hd | hd
    · rw [Decimal.value, hd, Nat.cast_zero, zero_mul] at hlow
      exact absurd hlow (not_le.mpr (Decimal.ten_zpow_pos _))
    · have hfar := hsettled.resolve_left hd
      have hpower : (10 : ℚ) ^ (digitCount d.digits + d.exponent) ≤ 10 ^ (-(401 : Nat) : Int) :=
        zpow_le_zpow_right₀ (by norm_num) (by omega)
      exact absurd hlow (not_le.mpr ((value_bounds hd).2.trans_le hpower))
  next hsettled =>
  obtain ⟨hd, hnear⟩ := not_or.mp hsettled
  split
  · next hfar =>
    have hpower : (10 : ℚ) ^ ((400 : Nat) : Int) ≤ 10 ^ (digitCount d.digits + d.exponent - 1) :=
      zpow_le_zpow_right₀ (by norm_num) (by omega)
    exact absurd (h.lt_ten_zpow hc) (not_lt.mpr (hpower.trans (value_bounds hd).1))
  split
  · next hexp =>
    obtain ⟨n, hn⟩ := Int.eq_ofNat_of_zero_le hexp
    refine Near.ofRatio_eq ?_ hc Nat.one_ne_zero s
    simpa [Decimal.value, hn] using h
  · next hexp =>
    obtain ⟨n, hn⟩ := Int.eq_ofNat_of_zero_le (show 0 ≤ -d.exponent by omega)
    refine Near.ofRatio_eq ?_ hc (Nat.pow_pos (by decide)).ne' s
    obtain hn' : d.exponent = -(n : Int) := by omega
    simpa [Decimal.value, hn', div_eq_mul_inv] using h

end Range

theorem numEq_comm (x y : Binary64) : x.numEq y = y.numEq x := by
  cases x <;> cases y <;> simp [numEq, Bool.and_comm, BEq.comm]

theorem read?_signText {cs : List Char} (h : readDecimal? cs = some d) (s : Bool) :
    read? (String.ofList (signText s ++ cs)) = some (ofDecimal s d.digits d.exponent) := by
  cases s with
  | true => simp [read?, signText, h]
  | false =>
    cases cs with
    | nil => simp [readDecimal?, readDigits] at h
    | cons c cs =>
      have hminus : c ≠ '-' := by
        rintro rfl
        simp [readDecimal?, readDigits] at h
      have hplus : c ≠ '+' := by
        rintro rfl
        simp [readDecimal?, readDigits] at h
      simp [read?, signText, h, hminus, hplus]

theorem read?_toString (n : Int) :
    read? (toString n) = some (ofDecimal (n < 0) n.natAbs 0) := by
  have hne : Nat.toDigits 10 n.natAbs ≠ [] := by simp
  have hds : ∀ c ∈ Nat.toDigits 10 n.natAbs, c.isDigit :=
    fun c hc => Nat.isDigit_of_mem_toDigits (by decide) (by decide) hc
  have hvalue : ofDigitChars (Nat.toDigits 10 n.natAbs) = n.natAbs := by
    have := Decimal.ofDigitChars_digitText ⟨n.natAbs, 0⟩
    rwa [Decimal.digitText, Nat.toList_repr] at this
  have htext : toString n = String.ofList (signText (n < 0) ++ Nat.toDigits 10 n.natAbs) := by
    apply String.toList_injective
    rw [Int.toString_eq_repr, Int.repr_eq_if, String.toList_ofList]
    split
    · next hn =>
      rw [decide_eq_false (by omega), Nat.toList_repr, show n.toNat = n.natAbs by omega]
      rfl
    · next hn =>
      rw [decide_eq_true (by omega), String.toList_append, Nat.toList_repr,
        show (-n).toNat = n.natAbs by omega]
      rfl
  rw [htext, read?_signText (readDecimal?_digits hne hds), hvalue]

/-- The text of a number gives back the number. -/
theorem read?_text {x : Binary64} (h : x ≠ .nan) :
    ∃ y, read? x.text = some y ∧ y.numEq x = true := by
  cases hshort : x.toShortInt? with
  | some n =>
    obtain ⟨hfinite, hvalue, -⟩ := toShortInt?_eq_some_iff.mp hshort
    cases x with
    | finite s m e hc =>
      have near := near_self m e
      rw [← natAbs_eq_of_value hvalue] at near
      have hdecimal : ofDecimal (n < 0) n.natAbs 0 = .finite (n < 0) m e hc := by
        refine ofDecimal_of_near (d := ⟨n.natAbs, 0⟩) ?_ hc _
        simpa [Decimal.value] using near
      refine ⟨.finite (n < 0) m e hc, ?_, ?_⟩
      · rw [text, hshort, ← hdecimal]
        exact read?_toString n
      · rw [numEq_comm]
        exact numEq_sign hvalue
    | _ => cases hfinite
  | none =>
    cases x with
    | nan => exact absurd rfl h
    | infinite s =>
      refine ⟨.infinite s, ?_, beq_self_eq_true s⟩
      cases s <;> decide +kernel
    | finite s m e hc =>
      obtain ⟨d, hread, hvalue⟩ := readDecimal?_positional (Decimal.shortest .up m e)
      have near := Decimal.near_shortest .up hc
      rw [← hvalue] at near
      refine ⟨.finite s m e hc, ?_, numEq_self rfl⟩
      rw [text, hshort, ← ofDecimal_of_near near hc s]
      exact read?_signText hread s

end Binary64

end PathQuery

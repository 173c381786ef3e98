import PathQuery.Document.Json
import PathQuery.Proofs.Number.Rounding

/-!
Numbers without a fraction. An integer of at most fifteen digits is what a number
is cast to, its number is the one it was taken from, and so JSON keeps all finite
numbers, but for the sign of zero.
-/
namespace PathQuery

namespace Binary64

variable {x y : Binary64} {n : Int}

def isFinite : Binary64 → Bool
  | .finite _ _ _ _ => true
  | _ => false

def signed (negative : Bool) (n : Int) : Int := if negative then -n else n

def value : Binary64 → ℚ
  | .finite s m e _ => signed s m * 2 ^ e
  | _ => 0

/-- The integer of 64 bits that a number is cast to: its fraction is cut off, what is too large
becomes the nearest such integer, and what is not a number zero. -/
def toInt64 : Binary64 → Int
  | .nan => 0
  | .infinite s => if s then -2 ^ 63 else 2 ^ 63 - 1
  | .finite s m e _ =>
    max (-2 ^ 63) (min (2 ^ 63 - 1)
      (signed s (if 0 ≤ e then m * 2 ^ e.toNat else m / 2 ^ (-e).toNat : Nat)))

@[simp]
theorem natAbs_signed (s : Bool) (m : Nat) : (signed s m).natAbs = m := by
  cases s <;> simp [signed]

theorem signed_mul (s : Bool) (a b : Nat) : signed s (a * b : Nat) = signed s a * b := by
  cases s <;> simp [signed]

theorem signed_mul_two_zpow {s : Bool} {m : Nat} {e : Int} :
    (signed s m * 2 ^ e : ℚ) = n ↔
      if 0 ≤ e then signed s (m * 2 ^ e.toNat : Nat) = n
      else m % 2 ^ (-e).toNat = 0 ∧ signed s (m / 2 ^ (-e).toNat : Nat) = n := by
  split
  · next he =>
    obtain ⟨k, rfl⟩ := Int.eq_ofNat_of_zero_le he
    rw [Int.toNat_natCast, signed_mul, zpow_natCast]
    norm_cast
  · next he =>
    obtain ⟨k, hk⟩ := Int.eq_ofNat_of_zero_le (show 0 ≤ -e by omega)
    obtain rfl : e = -(k : Int) := by omega
    rw [neg_neg, Int.toNat_natCast, zpow_neg, zpow_natCast, ← div_eq_mul_inv,
      div_eq_iff (by positivity)]
    constructor
    · intro h
      have hint : signed s m = n * (2 ^ k : Nat) := by exact_mod_cast h
      have hm : m = n.natAbs * 2 ^ k := by
        have := congrArg Int.natAbs hint
        rwa [natAbs_signed, Int.natAbs_mul, Int.natAbs_natCast] at this
      refine ⟨by rw [hm, Nat.mul_mod_left], ?_⟩
      rw [hm, signed_mul] at hint
      rw [hm, Nat.mul_div_cancel _ (Nat.two_pow_pos k)]
      exact Int.eq_of_mul_eq_mul_right (by positivity) hint
    · rintro ⟨hmod, rfl⟩
      have hm : m / 2 ^ k * 2 ^ k = m := Nat.div_mul_cancel (Nat.dvd_of_mod_eq_zero hmod)
      have hint := signed_mul s (m / 2 ^ k) (2 ^ k)
      rw [hm] at hint
      exact_mod_cast hint

theorem toInt?_eq_some_iff : x.toInt? = some n ↔ x.isFinite = true ∧ x.value = n := by
  cases x with
  | nan => simp [toInt?, isFinite]
  | infinite s => simp [toInt?, isFinite]
  | finite s m e h =>
    have hint : (finite s m e h).toInt? = if 0 ≤ e then some (signed s (m * 2 ^ e.toNat : Nat))
        else if m % 2 ^ (-e).toNat = 0 then some (signed s (m / 2 ^ (-e).toNat : Nat))
        else none := rfl
    simp only [isFinite, value, true_and, signed_mul_two_zpow, hint]
    split_ifs <;> simp [*]

theorem toShortInt?_eq_some_iff :
    x.toShortInt? = some n ↔ x.isFinite = true ∧ x.value = n ∧ n.natAbs < 10 ^ 15 := by
  rw [toShortInt?, Option.filter_eq_some_iff, toInt?_eq_some_iff, decide_eq_true_eq, and_assoc]

theorem toInt64_eq (hfinite : x.isFinite = true) (hvalue : x.value = n) (hlow : -2 ^ 63 ≤ n)
    (hhigh : n ≤ 2 ^ 63 - 1) : x.toInt64 = n := by
  cases x with
  | finite s m e h =>
    rw [value, signed_mul_two_zpow] at hvalue
    have hcut : signed s (if 0 ≤ e then m * 2 ^ e.toNat else m / 2 ^ (-e).toNat : Nat) = n := by
      split_ifs at hvalue ⊢
      · exact hvalue
      · exact hvalue.2
    rw [toInt64, hcut]
    omega
  | _ => cases hfinite

theorem numEq_self (hfinite : x.isFinite = true) : x.numEq x := by
  cases x with
  | finite s m e h => simp [numEq]
  | _ => cases hfinite

theorem abs_value (s : Bool) {m : Nat} {e : Int} (h : Canonical m e) :
    |(finite s m e h).value| = m * 2 ^ e := by
  rw [value, abs_mul, abs_of_pos (two_zpow_pos e), ← Int.cast_abs, Int.abs_eq_natAbs,
    natAbs_signed, Int.cast_natCast]

theorem value_neg_iff (s : Bool) {m : Nat} {e : Int} (h : Canonical m e) (hm : m ≠ 0) :
    (finite s m e h).value < 0 ↔ s = true := by
  have hpos : (0 : ℚ) < m * 2 ^ e :=
    mul_pos (by exact_mod_cast Nat.pos_of_ne_zero hm) (two_zpow_pos e)
  cases s with
  | false => simpa [value, signed] using hpos.le
  | true => simpa [value, signed] using hpos

theorem eq_or_isZero_of_numEq (h : x.numEq y = true) :
    x = y ∨ x.isZero = true ∧ y.isZero = true := by
  cases x with
  | nan => cases h
  | infinite s =>
    cases y with
    | infinite s' => exact .inl (congrArg infinite (beq_iff_eq.mp h))
    | _ => cases h
  | finite s m e hc =>
    cases y with
    | finite s' m' e' hc' =>
      simp only [numEq, Bool.or_eq_true, Bool.and_eq_true, beq_iff_eq] at h
      rcases h with ⟨hm, hm'⟩ | ⟨⟨rfl, rfl⟩, rfl⟩
      · exact .inr ⟨decide_eq_true hm, decide_eq_true hm'⟩
      · exact .inl rfl
    | _ => cases h

theorem toShortInt?_of_isZero (h : x.isZero = true) : x.toShortInt? = some 0 := by
  cases x with
  | finite s m e hc =>
    obtain rfl : m = 0 := of_decide_eq_true h
    rw [toShortInt?_eq_some_iff]
    exact ⟨rfl, by cases s <;> simp [value, signed], by decide⟩
  | _ => cases h

theorem numEq_sign {s : Bool} {m : Nat} {e : Int} {h : Canonical m e}
    (hvalue : (finite s m e h).value = n) : (finite s m e h).numEq (finite (n < 0) m e h) := by
  by_cases hm : m = 0
  · simp [numEq, hm]
  · have hsign : n < 0 ↔ s = true := by
      rw [← value_neg_iff s h hm, hvalue, Int.cast_lt_zero]
    simp [numEq, hsign]

theorem natAbs_eq_of_value {s : Bool} {m : Nat} {e : Int} {h : Canonical m e}
    (hvalue : (finite s m e h).value = n) : (n.natAbs : ℚ) = m * 2 ^ e := by
  rw [Nat.cast_natAbs, Int.cast_abs, ← hvalue, abs_value]

theorem numEq_ofInt (hfinite : x.isFinite = true) (hvalue : x.value = n) :
    x.numEq (ofInt n) := by
  cases x with
  | finite s m e h =>
    have habs : ((n.natAbs : Nat) : ℚ) / (1 : Nat) = m * 2 ^ e := by
      rw [Nat.cast_one, div_one, natAbs_eq_of_value hvalue]
    rw [ofInt, ofRatio_of_eq h Nat.one_ne_zero habs]
    exact numEq_sign hvalue
  | _ => cases hfinite

end Binary64

namespace Document

variable {x y : Binary64}

theorem jsonOfNumber_eq (h : x.isFinite = true) : jsonOfNumber x =
    if x.value.isInt ∧ |x.value| < 10 ^ 15 then .number (.integer x.toInt64)
    else .number (.real x) := by
  cases hshort : x.toShortInt? with
  | some n =>
    obtain ⟨-, hvalue, hlt⟩ := Binary64.toShortInt?_eq_some_iff.mp hshort
    have hcast : x.toInt64 = n := Binary64.toInt64_eq h hvalue (by omega) (by omega)
    have hshort' : x.value.isInt = true ∧ |x.value| < 10 ^ 15 := by
      rw [hvalue, ← Int.cast_abs, Int.abs_eq_natAbs]
      exact ⟨rfl, by exact_mod_cast hlt⟩
    rw [if_pos hshort', hcast]
    simp only [jsonOfNumber, hshort]
  | none =>
    rw [if_neg]
    · cases x with
      | finite s m e hc => simp only [jsonOfNumber, hshort]
      | _ => cases h
    · rintro ⟨hint, hlt⟩
      have hvalue := Rat.eq_num_of_isInt hint
      rw [hvalue, ← Int.cast_abs, Int.abs_eq_natAbs] at hlt
      have hsome : x.toShortInt? = some x.value.num :=
        Binary64.toShortInt?_eq_some_iff.mpr ⟨h, hvalue, by exact_mod_cast hlt⟩
      rw [hshort] at hsome
      cases hsome

theorem exists_jsonOfNumber (h : x.isFinite = true) :
    ∃ n, jsonOfNumber x = .number n ∧ x.numEq n.toBinary64 := by
  unfold jsonOfNumber
  split
  · next n hn =>
    obtain ⟨-, hvalue, -⟩ := Binary64.toShortInt?_eq_some_iff.mp hn
    exact ⟨_, rfl, Binary64.numEq_ofInt h hvalue⟩
  · cases x with
    | finite s m e hc => exact ⟨_, rfl, Binary64.numEq_self h⟩
    | _ => cases h

theorem jsonOfNumber_congr (h : x.numEq y) : jsonOfNumber x = jsonOfNumber y := by
  rcases Binary64.eq_or_isZero_of_numEq h with rfl | ⟨hx, hy⟩
  · rfl
  · simp only [jsonOfNumber, Binary64.toShortInt?_of_isZero hx, Binary64.toShortInt?_of_isZero hy]

end Document

end PathQuery

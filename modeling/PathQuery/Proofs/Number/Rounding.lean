import Mathlib.Algebra.Order.Field.Power
import Mathlib.Tactic.FieldSimp
import Mathlib.Tactic.Linarith
import Mathlib.Tactic.Positivity
import Mathlib.Tactic.Ring
import PathQuery.Number.Binary64

/-!
What is rounded to a number. Around each finite number but zero lies an interval
that ends halfway to its neighbours; below a power of two the neighbour is only
half as far away. All that lies inside is rounded to the number, and so are the
ends if the significand is even.
-/
namespace PathQuery

namespace Binary64

variable {m num den : Nat} {e : Int} {s : Bool} {q : ℚ}

/-- Where the interval of `m * 2 ^ e` begins, in quarters of `2 ^ e`. -/
def lowerQuarters (m : Nat) (e : Int) : Nat :=
  if m = 2 ^ 52 ∧ -1074 < e then 4 * m - 1 else 4 * m - 2

/-- What is rounded to `m * 2 ^ e`. -/
structure Near (m : Nat) (e : Int) (q : ℚ) : Prop where
  lower : lowerQuarters m e ≤ 4 * (q / 2 ^ e)
  upper : 4 * (q / 2 ^ e) ≤ 4 * m + 2
  inside : m % 2 = 1 → lowerQuarters m e < 4 * (q / 2 ^ e) ∧ 4 * (q / 2 ^ e) < 4 * m + 2

theorem two_zpow_pos (e : Int) : (0 : ℚ) < 2 ^ e := zpow_pos (by norm_num) e

theorem two_zpow_le {a b : Int} (h : a ≤ b) : (2 : ℚ) ^ a ≤ 2 ^ b :=
  zpow_le_zpow_right₀ (by norm_num) h

theorem two_zpow_add_nat (e : Int) (n : Nat) : (2 : ℚ) ^ (e + n) = 2 ^ n * 2 ^ e := by
  rw [zpow_add₀ (by norm_num), zpow_natCast, mul_comm]

theorem two_zpow_log2_le {n : Nat} (h : n ≠ 0) : (2 : ℚ) ^ (n.log2 : Int) ≤ n := by
  rw [zpow_natCast]
  exact_mod_cast Nat.log2_self_le h

theorem lt_two_zpow_log2 (n : Nat) : (n : ℚ) < 2 ^ (n.log2 + 1 : Int) := by
  have h : n < 2 ^ (n.log2 + 1) := Nat.lt_log2_self
  exact_mod_cast h

theorem scaled_den_ne_zero (num : Nat) (hden : den ≠ 0) (e : Int) : (scaled num den e).2 ≠ 0 := by
  unfold scaled
  split
  · exact Nat.mul_ne_zero hden (Nat.two_pow_pos _).ne'
  · exact hden

theorem scaled_ratio (num den : Nat) (e : Int) :
    ((scaled num den e).1 : ℚ) / (scaled num den e).2 = num / den / 2 ^ e := by
  unfold scaled
  split
  · next he =>
    obtain ⟨k, rfl⟩ := Int.eq_ofNat_of_zero_le he
    simp only [Int.toNat_natCast, Nat.cast_mul, Nat.cast_pow, Nat.cast_ofNat, zpow_natCast]
    rw [div_div]
  · next he =>
    obtain ⟨k, hk⟩ := Int.eq_ofNat_of_zero_le (show 0 ≤ -e by omega)
    obtain rfl : e = -(k : Int) := by omega
    simp only [neg_neg, Int.toNat_natCast, Nat.cast_mul, Nat.cast_pow, Nat.cast_ofNat,
      zpow_neg, zpow_natCast, div_inv_eq_mul]
    ring

theorem two_zpow_le_ratio (hnum : num ≠ 0) (hden : den ≠ 0) :
    (2 : ℚ) ^ ((num.log2 : Int) - den.log2 - 1) ≤ num / den := by
  rw [le_div_iff₀ (by exact_mod_cast Nat.pos_of_ne_zero hden)]
  calc (2 : ℚ) ^ ((num.log2 : Int) - den.log2 - 1) * den
      ≤ 2 ^ ((num.log2 : Int) - den.log2 - 1) * 2 ^ (den.log2 + 1 : Int) :=
        mul_le_mul_of_nonneg_left (lt_two_zpow_log2 den).le (two_zpow_pos _).le
    _ = 2 ^ (num.log2 : Int) := by
        rw [← zpow_add₀ (by norm_num)]
        congr 1
        omega
    _ ≤ num := two_zpow_log2_le hnum

theorem ratio_lt_two_zpow (num : Nat) (hden : den ≠ 0) :
    (num : ℚ) / den < 2 ^ ((num.log2 : Int) - den.log2 + 1) := by
  rw [div_lt_iff₀ (by exact_mod_cast Nat.pos_of_ne_zero hden)]
  calc (num : ℚ) < 2 ^ (num.log2 + 1 : Int) := lt_two_zpow_log2 num
    _ = 2 ^ ((num.log2 : Int) - den.log2 + 1) * 2 ^ (den.log2 : Int) := by
        rw [← zpow_add₀ (by norm_num)]
        congr 1
        omega
    _ ≤ 2 ^ ((num.log2 : Int) - den.log2 + 1) * den :=
        mul_le_mul_of_nonneg_left (two_zpow_log2_le hden) (two_zpow_pos _).le

theorem scaled_quotient_lt_iff (num : Nat) (hden : den ≠ 0) (e : Int) :
    (scaled num den e).1 / (scaled num den e).2 < 2 ^ 53 ↔ (num : ℚ) / den < 2 ^ (e + 53) := by
  have hscaled := Nat.pos_of_ne_zero (scaled_den_ne_zero num hden e)
  rw [Nat.div_lt_iff_lt_mul hscaled, zpow_add₀ (by norm_num), ← div_lt_iff₀' (two_zpow_pos e),
    ← scaled_ratio, div_lt_iff₀ (by exact_mod_cast hscaled)]
  exact_mod_cast Iff.rfl

theorem exponentFor_spec (hnum : num ≠ 0) (hden : den ≠ 0) :
    -1074 ≤ exponentFor num den ∧ (num : ℚ) / den < 2 ^ (exponentFor num den + 53) ∧
      (exponentFor num den = -1074 ∨ (2 : ℚ) ^ (exponentFor num den + 52) ≤ num / den) := by
  let guess : Int := max (-1074) ((num.log2 : Int) - den.log2 - 53)
  have heq : exponentFor num den =
      if (scaled num den guess).1 / (scaled num den guess).2 < 2 ^ 53 then guess
      else guess + 1 := rfl
  have hfits_iff := scaled_quotient_lt_iff num hden guess
  by_cases hfits : (scaled num den guess).1 / (scaled num den guess).2 < 2 ^ 53
  · rw [heq, if_pos hfits]
    refine ⟨le_max_left _ _, hfits_iff.mp hfits, ?_⟩
    rcases max_choice (-1074) ((num.log2 : Int) - den.log2 - 53) with h | h
    · exact .inl h
    · exact .inr ((two_zpow_le (by omega)).trans (two_zpow_le_ratio hnum hden))
  · rw [heq, if_neg hfits]
    refine ⟨by omega, (ratio_lt_two_zpow num hden).trans_le (two_zpow_le (by omega)), .inr ?_⟩
    rw [hfits_iff, not_lt] at hfits
    rwa [show guess + 1 + 52 = guess + 53 by omega]

theorem nearest_eq {n d : Nat} (hd : 0 < d) (hlow : 2 * (m * d) ≤ 2 * n + d)
    (hhigh : 2 * n ≤ 2 * (m * d) + d)
    (hinside : m % 2 = 1 → 2 * (m * d) < 2 * n + d ∧ 2 * n < 2 * (m * d) + d) :
    nearest n d = m := by
  have hdiv := Nat.div_add_mod' n d
  have hmod := Nat.mod_lt n hd
  -- The floor is `m` or one less, and the remainder decides between the two.
  have hfloor : n / d = m ∨ n / d + 1 = m := by
    have hle : n / d ≤ m := by
      by_contra hlt
      have := Nat.mul_le_mul_right d (show m + 1 ≤ n / d by omega)
      rw [Nat.add_one_mul] at this
      omega
    have hge : m ≤ n / d + 1 := by
      by_contra hlt
      have := Nat.mul_le_mul_right d (show n / d + 2 ≤ m by omega)
      rw [Nat.add_mul] at this
      omega
    omega
  unfold nearest
  dsimp only
  rcases hfloor with hfloor | hfloor
  · rw [hfloor] at hdiv ⊢
    split_ifs <;> omega
  · have hsucc := congrArg (· * d) hfloor
    rw [Nat.add_one_mul] at hsucc
    split_ifs <;> omega

theorem nearest_scaled_eq (hden : den ≠ 0) (e : Int)
    (hlow : 4 * m - 2 ≤ 4 * ((num : ℚ) / den / 2 ^ e))
    (hhigh : 4 * ((num : ℚ) / den / 2 ^ e) ≤ 4 * m + 2)
    (hinside : m % 2 = 1 → 4 * m - 2 < 4 * ((num : ℚ) / den / 2 ^ e) ∧
      4 * ((num : ℚ) / den / 2 ^ e) < 4 * m + 2) :
    nearest (scaled num den e).1 (scaled num den e).2 = m := by
  have hscaled := Nat.pos_of_ne_zero (scaled_den_ne_zero num hden e)
  rw [← scaled_ratio] at hlow hhigh hinside
  generalize (scaled num den e).1 = n at hlow hhigh hinside ⊢
  generalize (scaled num den e).2 = d at hlow hhigh hinside hscaled ⊢
  have hd : (0 : ℚ) < d := by exact_mod_cast hscaled
  have hn : 4 * ((n : ℚ) / d) * d = 4 * n := by field_simp
  refine nearest_eq hscaled ?_ ?_ fun hodd => ?_
  · have := mul_le_mul_of_nonneg_right hlow hd.le
    have : (2 * (m * d) : ℚ) ≤ 2 * n + d := by linarith
    exact_mod_cast this
  · have := mul_le_mul_of_nonneg_right hhigh hd.le
    have : (2 * n : ℚ) ≤ 2 * (m * d) + d := by linarith
    exact_mod_cast this
  · obtain ⟨hlow, hhigh⟩ := hinside hodd
    have hlow := mul_lt_mul_of_pos_right hlow hd
    have hhigh := mul_lt_mul_of_pos_right hhigh hd
    have hlow : (2 * (m * d) : ℚ) < 2 * n + d := by linarith
    have hhigh : (2 * n : ℚ) < 2 * (m * d) + d := by linarith
    exact ⟨by exact_mod_cast hlow, by exact_mod_cast hhigh⟩

theorem lowerQuarters_le (m : Nat) (e : Int) : (lowerQuarters m e : ℚ) ≤ 4 * m := by
  have : lowerQuarters m e ≤ 4 * m := by
    unfold lowerQuarters
    split <;> omega
  exact_mod_cast this

theorem le_lowerQuarters (m : Nat) (e : Int) : 4 * (m : ℚ) - 2 ≤ lowerQuarters m e := by
  have : 4 * m ≤ lowerQuarters m e + 2 := by
    unfold lowerQuarters
    split <;> omega
  have : (4 * m : ℚ) ≤ lowerQuarters m e + 2 := by exact_mod_cast this
  linarith

theorem div_two_zpow_lt {k : Int} (hq : q < 2 ^ k) {n : Nat} (hk : k ≤ e + n) :
    q / 2 ^ e < 2 ^ n := by
  rw [div_lt_iff₀ (two_zpow_pos e), ← two_zpow_add_nat]
  exact hq.trans_le (two_zpow_le hk)

theorem le_div_two_zpow {k : Int} (hq : (2 : ℚ) ^ k ≤ q) {n : Nat} (hk : e + n ≤ k) :
    2 ^ n ≤ q / 2 ^ e := by
  rw [le_div_iff₀ (two_zpow_pos e), ← two_zpow_add_nat]
  exact (two_zpow_le hk).trans hq

theorem Near.exponent (h : Near m e ((num : ℚ) / den)) (hc : Canonical m e) (hnum : num ≠ 0)
    (hden : den ≠ 0) : exponentFor num den = e ∨
      m = 2 ^ 52 ∧ exponentFor num den + 1 = e ∧ (num : ℚ) / den / 2 ^ e < 2 ^ 52 := by
  obtain ⟨hleast, hfits, hfull⟩ := exponentFor_spec hnum hden
  obtain ⟨hm, he, -, hnormal⟩ := hc
  have hlower := (le_lowerQuarters m e).trans h.lower
  have hupper := h.upper
  -- A lower exponent is possible closely below a power of two, and a higher one is not.
  rcases lt_trichotomy (exponentFor num den) e with hlt | heq | hgt
  · have hbelow : (num : ℚ) / den / 2 ^ e < 2 ^ 52 := div_two_zpow_lt hfits (by omega)
    have hpow : 2 ^ 52 ≤ m := hnormal.resolve_right (by omega)
    have hsignificand : m = 2 ^ 52 := by
      by_contra hne
      have : (2 ^ 52 + 1 : ℚ) ≤ m := by exact_mod_cast (show 2 ^ 52 + 1 ≤ m by omega)
      linarith
    refine .inr ⟨hsignificand, ?_, hbelow⟩
    by_contra hne
    have hfar : (num : ℚ) / den / 2 ^ e < 2 ^ 51 := div_two_zpow_lt hfits (by omega)
    have : (2 ^ 52 : ℚ) ≤ m := by exact_mod_cast hpow
    linarith
  · exact .inl heq
  · exfalso
    have hge : (2 : ℚ) ^ 53 ≤ num / den / 2 ^ e :=
      le_div_two_zpow (hfull.resolve_left (by omega)) (by omega)
    have : (m : ℚ) + 1 ≤ 2 ^ 53 := by exact_mod_cast hm
    linarith

theorem Near.significand (h : Near m e ((num : ℚ) / den)) (hden : den ≠ 0) :
    nearest (scaled num den e).1 (scaled num den e).2 = m := by
  have hquarters := le_lowerQuarters m e
  refine nearest_scaled_eq hden e (hquarters.trans h.lower) h.upper fun hodd => ?_
  obtain ⟨hlow, hhigh⟩ := h.inside hodd
  exact ⟨hquarters.trans_lt hlow, hhigh⟩

theorem Near.significand_below (h : Near (2 ^ 52) (e + 1) ((num : ℚ) / den)) (hden : den ≠ 0)
    (he : -1074 ≤ e) (hbelow : (num : ℚ) / den / 2 ^ (e + 1) < 2 ^ 52) :
    nearest (scaled num den e).1 (scaled num den e).2 = 2 ^ 53 := by
  have hdouble : (num : ℚ) / den / 2 ^ e = 2 * (num / den / 2 ^ (e + 1)) := by
    rw [zpow_add_one₀ (by norm_num)]
    field_simp
  have hlower := h.lower
  rw [lowerQuarters, if_pos ⟨rfl, by omega⟩] at hlower
  refine nearest_scaled_eq hden e ?_ ?_ fun hodd => absurd hodd (by decide)
  · rw [hdouble]
    norm_num at hlower ⊢
    linarith
  · rw [hdouble]
    norm_num at hbelow ⊢
    linarith

theorem ofParts_of_canonical (s : Bool) (hc : Canonical m e) : ofParts s m e = .finite s m e hc :=
  dif_pos hc

/-- All that is near a number is rounded to it. -/
theorem Near.ofRatio_eq (h : Near m e ((num : ℚ) / den)) (hc : Canonical m e) (hden : den ≠ 0)
    (s : Bool) : ofRatio s num den = .finite s m e hc := by
  by_cases hnum : num = 0
  · have hlower := (le_lowerQuarters m e).trans h.lower
    rw [hnum, Nat.cast_zero, zero_div, zero_div, mul_zero] at hlower
    have hsmall : (2 * m : ℚ) ≤ 1 := by linarith
    have hsmall : 2 * m ≤ 1 := by exact_mod_cast hsmall
    obtain rfl : m = 0 := by omega
    obtain rfl : e = -1074 := hc.2.2.2.resolve_left (by decide)
    simp [ofRatio, hnum, zero]
  have heq : ofRatio s num den = if nearest (scaled num den (exponentFor num den)).1
        (scaled num den (exponentFor num den)).2 = 2 ^ 53
      then ofParts s (2 ^ 52) (exponentFor num den + 1)
      else ofParts s (nearest (scaled num den (exponentFor num den)).1
        (scaled num den (exponentFor num den)).2) (exponentFor num den) := by
    simp only [ofRatio, if_neg hnum]
  rcases h.exponent hc hnum hden with hexp | ⟨rfl, rfl, hbelow⟩
  · rw [heq, hexp, h.significand hden, if_neg (Nat.ne_of_lt hc.1), ofParts_of_canonical s hc]
  · have hleast := (exponentFor_spec hnum hden).1
    rw [heq, h.significand_below hden hleast hbelow, if_pos rfl, ofParts_of_canonical s hc]

theorem near_self (m : Nat) (e : Int) : Near m e (m * 2 ^ e) := by
  have hself : (m : ℚ) * 2 ^ e / 2 ^ e = m := mul_div_cancel_right₀ _ (two_zpow_pos e).ne'
  constructor
  · rw [hself]
    exact lowerQuarters_le m e
  · rw [hself]
    linarith
  · intro hodd
    have hlt : lowerQuarters m e < 4 * m := by
      unfold lowerQuarters
      split <;> omega
    rw [hself]
    exact ⟨by exact_mod_cast hlt, by linarith⟩

theorem ofRatio_of_eq (hc : Canonical m e) (hden : den ≠ 0) (h : (num : ℚ) / den = m * 2 ^ e)
    (s : Bool) : ofRatio s num den = .finite s m e hc := by
  have near := near_self m e
  rw [← h] at near
  exact near.ofRatio_eq hc hden s

end Binary64

end PathQuery

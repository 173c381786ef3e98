import Mathlib.Tactic.LinearCombination
import PathQuery.Number.Decimal
import PathQuery.Proofs.Number.Rounding

/-!
The shortest decimal of a number is rounded to that number. The grid that the
search ends on at the latest is finer than half the distance to the next number,
so it has a point in the interval.
-/
namespace PathQuery

namespace Decimal

open Binary64 (Near Canonical lowerQuarters two_zpow_pos)

variable {m d : Nat} {e p : Int} {tie : Tie}

def value (d : Decimal) : ℚ := d.digits * 10 ^ d.exponent

theorem ten_zpow_pos (p : Int) : (0 : ℚ) < 10 ^ p := zpow_pos (by norm_num) p

theorem zpow_split {b : ℚ} (hb : b ≠ 0) (n : Int) : b ^ n * b ^ (-n).toNat = b ^ n.toNat := by
  rw [← zpow_natCast, ← zpow_natCast, ← zpow_add₀ hb]
  congr 1
  omega

namespace Interval

theorem num_pos (m : Nat) (e p : Int) : 0 < (around m e p).num :=
  Nat.mul_pos (Nat.two_pow_pos _) (Nat.pow_pos (by decide))

theorem den_pos (m : Nat) (e p : Int) : 0 < (around m e p).den :=
  Nat.mul_pos (Nat.two_pow_pos _) (Nat.pow_pos (by decide))

theorem num_mul (m : Nat) (e p : Int) :
    ((around m e p).num : ℚ) * 10 ^ p = (around m e p).den * 2 ^ (e - 2) := by
  have hten := zpow_split (b := 10) (by norm_num) p
  have htwo := zpow_split (b := 2) (by norm_num) (e - 2)
  rw [show -(e - 2) = 2 - e by omega] at htwo
  have hten' : (10 : ℚ) ^ (-p).toNat * 10 ^ p = 10 ^ p.toNat := by rw [mul_comm, hten]
  simp only [around, Nat.cast_mul, Nat.cast_pow, Nat.cast_ofNat]
  calc (2 : ℚ) ^ (e - 2).toNat * 10 ^ (-p).toNat * 10 ^ p
      = 2 ^ (e - 2).toNat * 10 ^ p.toNat := by rw [mul_assoc, hten']
    _ = 2 ^ (2 - e).toNat * 10 ^ p.toNat * 2 ^ (e - 2) := by rw [← htwo]; ring

theorem quarters_mul (m d : Nat) (e p : Int) :
    4 * ((d : ℚ) * 10 ^ p / 2 ^ e) * (around m e p).num = d * (around m e p).den := by
  have hunit := num_mul m e p
  have hquarter : (2 : ℚ) ^ e = 4 * 2 ^ (e - 2) := by
    rw [zpow_sub₀ (by norm_num)]
    norm_num
    ring
  have hpos := two_zpow_pos (e - 2)
  rw [hquarter]
  field_simp
  linear_combination (d : ℚ) * hunit

theorem near_of_contains (h : (around m e p).contains d = true) : Near m e (d * 10 ^ p) := by
  have hnum : (0 : ℚ) < (around m e p).num := by exact_mod_cast num_pos m e p
  have hquarters := quarters_mul m d e p
  have hlo : (around m e p).lo = lowerQuarters m e := rfl
  have hhi : (around m e p).hi = 4 * m + 2 := rfl
  -- Both ends are compared in the same unit.
  have hle (n : Nat) : n * (around m e p).num ≤ d * (around m e p).den ↔
      (n : ℚ) ≤ 4 * (d * 10 ^ p / 2 ^ e) := by
    rw [← mul_le_mul_iff_of_pos_right hnum, hquarters]
    exact_mod_cast Iff.rfl
  have hge (n : Nat) : d * (around m e p).den ≤ n * (around m e p).num ↔
      4 * (d * 10 ^ p / 2 ^ e) ≤ (n : ℚ) := by
    rw [← mul_le_mul_iff_of_pos_right hnum, hquarters]
    exact_mod_cast Iff.rfl
  have hlt (n : Nat) : n * (around m e p).num < d * (around m e p).den ↔
      (n : ℚ) < 4 * (d * 10 ^ p / 2 ^ e) := by
    rw [← not_le, hge, not_le]
  have hgt (n : Nat) : d * (around m e p).den < n * (around m e p).num ↔
      4 * (d * 10 ^ p / 2 ^ e) < (n : ℚ) := by
    rw [← not_le, hle, not_le]
  have htop : ((4 * m + 2 : Nat) : ℚ) = 4 * m + 2 := by push_cast; rfl
  unfold contains at h
  split at h
  · next hclosed =>
    rw [hlo, hhi, Bool.and_eq_true, decide_eq_true_eq, decide_eq_true_eq, hle, hge, htop] at h
    refine ⟨h.1, h.2, fun hodd => ?_⟩
    have heven : m % 2 = 0 := of_decide_eq_true hclosed
    omega
  · rw [hlo, hhi, Bool.and_eq_true, decide_eq_true_eq, decide_eq_true_eq, hlt, hgt, htop] at h
    exact ⟨h.1.le, h.2.le, fun _ => h⟩

theorem contains_of_pick? (h : (around m e p).pick? tie = some d) :
    (around m e p).contains d = true := by
  unfold pick? at h
  dsimp only at h
  split at h
  · next hbelow habove =>
    cases h
    split
    · exact habove
    · exact hbelow
  · next hbelow _ =>
    cases h
    exact hbelow
  · next _ habove =>
    cases h
    exact habove
  · cases h

theorem pick?_isSome (hm : m ≠ 0) (h : (10 : ℚ) ^ p < 2 ^ (e - 1)) (tie : Tie) :
    ((around m e p).pick? tie).isSome := by
  have hnum := num_pos m e p
  have hden := den_pos m e p
  have hfine : (around m e p).den < 2 * (around m e p).num := by
    have hunit := num_mul m e p
    have hhalf : (2 : ℚ) ^ (e - 1) = 2 * 2 ^ (e - 2) := by
      rw [show e - 1 = e - 2 + 1 by omega, zpow_add_one₀ (by norm_num), mul_comm]
    have hden' : (0 : ℚ) < (around m e p).den := by exact_mod_cast hden
    have hscaled : ((around m e p).den : ℚ) * 10 ^ p < 2 * (around m e p).num * 10 ^ p := by
      have := mul_lt_mul_of_pos_left h hden'
      rw [mul_assoc, hunit]
      rw [hhalf] at this
      linarith
    exact_mod_cast lt_of_mul_lt_mul_right hscaled (ten_zpow_pos p).le
  have hlo : (around m e p).lo < (around m e p).mid := by
    simp only [around]
    split <;> omega
  have hhi : (around m e p).hi = (around m e p).mid + 2 := rfl
  have hbelow := Nat.mul_lt_mul_of_pos_right hlo hnum
  have hfloor := Nat.div_add_mod' ((around m e p).mid * (around m e p).num) (around m e p).den
  have hrest := Nat.mod_lt ((around m e p).mid * (around m e p).num) hden
  -- The point of the grid next above the middle lies below the upper end.
  have habove : (around m e p).contains
      ((around m e p).mid * (around m e p).num / (around m e p).den + 1) = true := by
    unfold contains
    rw [hhi, Nat.add_one_mul, Nat.add_mul]
    split
    · rw [Bool.and_eq_true, decide_eq_true_eq, decide_eq_true_eq]
      omega
    · rw [Bool.and_eq_true, decide_eq_true_eq, decide_eq_true_eq]
      omega
  unfold pick?
  simp only [habove]
  cases (around m e p).contains
    ((around m e p).mid * (around m e p).num / (around m e p).den) <;> rfl

end Interval

theorem near_onGrids {grids : Nat} {p' : Int} (h : ((Interval.around m e p').pick? tie).isSome)
    (hle : p' ≤ p) (hlt : p < p' + grids) : Near m e (onGrids tie m e grids p).value := by
  induction grids generalizing p with
  | zero => omega
  | succ grids ih =>
    unfold onGrids
    split
    · next d hpick => exact Interval.near_of_contains (Interval.contains_of_pick? hpick)
    · next hnone =>
      -- The grid with a point in the interval is still to come.
      have hne : p ≠ p' := by
        rintro rfl
        rw [hnone] at h
        cases h
      exact ih (by omega) (by omega)

theorem ten_zpow_le {j : Int} (hj : 0 ≤ j) : ((10 : ℚ) ^ j) ^ 3 ≤ 2 ^ (10 * j) := by
  obtain ⟨n, rfl⟩ := Int.eq_ofNat_of_zero_le hj
  calc ((10 : ℚ) ^ (n : Int)) ^ 3
      = (10 ^ 3) ^ n := by rw [zpow_natCast, ← pow_mul, ← pow_mul, mul_comm]
    _ ≤ (2 ^ 10) ^ n := pow_le_pow_left₀ (by norm_num) (by norm_num) n
    _ = 2 ^ (10 * (n : Int)) := by
      rw [← pow_mul]
      exact_mod_cast rfl

theorem ten_zpow_neg_le {j : Int} (hj : j ≤ 0) : ((10 : ℚ) ^ j) ^ 10 ≤ 2 ^ (33 * j) := by
  obtain ⟨n, hn⟩ := Int.eq_ofNat_of_zero_le (show 0 ≤ -j by omega)
  obtain rfl : j = -(n : Int) := by omega
  calc ((10 : ℚ) ^ (-(n : Int))) ^ 10
      = ((10 ^ 10) ^ n)⁻¹ := by rw [zpow_neg, zpow_natCast, inv_pow, ← pow_mul, ← pow_mul, mul_comm]
    _ ≤ ((2 ^ 33) ^ n)⁻¹ :=
      inv_anti₀ (by positivity) (pow_le_pow_left₀ (by norm_num) (by norm_num) n)
    _ = 2 ^ (33 * (-(n : Int))) := by
      rw [← pow_mul, mul_neg, zpow_neg]
      exact_mod_cast rfl

theorem last_grid_fine {k : Int} (hlow : -1074 ≤ k) (hhigh : k ≤ 1023) :
    (10 : ℚ) ^ (k * 30103 / 100000 - 21) < 2 ^ (k - 53) := by
  have power (c : Nat) : ((2 : ℚ) ^ (k - 53)) ^ c = 2 ^ ((k - 53) * c) := by
    rw [← zpow_natCast, ← zpow_mul]
  rcases Int.le_total 0 (k * 30103 / 100000 - 21) with hj | hj
  · refine lt_of_pow_lt_pow_left₀ 3 (two_zpow_pos _).le ((ten_zpow_le hj).trans_lt ?_)
    rw [power]
    exact zpow_lt_zpow_right₀ (by norm_num) (by omega)
  · refine lt_of_pow_lt_pow_left₀ 10 (two_zpow_pos _).le ((ten_zpow_neg_le hj).trans_lt ?_)
    rw [power]
    exact zpow_lt_zpow_right₀ (by norm_num) (by omega)

/-- The shortest decimal of a number is rounded to it. -/
theorem near_shortest (tie : Tie) (hc : Canonical m e) : Near m e (shortest tie m e).value := by
  unfold shortest
  split
  · next hm =>
    have hself := Binary64.near_self m e
    simpa [value, hm] using hself
  · next hm =>
    have hlog : m.log2 < 53 := (Nat.log2_lt hm).mpr hc.1
    obtain ⟨-, hlow, hhigh, -⟩ := hc
    have hfine := last_grid_fine (k := m.log2 + e) (by omega) (by omega)
    have hgrid := hfine.trans_le (Binary64.two_zpow_le (show _ ≤ e - 1 by omega))
    exact near_onGrids (Interval.pick?_isSome hm hgrid tie) (by omega) (by omega)

end Decimal

end PathQuery

import PathQuery.Number.Decimal
import PathQuery.Proofs.Text.Nesting

/-!
What the text of a number is made of. A value without a fraction has itself as
a decimal on the grid of the integers, so the search for the shortest decimal
never goes below that grid, and its text has no point. A point in any other text
has digits on both sides.
-/
namespace PathQuery

open Text (isBare Word)

namespace Decimal

theorem den_dvd_mid {m : Nat} {e : Int} (h : 0 ≤ e ∨ m % 2 ^ (-e).toNat = 0) :
    (Interval.around m e 0).den ∣ (Interval.around m e 0).mid * (Interval.around m e 0).num := by
  simp only [Interval.around, Int.neg_zero, Int.toNat_zero, Nat.pow_zero, Nat.mul_one]
  refine Nat.dvd_mul_right_of_dvd ?_ _
  rcases Int.le_total 0 e with he | he
  · have hfour : 2 ^ (2 - e).toNat ∣ 2 ^ 2 := Nat.pow_dvd_pow 2 (by omega)
    exact Nat.dvd_mul_right_of_dvd hfour m
  · have hm : 2 ^ (-e).toNat ∣ m := by
      rcases h with h | h
      · rw [show (-e).toNat = 0 by omega]
        exact Nat.one_dvd m
      · exact Nat.dvd_of_mod_eq_zero h
    rw [show (2 - e).toNat = 2 + (-e).toNat by omega, Nat.pow_add]
    exact Nat.mul_dvd_mul_left 4 hm

theorem pick?_around_zero {m : Nat} {e : Int} (hm : m ≠ 0)
    (h : 0 ≤ e ∨ m % 2 ^ (-e).toNat = 0) (tie : Tie) :
    ((Interval.around m e 0).pick? tie).isSome := by
  have hexact := Nat.div_mul_cancel (den_dvd_mid h)
  have hnum : 0 < (Interval.around m e 0).num :=
    Nat.mul_pos (Nat.two_pow_pos _) (Nat.pow_pos (by decide))
  have hlo : (Interval.around m e 0).lo < (Interval.around m e 0).mid := by
    simp only [Interval.around]
    split <;> omega
  have hhi : (Interval.around m e 0).mid < (Interval.around m e 0).hi := by
    simp [Interval.around]
  have hbelow := Nat.mul_lt_mul_of_pos_right hlo hnum
  have habove := Nat.mul_lt_mul_of_pos_right hhi hnum
  have hcontains : (Interval.around m e 0).contains
      ((Interval.around m e 0).mid * (Interval.around m e 0).num /
        (Interval.around m e 0).den) = true := by
    unfold Interval.contains
    rw [hexact]
    split
    · simp only [Bool.and_eq_true, decide_eq_true_eq]
      exact ⟨Nat.le_of_lt hbelow, Nat.le_of_lt habove⟩
    · simp only [Bool.and_eq_true, decide_eq_true_eq]
      exact ⟨hbelow, habove⟩
  unfold Interval.pick?
  simp only [hcontains]
  cases (Interval.around m e 0).contains
    ((Interval.around m e 0).mid * (Interval.around m e 0).num /
      (Interval.around m e 0).den + 1) <;> rfl

theorem onGrids_exponent_nonneg {tie : Tie} {m : Nat} {e : Int}
    (h : ((Interval.around m e 0).pick? tie).isSome) (grids : Nat) {p : Int} (hp : 0 ≤ p) :
    0 ≤ (onGrids tie m e grids p).exponent := by
  induction grids generalizing p with
  | zero => exact hp
  | succ grids ih =>
    unfold onGrids
    split
    · exact hp
    · next hnone =>
      have hne : p ≠ 0 := by
        rintro rfl
        rw [hnone] at h
        cases h
      exact ih (by omega)

theorem log2_add_nonneg {m : Nat} {e : Int} (hm : m ≠ 0)
    (h : 0 ≤ e ∨ m % 2 ^ (-e).toNat = 0) : 0 ≤ (m.log2 : Int) + e := by
  rcases h with h | h
  · omega
  · have hle : 2 ^ (-e).toNat ≤ m :=
      Nat.le_of_dvd (Nat.pos_of_ne_zero hm) (Nat.dvd_of_mod_eq_zero h)
    have hlog := (Nat.le_log2 hm).mpr hle
    omega

theorem shortest_exponent_nonneg {m : Nat} {e : Int} (h : 0 ≤ e ∨ m % 2 ^ (-e).toNat = 0)
    (tie : Tie) : 0 ≤ (shortest tie m e).exponent := by
  unfold shortest
  split
  · exact Int.le_refl 0
  · next hm =>
    have hstart := log2_add_nonneg hm h
    exact onGrids_exponent_nonneg (pick?_around_zero hm h tie) 24 (by omega)

theorem word_digitText (d : Decimal) : Word d.digitText := Text.word_repr d.digits

theorem positional_word {d : Decimal} (h : 0 ≤ d.exponent) : Word d.positional := by
  unfold positional
  rw [if_pos h]
  refine d.word_digitText.append fun c hc => ?_
  rw [List.eq_of_mem_replicate hc]
  decide

theorem positional_point {d : Decimal} (h : ¬ 0 ≤ d.exponent) :
    ∃ whole part, d.positional = whole ++ '.' :: part ∧ Word whole ∧ Word part := by
  have hdigits := d.word_digitText
  unfold positional
  rw [if_neg h]
  split
  · next hpoint =>
    refine ⟨_, _, rfl, ⟨?_, ?_⟩, ⟨?_, ?_⟩⟩
    · rw [Ne, List.take_eq_nil_iff, not_or]
      exact ⟨by omega, hdigits.ne_nil⟩
    · exact fun c hc => hdigits.bare c (List.mem_of_mem_take hc)
    · rw [Ne, List.drop_eq_nil_iff]
      omega
    · exact fun c hc => hdigits.bare c (List.mem_of_mem_drop hc)
  · refine ⟨['0'], _, rfl, .of_all (by decide) rfl, ⟨?_, fun c hc => ?_⟩⟩
    · exact List.append_ne_nil_of_right_ne_nil _ hdigits.ne_nil
    · rcases List.mem_append.mp hc with hc | hc
      · rw [List.eq_of_mem_replicate hc]
        decide
      · exact hdigits.bare c hc

def isNumeric (c : Char) : Bool := isBare c || c = '.'

theorem isNumeric_of_isBare {c : Char} (h : isBare c) : isNumeric c := by simp [isNumeric, h]

theorem code_of_isNumeric {c : Char} (h : isNumeric c) : 33 ≤ c.toNat ∧ c.toNat ≤ 126 := by
  simp only [isNumeric, isBare, Bool.or_eq_true, decide_eq_true_eq] at h
  rcases h with ((h | rfl) | rfl) | rfl
  · have codes : ((decide (65 ≤ c.val ∧ c.val ≤ 90) || (97 ≤ c.val && c.val ≤ 122)) ||
        (48 ≤ c.val && c.val ≤ 57)) = true := h
    simp only [Bool.or_eq_true, Bool.and_eq_true, decide_eq_true_eq,
      UInt32.le_iff_toNat_le] at codes
    change ((65 ≤ c.toNat ∧ c.toNat ≤ 90) ∨ (97 ≤ c.toNat ∧ c.toNat ≤ 122)) ∨
      (48 ≤ c.toNat ∧ c.toNat ≤ 57) at codes
    omega
  all_goals decide

theorem isNumeric_of_mem_positional {d : Decimal} {c : Char} (h : c ∈ d.positional) :
    isNumeric c := by
  by_cases he : 0 ≤ d.exponent
  · exact isNumeric_of_isBare ((positional_word he).bare c h)
  · obtain ⟨whole, part, heq, hwhole, hpart⟩ := positional_point he
    rw [heq, List.mem_append, List.mem_cons] at h
    rcases h with h | rfl | h
    · exact isNumeric_of_isBare (hwhole.bare c h)
    · rfl
    · exact isNumeric_of_isBare (hpart.bare c h)

theorem isNumeric_of_mem_floating {style : Style} {d : Decimal} {c : Char}
    (h : c ∈ d.floating style) : isNumeric c := by
  have hdigits (x : Char) (hx : x ∈ d.digitText) : isNumeric x :=
    isNumeric_of_isBare (d.word_digitText.bare x hx)
  have hzero : ∀ x ∈ ['.', '0'], isNumeric x := List.all_eq_true.mp rfl
  have hplus : ∀ x ∈ ['e', '+'], isNumeric x := List.all_eq_true.mp rfl
  have hmark : ∀ x ∈ ['e'], isNumeric x := List.all_eq_true.mp rfl
  unfold floating at h
  dsimp only at h
  split at h
  · exact (List.mem_append.mp h).elim isNumeric_of_mem_positional (hzero c)
  split at h
  · exact isNumeric_of_mem_positional h
  simp only [List.mem_append] at h
  rcases h with (h | h) | h
  · split at h
    · next heq => exact hdigits c (heq ▸ h)
    · next heq =>
      rw [heq] at hdigits
      simp only [List.mem_cons] at h
      rcases h with rfl | rfl | h
      · exact hdigits _ List.mem_cons_self
      · rfl
      · exact hdigits c (List.mem_cons_of_mem _ h)
    · cases h
  · split at h
    · exact hplus c h
    · exact hmark c h
  · exact isNumeric_of_isBare ((Text.word_toString _).bare c h)

theorem positional_ne_nil (d : Decimal) : d.positional ≠ [] := by
  by_cases he : 0 ≤ d.exponent
  · exact (positional_word he).ne_nil
  · obtain ⟨whole, part, heq, -, -⟩ := positional_point he
    rw [heq]
    exact List.append_ne_nil_of_right_ne_nil _ (List.cons_ne_nil _ _)

theorem floating_ne_nil (style : Style) (d : Decimal) : d.floating style ≠ [] := by
  unfold floating
  dsimp only
  split
  · exact List.append_ne_nil_of_left_ne_nil (positional_ne_nil d) _
  split
  · exact positional_ne_nil d
  · exact List.append_ne_nil_of_right_ne_nil _ (Text.word_toString _).ne_nil

end Decimal

namespace Binary64

def hasFraction : Binary64 → Bool
  | .finite s m e h => (toInt? (.finite s m e h)).isNone
  | _ => false

theorem toInt?_isSome {s : Bool} {m : Nat} {e : Int} {h : Canonical m e}
    (hint : (toInt? (.finite s m e h)).isSome) : 0 ≤ e ∨ m % 2 ^ (-e).toNat = 0 := by
  unfold toInt? at hint
  dsimp only at hint
  split at hint
  · next he => exact .inl he
  split at hint
  · next hm => exact .inr hm
  · cases hint

theorem isBare_of_mem_signText {negative : Bool} {c : Char} (h : c ∈ signText negative) :
    isBare c := by
  cases negative with
  | false => cases h
  | true =>
    rw [List.mem_singleton.mp h]
    rfl

theorem word_signText_append {cs : List Char} (h : Word cs) (negative : Bool) :
    Word (signText negative ++ cs) where
  ne_nil := List.append_ne_nil_of_right_ne_nil _ h.ne_nil
  bare c hc := (List.mem_append.mp hc).elim isBare_of_mem_signText (h.bare c)

theorem text_cases (x : Binary64) :
    Word x.text.toList ∨
      x.hasFraction = true ∧
        ∃ whole part, x.text.toList = whole ++ '.' :: part ∧ Word whole ∧ Word part := by
  unfold text
  split
  · exact .inl (Text.word_toString _)
  cases x with
  | nan => exact .inl (.of_all (by decide) rfl)
  | infinite s =>
    left
    simp only [String.toList_ofList]
    exact word_signText_append (.of_all (by decide) rfl) s
  | finite s m e h =>
    simp only [String.toList_ofList]
    by_cases hexp : 0 ≤ (Decimal.shortest .up m e).exponent
    · exact .inl (word_signText_append (Decimal.positional_word hexp) s)
    · obtain ⟨whole, part, heq, hwhole, hpart⟩ := Decimal.positional_point hexp
      refine .inr ⟨?_, _, part, ?_, word_signText_append hwhole s, hpart⟩
      · rw [hasFraction, Option.isNone_iff_eq_none, ← Option.not_isSome_iff_eq_none]
        exact fun hint => hexp (Decimal.shortest_exponent_nonneg (toInt?_isSome hint) .up)
      · rw [heq, List.append_assoc]

theorem isNumeric_of_mem_floatText {style : Decimal.Style} {s : Bool} {m : Nat} {e : Int}
    {c : Char} (h : c ∈ (floatText style s m e).toList) : Decimal.isNumeric c := by
  rw [floatText, String.toList_ofList] at h
  rcases List.mem_append.mp h with h | h
  · exact Decimal.isNumeric_of_isBare (isBare_of_mem_signText h)
  · exact Decimal.isNumeric_of_mem_floating h

end Binary64

end PathQuery

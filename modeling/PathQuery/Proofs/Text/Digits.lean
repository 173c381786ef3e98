import PathQuery.Evaluation
import PathQuery.Proofs.Text.Quoted
import Mathlib.Data.List.Induction
import Mathlib.Data.Nat.Digits.Defs

/-!
Decimal numbers. A text is read as the value of its digits; the digits of a number
denote the number, and so does the text of an index that is a machine word.
-/
namespace PathQuery

namespace Text

theorem digit?_digitChar : ∀ d < 10, digit? 10 d.digitChar = some d := by decide

theorem ofDigits_concat (base : Nat) (ds : List Nat) (d : Nat) :
    ofDigits base (ds ++ [d]) = base * ofDigits base ds + d := by
  simp [ofDigits]

theorem mapM_digit?_toDigits (n : Nat) :
    ∃ ds, (Nat.toDigits 10 n).mapM (digit? 10) = some ds ∧ ofDigits 10 ds = n := by
  induction n using Nat.strongRecOn with
  | _ n ih =>
    rw [Nat.toDigits_eq_if (by decide)]
    split
    · next hlt => exact ⟨[n], by simp [digit?_digitChar n hlt], by simp [ofDigits]⟩
    · next hle =>
      obtain ⟨ds, hread, hvalue⟩ := ih (n / 10) (Nat.div_lt_self (by omega) (by decide))
      refine ⟨ds ++ [n % 10], ?_, ?_⟩
      · simp [List.mapM_append, hread, digit?_digitChar (n % 10) (Nat.mod_lt _ (by decide))]
      · rw [ofDigits_concat, hvalue, Nat.div_add_mod]

theorem nat?_toDigits (n : Nat) : nat? 10 (Nat.toDigits 10 n) = some n := by
  obtain ⟨ds, hread, hvalue⟩ := mapM_digit?_toDigits n
  rw [nat?, if_neg (by simp), hread, Option.map_some, hvalue]

theorem head?_toDigits_ne_zero {n : Nat} (h : n ≠ 0) : (Nat.toDigits 10 n).head? ≠ some '0' := by
  induction n using Nat.strongRecOn with
  | _ n ih =>
    rw [Nat.toDigits_eq_if (by decide)]
    split
    · next hlt =>
      have digit : ∀ d < 10, d ≠ 0 → [d.digitChar].head? ≠ some '0' := by decide
      exact digit n hlt h
    · next hle =>
      have front := ih (n / 10) (Nat.div_lt_self (by omega) (by decide)) (by omega)
      cases first : (Nat.toDigits 10 (n / 10)).head? with
      | none => simp at first
      | some c =>
        rw [first] at front
        rwa [List.head?_append, first, Option.some_or]

theorem digit?_ten (c : Char) :
    digit? 10 c = if c.isDigit then some (c.toNat - '0'.toNat) else none := by
  unfold digit?
  by_cases h : c.isDigit
  · have small : c.toNat - '0'.toNat < 10 := by
      have bounds := Char.isDigit_iff_toNat.mp h
      have zero : '0'.toNat = 48 := rfl
      have nine : '9'.toNat = 57 := rfl
      omega
    rw [if_pos h, if_pos h, Option.filter_some, if_pos (decide_eq_true small)]
  · -- Letters stand for ten and more.
    rw [if_neg h, if_neg h, Option.filter_eq_none_iff]
    intro value hvalue
    split_ifs at hvalue <;> simp at hvalue ⊢ <;> omega

theorem mapM_digit?_ten (cs : List Char) : cs.mapM (digit? 10) =
    if cs.all Char.isDigit then some (cs.map fun c => c.toNat - '0'.toNat) else none := by
  induction cs with
  | nil => rfl
  | cons c cs ih =>
    rw [List.mapM_cons, digit?_ten, ih, List.all_cons]
    cases c.isDigit with
    | false => rfl
    | true => cases cs.all Char.isDigit <;> rfl

theorem ofDigits_eq (base : Nat) (ds : List Nat) :
    ofDigits base ds = Nat.ofDigits base ds.reverse := by
  induction ds using List.reverseRecOn with
  | nil => rfl
  | append_singleton ds d ih =>
    rw [ofDigits_concat, ih, List.reverse_concat, Nat.ofDigits_cons, Nat.add_comm]

theorem nat?_ten_eq_some_iff (cs : List Char) (n : Nat) :
    nat? 10 cs = some n ↔ cs ≠ [] ∧ (∀ c ∈ cs, c.isDigit) ∧
      Nat.ofDigits 10 (cs.map fun c => c.toNat - '0'.toNat).reverse = n := by
  rw [nat?, mapM_digit?_ten]
  cases cs with
  | nil => simp
  | cons c cs => simp [ofDigits_eq]

end Text

/-- A text is an index: decimal digits, which may have a plus sign in front, of a machine word. -/
def SpellsIndex (text : String) (i : Nat) : Prop :=
  i < 2 ^ 64 ∧ ∃ digits, (text.toList = digits ∨ text.toList = '+' :: digits) ∧ digits ≠ [] ∧
    (∀ c ∈ digits, c.isDigit) ∧
      Nat.ofDigits 10 (digits.map fun c => c.toNat - '0'.toNat).reverse = i

theorem indexOf?_eq_some_iff (text : String) (i : Nat) :
    indexOf? text = some i ↔ SpellsIndex text i := by
  have read (digits : List Char) : (Text.nat? 10 digits).filter (· < 2 ^ 64) = some i ↔
      i < 2 ^ 64 ∧ digits ≠ [] ∧ (∀ c ∈ digits, c.isDigit) ∧
        Nat.ofDigits 10 (digits.map fun c => c.toNat - '0'.toNat).reverse = i := by
    rw [Option.filter_eq_some_iff, Text.nat?_ten_eq_some_iff, decide_eq_true_iff, and_comm]
  rw [indexOf?, SpellsIndex]
  split
  · next digits signed =>
    refine (read digits).trans (and_congr_right fun _ => ⟨fun h => ⟨digits, .inr signed, h⟩, ?_⟩)
    rintro ⟨ds, unsigned | same, h⟩
    · have sign : '+' ∈ ds := by rw [← unsigned, signed]; exact List.mem_cons_self
      cases h.2.1 '+' sign
    · obtain rfl : digits = ds := by simpa [signed] using same
      exact h
  · next unsigned =>
    refine (read text.toList).trans (and_congr_right fun _ => ⟨fun h => ⟨_, .inl rfl, h⟩, ?_⟩)
    rintro ⟨ds, rfl | signed, h⟩
    · exact h
    · exact absurd signed (unsigned ds)

theorem indexOf?_toString {i : Nat} (h : i < 2 ^ 64) : indexOf? (toString i) = some i := by
  have chars : (toString i).toList = Nat.toDigits 10 i := by
    rw [Nat.toString_eq_repr, Nat.toList_repr]
  rw [indexOf?, chars]
  split
  · next ds heq =>
    have sign : '+' ∈ Nat.toDigits 10 i := by simp [heq]
    have digit := Nat.isDigit_of_mem_toDigits (by decide) (by decide) sign
    cases digit
  · rw [Text.nat?_toDigits, Option.filter_some, if_pos (decide_eq_true h)]

end PathQuery

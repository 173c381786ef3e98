import PathQuery.Text.Quoted
import Mathlib.Tactic.SplitIfs

/-!
Quoted text can be read back. No character's spelling between quotes begins the
spelling of another one, so two texts with one spelling are the same text.
-/
namespace PathQuery.Text

theorem digitChar_inj {m n : Nat} (hm : m < 16) (hn : n < 16)
    (h : m.digitChar = n.digitChar) : m = n := by
  have hread : ∀ k < 16, hexDigit? k.digitChar = some k := by decide
  have hsome : some m = some n := by rw [← hread m hm, h, hread n hn]
  exact Option.some.inj hsome

theorem exists_digit_of_mem_toDigits {base : Nat} (hb : 1 < base) {n : Nat} {c : Char}
    (h : c ∈ Nat.toDigits base n) : ∃ d < base, c = d.digitChar := by
  induction n using Nat.strongRecOn with
  | _ n ih =>
    rw [Nat.toDigits_eq_if hb] at h
    split at h
    · next hlt => exact ⟨n, hlt, List.mem_singleton.mp h⟩
    · next hle =>
      rcases List.mem_append.mp h with h | h
      · exact ih (n / base) (Nat.div_lt_self (by omega) hb) h
      · exact ⟨n % base, Nat.mod_lt _ (by omega), List.mem_singleton.mp h⟩

theorem toDigits_injective {base : Nat} (hb : 1 < base) (hb' : base ≤ 16) :
    Function.Injective (Nat.toDigits base) := by
  intro m
  induction m using Nat.strongRecOn with
  | _ m ih =>
    intro n h
    rw [Nat.toDigits_eq_if (n := m) hb, Nat.toDigits_eq_if (n := n) hb] at h
    have hne (k : Nat) : Nat.toDigits base k ≠ [] :=
      List.ne_nil_of_length_pos Nat.length_toDigits_pos
    split at h <;> split at h
    · next hm hn => exact digitChar_inj (by omega) (by omega) (List.cons.inj h).1
    · exact absurd (List.append_eq_singleton_iff.mp h.symm) (by simp [hne])
    · exact absurd (List.append_eq_singleton_iff.mp h) (by simp [hne])
    · next hm hn =>
      obtain ⟨hfront, hlast⟩ := List.append_inj' h rfl
      have hquot := ih (m / base) (Nat.div_lt_self (by omega) hb) hfront
      have hlt (k : Nat) : k % base < 16 :=
        Nat.lt_of_lt_of_le (Nat.mod_lt _ (by omega)) hb'
      have hrem := digitChar_inj (hlt m) (hlt n) (List.cons.inj hlast).1
      rw [← Nat.div_add_mod m base, ← Nat.div_add_mod n base, hquot, hrem]

theorem append_cons_inj {d : Char} {as bs xs ys : List Char} (ha : d ∉ as) (hb : d ∉ bs)
    (h : as ++ d :: xs = bs ++ d :: ys) : as = bs ∧ xs = ys := by
  have hsplit := congrArg (List.splitOn d) h
  rw [List.splitOn_append_cons_of_beq _ _ BEq.rfl, List.splitOn_append_cons_of_beq _ _ BEq.rfl,
    List.splitOn_eq_singleton ha,
    List.splitOn_eq_singleton hb] at hsplit
  obtain rfl : as = bs := (List.cons.inj hsplit).1
  exact ⟨rfl, (List.cons.inj (List.append_cancel_left h)).2⟩

theorem digit_of_mem_codeText {c x : Char} (h : x ∈ codeText c) : ∃ d < 16, x = d.digitChar :=
  exists_digit_of_mem_toDigits (by decide) h

theorem closing_notMem_codeText (c : Char) : '\x7d' ∉ codeText c := by
  intro h
  obtain ⟨d, hd, heq⟩ := digit_of_mem_codeText h
  exact absurd heq (by revert d; decide)

theorem codeText_injective : Function.Injective codeText := fun _ _ h =>
  Char.toNat_inj.mp (toDigits_injective (by decide) (by decide) h)

def shortEscapes : List (Char × Char) :=
  [('\x00', '0'), ('\t', 't'), ('\r', 'r'), ('\n', 'n'), ('\\', '\\'), ('"', '"')]

theorem quotedChar_cases (c : Char) :
    (∃ e, (c, e) ∈ shortEscapes ∧ quotedChar c = ['\\', e]) ∨
      (c ≠ '\\' ∧ c ≠ '"' ∧ quotedChar c = [c]) ∨
      quotedChar c = '\\' :: 'u' :: '\x7b' :: (codeText c ++ ['\x7d']) := by
  unfold quotedChar shortEscapes
  split_ifs with h₁ h₂ h₃ h₄ h₅ h₆ h₇
  · exact .inl ⟨'0', by simp [h₁], rfl⟩
  · exact .inl ⟨'t', by simp [h₂], rfl⟩
  · exact .inl ⟨'r', by simp [h₃], rfl⟩
  · exact .inl ⟨'n', by simp [h₄], rfl⟩
  · exact .inl ⟨'\\', by simp [h₅], rfl⟩
  · exact .inl ⟨'"', by simp [h₆], rfl⟩
  · exact .inr (.inl ⟨h₅, h₆, rfl⟩)
  · exact .inr (.inr rfl)

theorem shortEscapes_inj {c d e : Char} (hc : (c, e) ∈ shortEscapes)
    (hd : (d, e) ∈ shortEscapes) : c = d := by
  have hinj : ∀ x ∈ shortEscapes, ∀ y ∈ shortEscapes, x.2 = y.2 → x.1 = y.1 := by decide
  exact hinj _ hc _ hd rfl

theorem shortEscapes_ne_u {c : Char} : (c, 'u') ∉ shortEscapes := by
  have hne : ∀ x ∈ shortEscapes, x.2 ≠ 'u' := by decide
  exact fun h => hne _ h rfl

theorem quotedChar_append_inj {c d : Char} {xs ys : List Char}
    (h : quotedChar c ++ xs = quotedChar d ++ ys) : c = d ∧ xs = ys := by
  rcases quotedChar_cases c with ⟨e, he, hc⟩ | ⟨hcne, -, hc⟩ | hc <;>
    rcases quotedChar_cases d with ⟨e', he', hd⟩ | ⟨hdne, -, hd⟩ | hd <;>
    rw [hc, hd] at h
  · obtain ⟨rfl, rfl⟩ : e = e' ∧ xs = ys := by simpa using h
    exact ⟨shortEscapes_inj he he', rfl⟩
  · exact absurd (List.cons.inj h).1.symm hdne
  · obtain rfl : e = 'u' := (List.cons.inj (List.cons.inj h).2).1
    exact absurd he shortEscapes_ne_u
  · exact absurd (List.cons.inj h).1 hcne
  · simpa using h
  · exact absurd (List.cons.inj h).1 hcne
  · obtain rfl : 'u' = e' := (List.cons.inj (List.cons.inj h).2).1
    exact absurd he' shortEscapes_ne_u
  · exact absurd (List.cons.inj h).1.symm hdne
  · have hcode : codeText c ++ '\x7d' :: xs = codeText d ++ '\x7d' :: ys := by simpa using h
    obtain ⟨hcode, hrest⟩ :=
      append_cons_inj (closing_notMem_codeText c) (closing_notMem_codeText d) hcode
    exact ⟨codeText_injective hcode, hrest⟩

theorem quotedChar_ne_nil (c : Char) : quotedChar c ≠ [] := by
  rcases quotedChar_cases c with ⟨e, -, h⟩ | ⟨-, -, h⟩ | h <;> simp [h]

theorem flatMap_quotedChar_injective :
    Function.Injective fun cs : List Char => cs.flatMap quotedChar := by
  intro cs
  induction cs with
  | nil =>
    intro ds h
    cases ds with
    | nil => rfl
    | cons d ds => exact absurd h.symm (by simp [quotedChar_ne_nil])
  | cons c cs ih =>
    intro ds h
    cases ds with
    | nil => exact absurd h (by simp [quotedChar_ne_nil])
    | cons d ds =>
      simp only [List.flatMap_cons] at h
      obtain ⟨rfl, hrest⟩ := quotedChar_append_inj h
      rw [ih hrest]

theorem quoted_injective : Function.Injective quoted := by
  intro s t h
  have hchars := String.ofList_injective h
  unfold quotedChars at hchars
  have hbody := List.append_cancel_right (List.cons.inj hchars).2
  exact String.toList_injective (flatMap_quotedChar_injective hbody)

end PathQuery.Text

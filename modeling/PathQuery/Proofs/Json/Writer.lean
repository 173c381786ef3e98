import PathQuery.Json.Writer
import PathQuery.Proofs.Number.Decimal

/-!
JSON texts are closed: every bracket and every quote that is opened in the text
of a value is closed in it. So no dot in the text of a container separates, and
inside brackets no dot in any text does.
-/
namespace PathQuery.Json

open Text Text.Nesting

theorem escapedChar_passes (c : Char) (depth : Nat) :
    Passes (inside depth) (escapedChar c) (inside depth) := by
  have hdigit : ∀ d < 16, d.digitChar ≠ '\\' ∧ d.digitChar ≠ '"' := by decide
  unfold escapedChar
  split_ifs with hquote hback
  · exact passes_escape (by simp) depth
  · exact passes_escape (by simp) depth
  · exact passes_escape (by simp) depth
  · exact passes_escape (by simp) depth
  · exact passes_escape (by simp) depth
  · exact passes_escape (by simp) depth
  · exact passes_escape (by simp) depth
  · next hlow =>
    refine passes_escape (fun x hx => ?_) depth
    simp only [List.mem_cons, List.not_mem_nil, or_false] at hx
    rcases hx with rfl | rfl | rfl | rfl
    · decide
    · decide
    · exact hdigit _ (by omega)
    · exact hdigit _ (by omega)
  · exact passes_inside (by simp [hquote, hback]) depth

theorem stringChars_passes (s : String) (depth : Nat) :
    Passes (outside depth) (stringChars s) (outside depth) :=
  Passes.quote (.flatMap (fun c => escapedChar_passes c depth) s.toList)

theorem isPlain_of_mem_numberText {n : JsonNumber} {c : Char} (h : c ∈ (numberText n).toList) :
    isPlain c := by
  cases n with
  | integer n => exact isPlain_of_isBare ((word_toString n).bare c h)
  | real x =>
    cases x with
    | finite s m e hm =>
      have hnumeric := Binary64.isNumeric_of_mem_floatText h
      rw [Decimal.isNumeric, Bool.or_eq_true, decide_eq_true_eq] at hnumeric
      rcases hnumeric with hbare | rfl
      · exact isPlain_of_isBare hbare
      · rfl
    | _ =>
      have hnull : ∀ x ∈ "null".toList, isPlain x := List.all_eq_true.mp rfl
      exact hnull c h

mutual

theorem chars_passes (depth : Nat) : ∀ v : Json,
    Passes (outside (depth + 1)) (chars v) (outside (depth + 1))
  | .null => passes_of_isPlain (List.all_eq_true.mp rfl) nofun
  | .bool true => passes_of_isPlain (List.all_eq_true.mp rfl) nofun
  | .bool false => passes_of_isPlain (List.all_eq_true.mp rfl) nofun
  | .number _ => passes_of_isPlain (fun _ h => isPlain_of_mem_numberText h) nofun
  | .string s => stringChars_passes s _
  | .array items => (itemChars_passes (depth + 1) items).bracket (by decide) (by decide)
  | .object members => (memberChars_passes (depth + 1) members).bracket (by decide) (by decide)

theorem itemChars_passes (depth : Nat) : ∀ items : List Json,
    Passes (outside (depth + 1)) (itemChars items) (outside (depth + 1))
  | [] => rfl
  | [item] => by
    rw [itemChars]
    exact chars_passes depth item
  | item :: next :: rest => by
    rw [itemChars]
    · exact (chars_passes depth item).append
        (.cons (by decide) (itemChars_passes depth (next :: rest)))
    · exact nofun

theorem memberChars_passes (depth : Nat) : ∀ members : List (String × Json),
    Passes (outside (depth + 1)) (memberChars members) (outside (depth + 1))
  | [] => rfl
  | [(name, v)] => by
    rw [memberChars]
    exact (stringChars_passes name _).append (.cons (by decide) (chars_passes depth v))
  | (name, v) :: next :: rest => by
    rw [memberChars, List.append_assoc]
    · exact (stringChars_passes name _).append (.cons (by decide)
        ((chars_passes depth v).append
          (.cons (by decide) (memberChars_passes depth (next :: rest)))))
    · exact nofun

end

theorem array_passes (items : List Json) (depth : Nat) :
    Passes (outside depth) (chars (.array items)) (outside depth) :=
  (itemChars_passes depth items).bracket (by decide) (by decide)

theorem object_passes (members : List (String × Json)) (depth : Nat) :
    Passes (outside depth) (chars (.object members)) (outside depth) :=
  (memberChars_passes depth members).bracket (by decide) (by decide)

end PathQuery.Json

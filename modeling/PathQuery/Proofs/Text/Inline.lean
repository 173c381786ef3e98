import PathQuery.Proofs.Json.Writer

/-!
Texts that stay on their line. A quoted text and the text of a JSON value have no
control characters of ASCII, whatever the texts and names in them are made of: in
quotes every such character is written with a backslash, and outside of quotes
there are only words, numbers and brackets.
-/
namespace PathQuery.Text

/-- Not a control character of ASCII, so that it neither ends a line nor moves on in it. -/
def isInline (c : Char) : Bool := 0x20 ≤ c.toNat

def Inline (cs : List Char) : Prop := ∀ c ∈ cs, isInline c

theorem Inline.of_all {cs : List Char} (h : cs.all isInline = true) : Inline cs :=
  List.all_eq_true.mp h

theorem Inline.append {as bs : List Char} (ha : Inline as) (hb : Inline bs) :
    Inline (as ++ bs) := List.forall_mem_append.mpr ⟨ha, hb⟩

theorem Inline.cons {c : Char} {cs : List Char} (hc : isInline c) (h : Inline cs) :
    Inline (c :: cs) := List.forall_mem_cons.mpr ⟨hc, h⟩

theorem Inline.flatMap {α : Type} {f : α → List Char} (h : ∀ x, Inline (f x)) (xs : List α) :
    Inline (xs.flatMap f) := List.forall_mem_flatMap.mpr fun x _ => h x

theorem Inline.enclose {cs : List Char} (h : Inline cs) {opening closing : Char}
    (ho : isInline opening) (hc : isInline closing) : Inline (opening :: cs ++ [closing]) :=
  (h.cons ho).append (.cons hc (List.forall_mem_nil _))

theorem Inline.notMem {cs : List Char} (h : Inline cs) {c : Char} (hc : isInline c = false) :
    c ∉ cs := by
  intro hmem
  rw [h c hmem] at hc
  cases hc

theorem inline_of_isNumeric {cs : List Char} (h : ∀ c ∈ cs, Decimal.isNumeric c) : Inline cs := by
  intro c hc
  have code := Decimal.code_of_isNumeric (h c hc)
  exact decide_eq_true (by omega)

theorem Word.inline {cs : List Char} (h : Word cs) : Inline cs :=
  inline_of_isNumeric fun c hc => Decimal.isNumeric_of_isBare (h.bare c hc)

theorem isInline_of_isVisible {c : Char} (h : isVisible c) : isInline c := by
  unfold isVisible at h
  split at h
  · exact h
  · exact decide_eq_true (by omega)

theorem isInline_digitChar : ∀ d < 16, isInline d.digitChar := by decide

theorem quotedChar_inline (c : Char) : Inline (quotedChar c) := by
  unfold quotedChar
  split_ifs with h₁ h₂ h₃ h₄ h₅ h₆ visible
  · exact .of_all rfl
  · exact .of_all rfl
  · exact .of_all rfl
  · exact .of_all rfl
  · exact .of_all rfl
  · exact .of_all rfl
  · exact .cons (isInline_of_isVisible visible) (List.forall_mem_nil _)
  · have code : Inline (codeText c) := fun x hx => by
      obtain ⟨d, hd, rfl⟩ := digit_of_mem_codeText hx
      exact isInline_digitChar d hd
    exact (Inline.append (.of_all rfl) code).append (.of_all rfl)

theorem quoted_inline (s : String) : Inline (quoted s).toList := by
  rw [quoted, String.toList_ofList]
  exact (Inline.flatMap quotedChar_inline s.toList).enclose rfl rfl

end PathQuery.Text

namespace PathQuery.Json

open Text

theorem escapedChar_inline (c : Char) : Inline (escapedChar c) := by
  unfold escapedChar
  split_ifs with h₁ h₂ h₃ h₄ h₅ h₆ h₇ low
  · exact .of_all rfl
  · exact .of_all rfl
  · exact .of_all rfl
  · exact .of_all rfl
  · exact .of_all rfl
  · exact .of_all rfl
  · exact .of_all rfl
  · have high := isInline_digitChar (c.toNat / 16) (by omega)
    have rest := isInline_digitChar (c.toNat % 16) (by omega)
    have front : Inline ['\\', 'u', '0', '0'] := .of_all rfl
    exact front.append (.cons high (.cons rest (List.forall_mem_nil _)))
  · exact .cons (decide_eq_true (by omega)) (List.forall_mem_nil _)

theorem stringChars_inline (s : String) : Inline (stringChars s) :=
  (Inline.flatMap escapedChar_inline s.toList).enclose rfl rfl

theorem numberText_inline (n : JsonNumber) : Inline (numberText n).toList := by
  cases n with
  | integer n => exact (word_toString n).inline
  | real x =>
    cases x with
    | finite s m e _ => exact inline_of_isNumeric fun _ => Binary64.isNumeric_of_mem_floatText
    | _ =>
      have null : Inline "null".toList := .of_all rfl
      exact null

mutual

theorem chars_inline : ∀ v : Json, Inline (chars v)
  | .null => .of_all rfl
  | .bool true => .of_all rfl
  | .bool false => .of_all rfl
  | .number n => numberText_inline n
  | .string s => stringChars_inline s
  | .array items => (itemChars_inline items).enclose rfl rfl
  | .object members => (memberChars_inline members).enclose rfl rfl

theorem itemChars_inline : ∀ items : List Json, Inline (itemChars items)
  | [] => List.forall_mem_nil _
  | [item] => by
    rw [itemChars]
    exact chars_inline item
  | item :: next :: rest => by
    rw [itemChars]
    · exact (chars_inline item).append (.cons rfl (itemChars_inline (next :: rest)))
    · exact nofun

theorem memberChars_inline : ∀ members : List (String × Json), Inline (memberChars members)
  | [] => List.forall_mem_nil _
  | [(name, v)] => by
    rw [memberChars]
    exact (stringChars_inline name).append (.cons rfl (chars_inline v))
  | (name, v) :: next :: rest => by
    rw [memberChars, List.append_assoc]
    · exact (stringChars_inline name).append (.cons rfl
        ((chars_inline v).append (.cons rfl (memberChars_inline (next :: rest)))))
    · exact nofun

end

theorem text_inline (v : Json) : Inline v.text.toList := by
  rw [text, String.toList_ofList]
  exact chars_inline v

end PathQuery.Json

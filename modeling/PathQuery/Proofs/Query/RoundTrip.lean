import PathQuery.Proofs.Query.Grammar

/-!
Parsing undoes writing. A written list of parts derives from the grammar, and
denotes the list itself, less one bare parent at its end: nothing follows the
last dot then, so no part is read there.
-/
namespace PathQuery.Query

variable {compile : String → Option Pattern}

/-- A specifier that parsing can give: no literal looks like another specifier. -/
def Specifier.Readable : Specifier → Prop
  | .literal text => text ∉ ["", "*", "**"]
  | _ => True

def Part.bareParent : Part := ⟨.parent, []⟩

/-- The parts without the bare parent at their end, if there is one. -/
def dropBareParent : List Part → List Part
  | [] => []
  | [p] => if p = .bareParent then [] else [p]
  | p :: q :: rest => p :: dropBareParent (q :: rest)

theorem dropBareParent_concat (parts : List Part) :
    dropBareParent (parts ++ [.bareParent]) = parts := by
  induction parts with
  | nil => rfl
  | cons p parts ih =>
    cases parts with
    | nil => rfl
    | cons q rest => exact congrArg (p :: ·) ih

theorem dropBareParent_of_getLast?_ne {parts : List Part}
    (h : parts.getLast? ≠ some .bareParent) : dropBareParent parts = parts := by
  induction parts with
  | nil => rfl
  | cons p parts ih =>
    cases parts with
    | nil => exact if_neg fun hp => h (by rw [hp]; rfl)
    | cons q rest => exact congrArg (p :: ·) (ih (by simpa using h))

theorem not_mem_meta_of_isMeta {c : Char} (hc : isMeta c = false) :
    c ∉ ['.', '=', '~', '!', '\\', '"'] := by
  simp only [isMeta, Bool.or_eq_false_iff, decide_eq_false_iff_not] at hc
  simp [hc]

theorem textOf_escapeChars (cs : List Char) : TextOf (escapeChars cs) cs := by
  induction cs with
  | nil => exact .nil
  | cons c cs ih =>
    cases hc : isMeta c with
    | true =>
      have step : escapeChars (c :: cs) = '\\' :: c :: escapeChars cs := by simp [escapeChars, hc]
      rw [step]
      exact .escaped ih
    | false =>
      have step : escapeChars (c :: cs) = c :: escapeChars cs := by simp [escapeChars, hc]
      rw [step]
      exact .plain (not_mem_meta_of_isMeta hc) ih

theorem filterOf_chars (f : Filter) : FilterOf Pattern.compile? f.chars f := by
  induction f with
  | equals text =>
    have h : FilterOf Pattern.compile? _ _ := .equals (textOf_escapeChars text.toList)
    rwa [String.ofList_toList] at h
  | matching pattern =>
    refine .matching (textOf_escapeChars pattern.source.toList) ?_
    rw [String.ofList_toList, Pattern.compile?_source]
  | negated f ih => exact .negated ih

theorem filtersOf_chars (fs : List Filter) :
    FiltersOf Pattern.compile? (fs.flatMap Filter.chars) fs := by
  induction fs with
  | nil => exact .nil
  | cons f fs ih =>
    rw [List.flatMap_cons]
    exact .cons (filterOf_chars f) ih

theorem textOf_specifier_chars (s : Specifier) (hs : s.Readable) :
    ∃ text, TextOf s.chars text ∧ SpecifierOf (String.ofList text) s := by
  cases s with
  | parent => exact ⟨[], .nil, .parent⟩
  | children => exact ⟨['*'], .plain (by decide) .nil, .children⟩
  | descendants =>
    exact ⟨['*', '*'], .plain (by decide) (.plain (by decide) .nil), .descendants⟩
  | literal text =>
    refine ⟨text.toList, textOf_escapeChars text.toList, ?_⟩
    rw [String.ofList_toList]
    exact .literal hs

theorem partOf_chars (p : Part) (hp : p.specifier.Readable) :
    PartOf Pattern.compile? p.chars p := by
  obtain ⟨text, ht, hs⟩ := textOf_specifier_chars p.specifier hp
  exact .mk ht hs (filtersOf_chars p.filters)

theorem filter_chars_ne_nil (f : Filter) : f.chars ≠ [] := by
  cases f <;> simp [Filter.chars]

theorem part_chars_eq_nil {p : Part} (hp : p.specifier.Readable) (h : p.chars = []) :
    p = .bareParent := by
  obtain ⟨s, fs⟩ := p
  obtain ⟨hs, hfs⟩ := List.append_eq_nil_iff.mp h
  have nofilter : fs = [] := by
    cases fs with
    | nil => rfl
    | cons f fs =>
      rw [List.flatMap_cons] at hfs
      exact absurd (List.append_eq_nil_iff.mp hfs).1 (filter_chars_ne_nil f)
  cases s with
  | parent => rw [nofilter]; rfl
  | children => cases hs
  | descendants => cases hs
  | literal text =>
    obtain ⟨cs, ht, hlit⟩ := textOf_specifier_chars _ hp
    rw [show (Specifier.literal text).chars = [] from hs] at ht
    cases ht
    have htext := specifierOf_iff.mp hlit
    cases htext

theorem queryOf_charsOfParts (parts : List Part) (h : ∀ p ∈ parts, p.specifier.Readable) :
    QueryOf Pattern.compile? (charsOfParts parts) (dropBareParent parts) := by
  induction parts with
  | nil => exact .nil
  | cons p rest ih =>
    have hp := h p List.mem_cons_self
    cases rest with
    | nil =>
      by_cases hbare : p = .bareParent
      · subst hbare; exact .nil
      · rw [dropBareParent, if_neg hbare]
        exact .last (partOf_chars p hp) fun hnil => hbare (part_chars_eq_nil hp hnil)
    | cons q rest =>
      exact .cons (partOf_chars p hp) (ih fun r hr => h r (List.mem_cons_of_mem p hr))

theorem SpecifierOf.readable {text : String} {s : Specifier} (h : SpecifierOf text s) :
    s.Readable := by
  cases h with
  | literal h => exact h
  | _ => exact trivial

theorem PartOf.readable {source : List Char} {p : Part} (h : PartOf compile source p) :
    p.specifier.Readable := by
  cases h with
  | mk _ hs _ => exact hs.readable

theorem QueryOf.readable {source : List Char} {parts : List Part}
    (h : QueryOf compile source parts) : ∀ p ∈ parts, p.specifier.Readable := by
  induction h with
  | nil => simp
  | last hp _ => simpa using hp.readable
  | cons hp _ ih => simpa using ⟨hp.readable, ih⟩

theorem parse_text {parts : List Part} (h : ∀ p ∈ parts, p.specifier.Readable) :
    parse (text parts) = .ok (dropBareParent parts) := by
  rw [parse, parseWith_eq_ok, text, String.toList_ofList]
  exact readParts_complete (queryOf_charsOfParts parts h)

/-- Parsing what was written gives the parts back, unless the last one is a bare parent, which is
lost. All lists of parts that parsing gives can be written like that. -/
theorem parse_text_eq (parts : List Part) :
    ((∀ p ∈ parts, p.specifier.Readable) →
      (parts.getLast? ≠ some .bareParent → parse (text parts) = .ok parts) ∧
      (∀ front, parts = front ++ [.bareParent] → parse (text parts) = .ok front)) ∧
    (∀ query, parse query = .ok parts → ∀ p ∈ parts, p.specifier.Readable) := by
  refine ⟨fun h => ?_, fun query hq => (readParts_sound (parseWith_eq_ok.mp hq)).readable⟩
  refine ⟨fun hlast => ?_, fun front hfront => ?_⟩
  · rw [parse_text h, dropBareParent_of_getLast?_ne hlast]
  · rw [parse_text h, hfront, dropBareParent_concat]

theorem parse_text_eq_nested :
    parse (text [⟨.literal "a.b=\"c\"", [.equals "", .negated (.negated (.equals "\\!~"))]⟩,
        .bareParent, .bareParent]) =
      .ok [⟨.literal "a.b=\"c\"", [.equals "", .negated (.negated (.equals "\\!~"))]⟩,
        .bareParent] := by
  refine ((parse_text_eq _).1 ?_).2 _ rfl
  simp [Specifier.Readable, Part.bareParent]

end PathQuery.Query

import PathQuery.Query.Parser
import Mathlib.Tactic.SplitIfs
import Mathlib.Tactic.Tauto

/-!
The grammar of queries, as relations between characters and what they denote.
The parser accepts exactly the derivable queries, and a query has one
denotation at most. All this holds whatever patterns compile. Each reader is
sound for its relation, and complete where what follows cannot belong to what is
read.
-/
namespace PathQuery.Query

variable {compile : String → Option Pattern}

/-- A text: characters that denote themselves, escaped characters and quoted spans. -/
inductive TextOf : List Char → List Char → Prop
  | nil : TextOf [] []
  | plain {c : Char} {source text : List Char} (hc : c ∉ ['.', '=', '~', '!', '\\', '"'])
      (h : TextOf source text) : TextOf (c :: source) (c :: text)
  | escaped {c : Char} {source text : List Char} (h : TextOf source text) :
      TextOf ('\\' :: c :: source) (c :: text)
  | quoted {span source text : List Char} (hs : '"' ∉ span) (h : TextOf source text) :
      TextOf ('"' :: span ++ '"' :: source) (span ++ text)

inductive FilterOf (compile : String → Option Pattern) : List Char → Filter → Prop
  | equals {source text : List Char} (h : TextOf source text) :
      FilterOf compile ('=' :: source) (.equals (String.ofList text))
  | matching {source text : List Char} {pattern : Pattern} (h : TextOf source text)
      (hp : compile (String.ofList text) = some pattern) :
      FilterOf compile ('~' :: source) (.matching pattern)
  | negated {source : List Char} {filter : Filter} (h : FilterOf compile source filter) :
      FilterOf compile ('!' :: source) (.negated filter)

inductive FiltersOf (compile : String → Option Pattern) : List Char → List Filter → Prop
  | nil : FiltersOf compile [] []
  | cons {source rest : List Char} {filter : Filter} {filters : List Filter}
      (h : FilterOf compile source filter) (hs : FiltersOf compile rest filters) :
      FiltersOf compile (source ++ rest) (filter :: filters)

inductive SpecifierOf : String → Specifier → Prop
  | parent : SpecifierOf "" .parent
  | children : SpecifierOf "*" .children
  | descendants : SpecifierOf "**" .descendants
  | literal {text : String} (h : text ∉ ["", "*", "**"]) : SpecifierOf text (.literal text)

inductive PartOf (compile : String → Option Pattern) : List Char → Part → Prop
  | mk {source rest text : List Char} {specifier : Specifier} {filters : List Filter}
      (h : TextOf source text) (hs : SpecifierOf (String.ofList text) specifier)
      (hf : FiltersOf compile rest filters) : PartOf compile (source ++ rest) ⟨specifier, filters⟩

/-- Parts that a dot ends each, then nothing or a part that is not empty. -/
inductive QueryOf (compile : String → Option Pattern) : List Char → List Part → Prop
  | nil : QueryOf compile [] []
  | last {source : List Char} {part : Part} (h : PartOf compile source part) (hs : source ≠ []) :
      QueryOf compile source [part]
  | cons {source rest : List Char} {part : Part} {parts : List Part}
      (h : PartOf compile source part) (hr : QueryOf compile rest parts) :
      QueryOf compile (source ++ '.' :: rest) (part :: parts)

theorem specifierOf_iff {text : String} {specifier : Specifier} :
    SpecifierOf text specifier ↔ specifier = .ofText text := by
  constructor
  · intro h
    cases h with
    | parent => rfl
    | children => rfl
    | descendants => rfl
    | literal h =>
      simp only [List.mem_cons, List.not_mem_nil, or_false, not_or] at h
      simp [Specifier.ofText, h]
  · rintro rfl
    unfold Specifier.ofText
    split_ifs with h₁ h₂ h₃
    · rw [h₁]; exact .parent
    · rw [h₂]; exact .children
    · rw [h₃]; exact .descendants
    · exact .literal (by simp [h₁, h₂, h₃])

def EndsText (rest : List Char) : Prop := ∀ c ∈ rest.head?, endsText c

def EndsPart (rest : List Char) : Prop := ∀ c ∈ rest.head?, c = '.'

theorem endsText_nil : EndsText [] := by simp [EndsText]

theorem endsText_cons {c : Char} {rest : List Char} : EndsText (c :: rest) ↔ endsText c := by
  simp [EndsText]

theorem endsPart_nil : EndsPart [] := by simp [EndsPart]

theorem endsPart_cons {c : Char} {rest : List Char} : EndsPart (c :: rest) ↔ c = '.' := by
  simp [EndsPart]

theorem EndsPart.endsText {rest : List Char} (h : EndsPart rest) : EndsText rest := by
  intro c hc
  rw [h c hc]
  rfl

theorem not_mem_meta_iff {c : Char} :
    c ∉ ['.', '=', '~', '!', '\\', '"'] ↔ endsText c = false ∧ c ≠ '"' ∧ c ≠ '\\' := by
  simp [endsText]
  tauto

theorem readText_none_nil : readText none [] = .ok ([], []) := by simp [readText]

theorem readText_stop {rest : List Char} (h : EndsText rest) :
    readText none rest = .ok ([], rest) := by
  cases rest with
  | nil => exact readText_none_nil
  | cons c rest =>
    rw [readText.eq_def]
    simp [endsText_cons.mp h]

theorem readText_plain {c : Char} (hc : c ∉ ['.', '=', '~', '!', '\\', '"']) (rest : List Char) :
    readText none (c :: rest) = (readText none rest).map fun r => (c :: r.1, r.2) := by
  obtain ⟨he, hq, hb⟩ := not_mem_meta_iff.mp hc
  rw [readText.eq_def]
  simp [he, hq, hb]

theorem readText_escaped (c : Char) (rest : List Char) :
    readText none ('\\' :: c :: rest) = (readText none rest).map fun r => (c :: r.1, r.2) := by
  rw [readText.eq_def]
  simp [endsText]

theorem readText_quote (rest : List Char) :
    readText none ('"' :: rest) = readText (some (rest.length + 1)) rest := by
  rw [readText.eq_def]
  simp [endsText]

theorem readText_span {span : List Char} (hs : '"' ∉ span) (remaining : Nat) (rest : List Char) :
    readText (some remaining) (span ++ '"' :: rest) =
      (readText none rest).map fun r => (span ++ r.1, r.2) := by
  induction span with
  | nil =>
    rw [List.nil_append, readText.eq_def]
    simp only [↓reduceIte]
    cases readText none rest <;> rfl
  | cons c span ih =>
    obtain ⟨hc, hs⟩ := not_or.mp (mt List.mem_cons.mpr hs)
    rw [List.cons_append, readText.eq_def]
    simp only [Ne.symm hc, ↓reduceIte, ih hs]
    cases readText none rest <;> rfl

theorem readText_complete {source text rest : List Char} (h : TextOf source text)
    (hr : EndsText rest) : readText none (source ++ rest) = .ok (text, rest) := by
  induction h with
  | nil => exact readText_stop hr
  | plain hc _ ih => rw [List.cons_append, readText_plain hc, ih]; rfl
  | escaped _ ih => rw [List.cons_append, List.cons_append, readText_escaped, ih]; rfl
  | quoted hs _ ih =>
    rw [List.cons_append, List.cons_append, List.append_assoc, List.cons_append, readText_quote,
      readText_span hs, ih]
    rfl

/-- What `readText` reads: a text, or the rest of a quoted span and then a text. -/
def TextFrom (quote : Option Nat) (source text : List Char) : Prop :=
  match quote with
  | none => TextOf source text
  | some _ => ∃ span after tail, '"' ∉ span ∧ source = span ++ '"' :: after ∧
      text = span ++ tail ∧ TextOf after tail

theorem readText_sound {quote : Option Nat} {cs text rest : List Char}
    (h : readText quote cs = .ok (text, rest)) :
    EndsText rest ∧ ∃ source, cs = source ++ rest ∧ TextFrom quote source text := by
  -- Cases 1, 3 and 4 are inside quotes, where the rest of a span comes before the text.
  fun_induction readText quote cs generalizing text rest with
  | case1 => cases h
  | case2 => cases h; exact ⟨endsText_nil, [], rfl, .nil⟩
  | case3 cs _ ih =>
    obtain ⟨hr, source, rfl, ht⟩ := ih h
    exact ⟨hr, '"' :: source, rfl, [], source, text, List.not_mem_nil, rfl, rfl, ht⟩
  | case4 c cs _ hc ih =>
    obtain ⟨⟨t, r⟩, hread, heq⟩ := exists_of_map_eq_ok h
    cases heq
    obtain ⟨hr, _, rfl, span, after, tail, hs, rfl, rfl, ht⟩ := ih hread
    refine ⟨hr, c :: span ++ '"' :: after, rfl, c :: span, after, tail, ?_, rfl, rfl, ht⟩
    exact fun hmem => (List.mem_cons.mp hmem).elim (fun e => hc e.symm) hs
  | case5 c cs hc => cases h; exact ⟨endsText_cons.mpr hc, [], rfl, .nil⟩
  | case6 cs _ ih =>
    obtain ⟨hr, _, rfl, span, after, tail, hs, rfl, rfl, ht⟩ := ih h
    exact ⟨hr, '"' :: span ++ '"' :: after, rfl, .quoted hs ht⟩
  | case7 => cases h
  | case8 c cs _ _ ih =>
    obtain ⟨⟨t, r⟩, hread, heq⟩ := exists_of_map_eq_ok h
    cases heq
    obtain ⟨hr, source, rfl, ht⟩ := ih hread
    exact ⟨hr, '\\' :: c :: source, rfl, .escaped ht⟩
  | case9 c cs he hq hb ih =>
    obtain ⟨⟨t, r⟩, hread, heq⟩ := exists_of_map_eq_ok h
    cases heq
    obtain ⟨hr, source, rfl, ht⟩ := ih hread
    have hc := not_mem_meta_iff.mpr ⟨by simpa using he, hq, hb⟩
    exact ⟨hr, c :: source, rfl, .plain hc ht⟩

theorem FilterOf.endsText {source : List Char} {filter : Filter}
    (h : FilterOf compile source filter) (rest : List Char) : EndsText (source ++ rest) := by
  cases h <;> exact endsText_cons.mpr rfl

theorem FiltersOf.endsText {source rest : List Char} {filters : List Filter}
    (h : FiltersOf compile source filters) (hr : EndsPart rest) : EndsText (source ++ rest) := by
  cases h with
  | nil => exact hr.endsText
  | cons h _ => rw [List.append_assoc]; exact h.endsText _

theorem readFilter_stop {rest : List Char} (h : EndsPart rest) :
    readFilter compile rest = .ok (none, rest) := by
  cases rest with
  | nil => rw [readFilter]
  | cons c rest => rw [readFilter, if_pos (endsPart_cons.mp h)]

theorem readFilter_complete {source rest : List Char} {filter : Filter}
    (h : FilterOf compile source filter) (hr : EndsText rest) :
    readFilter compile (source ++ rest) = .ok (some filter, rest) := by
  induction h with
  | equals ht =>
    rw [List.cons_append, readFilter, readText_complete ht hr]
    rfl
  | matching ht hp =>
    rw [List.cons_append, readFilter, readText_complete ht hr]
    simp [hp]
  | negated _ ih =>
    rw [List.cons_append, readFilter, ih]
    rfl

theorem readFilter_sound {cs rest : List Char} {filter : Filter}
    (h : readFilter compile cs = .ok (some filter, rest)) :
    EndsText rest ∧ ∃ source, cs = source ++ rest ∧ FilterOf compile source filter := by
  fun_induction readFilter compile cs generalizing filter rest with
  | case3 cs =>
    obtain ⟨⟨t, r⟩, hread, heq⟩ := exists_of_map_eq_ok h
    cases heq
    obtain ⟨hr, source, rfl, ht⟩ := readText_sound hread
    exact ⟨hr, '=' :: source, rfl, .equals ht⟩
  | case5 cs source after hread pattern hp =>
    cases h
    obtain ⟨hr, source, rfl, ht⟩ := readText_sound hread
    exact ⟨hr, '~' :: source, rfl, .matching ht hp⟩
  | case8 cs filter after hread _ _ _ ih =>
    cases h
    obtain ⟨hr, source, rfl, hf⟩ := ih hread
    exact ⟨hr, '!' :: source, rfl, .negated hf⟩
  -- All other cases fail or find no filter.
  | case1 => cases h
  | case2 => cases h
  | case4 => cases h
  | case6 => cases h
  | case7 => cases h
  | case9 => cases h
  | case10 => cases h
  | case11 => cases h

theorem readFilter_none_sound {cs rest : List Char} (h : readFilter compile cs = .ok (none, rest)) :
    rest = cs ∧ EndsPart rest := by
  unfold readFilter at h
  split at h
  · cases h; exact ⟨rfl, endsPart_nil⟩
  · next c cs =>
    split_ifs at h with hc
    · cases h; exact ⟨rfl, endsPart_cons.mpr hc⟩
    · obtain ⟨_, _, heq⟩ := exists_of_map_eq_ok h
      cases heq
    · split at h
      · cases h
      · split at h <;> cases h
    · split at h <;> cases h

theorem readFilters_of_none {cs rest : List Char} (h : readFilter compile cs = .ok (none, rest)) :
    readFilters compile cs = .ok ([], rest) := by
  rw [readFilters.eq_def]
  split <;> simp_all

theorem readFilters_of_some {cs rest : List Char} {filter : Filter}
    (h : readFilter compile cs = .ok (some filter, rest)) :
    readFilters compile cs = (readFilters compile rest).map fun r => (filter :: r.1, r.2) := by
  rw [readFilters.eq_def]
  split <;> simp_all

theorem readFilters_complete {source rest : List Char} {filters : List Filter}
    (h : FiltersOf compile source filters) (hr : EndsPart rest) :
    readFilters compile (source ++ rest) = .ok (filters, rest) := by
  induction h with
  | nil => exact readFilters_of_none (readFilter_stop hr)
  | cons h hs ih =>
    have hread := readFilter_complete h (hs.endsText hr)
    rw [List.append_assoc, readFilters_of_some hread, ih]
    rfl

theorem readFilters_sound {cs rest : List Char} {filters : List Filter}
    (h : readFilters compile cs = .ok (filters, rest)) :
    EndsPart rest ∧ ∃ source, cs = source ++ rest ∧ FiltersOf compile source filters := by
  fun_induction readFilters compile cs generalizing filters rest with
  | case1 => cases h
  | case2 cs after hread =>
    cases h
    obtain ⟨rfl, hr⟩ := readFilter_none_sound hread
    exact ⟨hr, [], rfl, .nil⟩
  | case3 cs filter after hread _ ih =>
    obtain ⟨⟨fs, r⟩, hmore, heq⟩ := exists_of_map_eq_ok h
    cases heq
    obtain ⟨-, source, rfl, hf⟩ := readFilter_sound hread
    obtain ⟨hr, more, rfl, hfs⟩ := ih hmore
    exact ⟨hr, source ++ more, by rw [List.append_assoc], .cons hf hfs⟩

theorem readPart_complete {source rest : List Char} {part : Part} (h : PartOf compile source part)
    (hr : EndsPart rest) : readPart compile (source ++ rest) = .ok (part, rest) := by
  cases h with
  | mk ht hs hf =>
    rw [List.append_assoc, readPart, readText_complete ht (hf.endsText hr)]
    simp only [readFilters_complete hf hr, specifierOf_iff.mp hs]
    rfl

theorem readPart_sound {cs rest : List Char} {part : Part}
    (h : readPart compile cs = .ok (part, rest)) :
    EndsPart rest ∧ ∃ source, cs = source ++ rest ∧ PartOf compile source part := by
  unfold readPart at h
  split at h
  · cases h
  · next text after hread =>
    obtain ⟨⟨fs, r⟩, hmore, heq⟩ := exists_of_map_eq_ok h
    cases heq
    obtain ⟨-, source, rfl, ht⟩ := readText_sound hread
    obtain ⟨hr, more, rfl, hf⟩ := readFilters_sound hmore
    exact ⟨hr, source ++ more, by rw [List.append_assoc], .mk ht (specifierOf_iff.mpr rfl) hf⟩

theorem readParts_of_ne_nil {cs rest : List Char} {part : Part} (hcs : cs ≠ [])
    (h : readPart compile cs = .ok (part, rest)) :
    readParts compile cs = (readParts compile (rest.drop 1)).map (part :: ·) := by
  rw [readParts.eq_def]
  split
  · exact absurd rfl hcs
  · split <;> simp_all

theorem PartOf.readParts_dot {source : List Char} {part : Part} (h : PartOf compile source part)
    (rest : List Char) :
    readParts compile (source ++ '.' :: rest) = (readParts compile rest).map (part :: ·) := by
  have hr : EndsPart ('.' :: rest) := endsPart_cons.mpr rfl
  have hread := readPart_complete h hr
  rw [readParts_of_ne_nil (by simp) hread, List.drop_one, List.tail_cons]

theorem readParts_complete {cs : List Char} {parts : List Part} (h : QueryOf compile cs parts) :
    readParts compile cs = .ok parts := by
  induction h with
  | nil => rw [readParts]
  | last h hs =>
    have hread := readPart_complete h endsPart_nil
    rw [List.append_nil] at hread
    rw [readParts_of_ne_nil hs hread, List.drop_nil, readParts]
    rfl
  | cons h _ ih =>
    rw [h.readParts_dot, ih]
    rfl

theorem readParts_sound {cs : List Char} {parts : List Part}
    (h : readParts compile cs = .ok parts) : QueryOf compile cs parts := by
  fun_induction readParts compile cs generalizing parts with
  | case1 => cases h; exact .nil
  | case2 => cases h
  | case3 c cs part rest hread _ ih =>
    obtain ⟨more, hmore, rfl⟩ := exists_of_map_eq_ok h
    obtain ⟨hr, source, hcs, hp⟩ := readPart_sound hread
    cases rest with
    | nil =>
      rw [List.append_nil] at hcs
      rw [List.drop_nil, readParts] at hmore
      cases hmore
      exact .last (hcs ▸ hp) (List.cons_ne_nil _ _)
    | cons d rest =>
      obtain rfl := endsPart_cons.mp hr
      rw [hcs]
      exact .cons hp (ih hmore)

theorem readParts_eq_ok_iff {cs : List Char} {parts : List Part} :
    readParts compile cs = .ok parts ↔ QueryOf compile cs parts :=
  ⟨readParts_sound, readParts_complete⟩

theorem parseWith_eq_ok {query : String} {parts : List Part} :
    parseWith compile query = .ok parts ↔ readParts compile query.toList = .ok parts := by
  unfold parseWith
  cases readParts compile query.toList <;> simp [Except.mapError]

/-- Whatever patterns compile, the parser accepts exactly what the grammar derives, and gives what
the query denotes. No query denotes two lists of parts, and all that the grammar does not derive is
refused. -/
theorem parseWith_eq_ok_iff_queryOf (compile : String → Option Pattern) (query : String) :
    (∀ parts, parseWith compile query = .ok parts ↔ QueryOf compile query.toList parts) ∧
      (∀ parts parts', QueryOf compile query.toList parts →
        QueryOf compile query.toList parts' → parts = parts') ∧
      ((∃ e, parseWith compile query = .error e) ↔
        ∀ parts, ¬ QueryOf compile query.toList parts) := by
  have accepts (parts : List Part) :
      parseWith compile query = .ok parts ↔ QueryOf compile query.toList parts :=
    parseWith_eq_ok.trans readParts_eq_ok_iff
  refine ⟨accepts, fun parts parts' h h' => ?_, fun ⟨e, he⟩ parts h => ?_, fun h => ?_⟩
  · exact Except.ok.inj (((accepts parts).mpr h).symm.trans ((accepts parts').mpr h'))
  · exact absurd (he.symm.trans ((accepts parts).mpr h)) (by simp)
  · cases hq : parseWith compile query with
    | error e => exact ⟨e, rfl⟩
    | ok parts => exact absurd ((accepts parts).mp hq) (h parts)

theorem parseWith_eq_ok_iff_queryOf_mixed :
    QueryOf Pattern.compile? "a\"b.\"\\=!=..*".toList
        [⟨.literal "ab.=", [.negated (.equals "")]⟩, ⟨.parent, []⟩, ⟨.children, []⟩] ∧
      parse "a\"b.\"\\=!=..*" =
        .ok [⟨.literal "ab.=", [.negated (.equals "")]⟩, ⟨.parent, []⟩, ⟨.children, []⟩] ∧
      ∀ parts, QueryOf Pattern.compile? "a\"b.\"\\=!=..*".toList parts →
        [⟨.literal "ab.=", [.negated (.equals "")]⟩, ⟨.parent, []⟩, ⟨.children, []⟩] = parts := by
  have quoted : TextOf ['"', 'b', '.', '"', '\\', '='] ['b', '.', '='] :=
    .quoted (by decide : '"' ∉ ['b', '.']) (.escaped .nil)
  have filters : FiltersOf Pattern.compile? ['!', '='] [.negated (.equals "")] :=
    .cons (.negated (.equals .nil)) .nil
  have first : PartOf Pattern.compile? ['a', '"', 'b', '.', '"', '\\', '=', '!', '=']
      ⟨.literal "ab.=", [.negated (.equals "")]⟩ :=
    .mk (.plain (by decide) quoted) (.literal (by decide)) filters
  have derived : QueryOf Pattern.compile? "a\"b.\"\\=!=..*".toList
      [⟨.literal "ab.=", [.negated (.equals "")]⟩, ⟨.parent, []⟩, ⟨.children, []⟩] :=
    .cons first (.cons (.mk .nil .parent .nil)
      (.last (.mk (.plain (by decide) .nil) .children .nil) (by decide)))
  have denotes := parseWith_eq_ok_iff_queryOf Pattern.compile? "a\"b.\"\\=!=..*"
  exact ⟨derived, (denotes.1 _).mpr derived, fun parts h => denotes.2.1 _ parts derived h⟩

end PathQuery.Query

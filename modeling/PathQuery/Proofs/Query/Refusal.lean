import PathQuery.Proofs.Query.Scope

/-!
Refused queries. A faulty text and a faulty filter are relations between the
characters before the fault, those from it on, and the cause. What the parser
refuses is the beginning of a query, then one of these, so the place it reports
is the place of the fault, and nothing before it is at fault.
-/
namespace PathQuery.Query

variable {compile : String → Option Pattern}

theorem eq_error_of_map_eq_error {ε α β : Type} {f : α → β} {x : Except ε α} {e : ε}
    (h : x.map f = .error e) : x = .error e := by
  cases x with
  | error e' => exact congrArg _ (Except.error.inj h)
  | ok a => cases h

theorem TextOf.append {source text source' text' : List Char} (h : TextOf source text)
    (h' : TextOf source' text') : TextOf (source ++ source') (text ++ text') := by
  induction h with
  | nil => exact h'
  | plain hc _ ih => exact .plain hc ih
  | escaped _ ih => exact .escaped ih
  | quoted hs _ ih => simpa using TextOf.quoted hs ih

/-- A text, then a backslash with nothing to escape, or a quote that is not closed. -/
inductive TextFaultOf : List Char → List Char → Cause → Prop
  | escape {source text : List Char} (h : TextOf source text) :
      TextFaultOf source ['\\'] .unterminatedEscape
  | quote {source text span : List Char} (h : TextOf source text) (hs : '"' ∉ span) :
      TextFaultOf source ('"' :: span) .unterminatedQuote

inductive FilterFaultOf (compile : String → Option Pattern) :
    List Char → List Char → Cause → Prop
  | text {c : Char} {before after : List Char} {cause : Cause} (hc : c = '=' ∨ c = '~')
      (h : TextFaultOf before after cause) : FilterFaultOf compile (c :: before) after cause
  | pattern {source text rest : List Char} (h : TextOf source text) (hr : EndsText rest)
      (hp : compile (String.ofList text) = none) :
      FilterFaultOf compile [] ('~' :: (source ++ rest)) (.invalidPattern (String.ofList text))
  | missing : FilterFaultOf compile ['!'] [] .missingFilter
  | unexpected {d : Char} {rest : List Char} (hd : d ∉ ['=', '~', '!']) :
      FilterFaultOf compile ['!'] (d :: rest) (.unexpectedPrefix d)
  | negated {before after : List Char} {cause : Cause}
      (h : FilterFaultOf compile before after cause) :
      FilterFaultOf compile ('!' :: before) after cause

def FaultIn (relation : List Char → List Char → Cause → Prop) (cs : List Char) (f : Fault) :
    Prop :=
  ∃ before after, cs = before ++ after ∧ relation before after f.cause ∧
    f.remaining = after.length

theorem FaultIn.append {relation relation' : List Char → List Char → Cause → Prop}
    {cs : List Char} {f : Fault} (h : FaultIn relation cs f) (lead : List Char)
    (hle : ∀ before after cause, relation before after cause →
      relation' (lead ++ before) after cause) : FaultIn relation' (lead ++ cs) f := by
  obtain ⟨before, after, rfl, hf, hn⟩ := h
  exact ⟨lead ++ before, after, (List.append_assoc ..).symm, hle _ _ _ hf, hn⟩

theorem TextFaultOf.append {source text before after : List Char} {cause : Cause}
    (ht : TextOf source text) (h : TextFaultOf before after cause) :
    TextFaultOf (source ++ before) after cause := by
  cases h with
  | escape h => exact .escape (ht.append h)
  | quote h hs => exact .quote (ht.append h) hs

theorem TextFaultOf.cause_mem {before after : List Char} {cause : Cause}
    (h : TextFaultOf before after cause) : cause ∈ [.unterminatedEscape, .unterminatedQuote] := by
  cases h <;> simp

/-- What `readText` refuses: a faulty text, or a span that is not closed, or the rest of a closed
one and then a faulty text. -/
def TextFaultFrom (quote : Option Nat) (cs : List Char) (f : Fault) : Prop :=
  match quote with
  | none => FaultIn TextFaultOf cs f
  | some remaining => ('"' ∉ cs ∧ f = ⟨.unterminatedQuote, remaining⟩) ∨
      ∃ span rest, '"' ∉ span ∧ cs = span ++ '"' :: rest ∧ FaultIn TextFaultOf rest f

theorem readText_error {quote : Option Nat} {cs : List Char} {f : Fault}
    (h : readText quote cs = .error f) : TextFaultFrom quote cs f := by
  fun_induction readText quote cs generalizing f with
  | case1 remaining => cases h; exact .inl ⟨List.not_mem_nil, rfl⟩
  | case2 => cases h
  | case3 cs _ ih => exact .inr ⟨[], cs, List.not_mem_nil, rfl, ih h⟩
  | case4 c cs _ hc ih =>
    have keeps {span : List Char} (hs : '"' ∉ span) : '"' ∉ c :: span :=
      fun hmem => (List.mem_cons.mp hmem).elim (fun e => hc e.symm) hs
    rcases ih (eq_error_of_map_eq_error h) with ⟨hs, rfl⟩ | ⟨span, rest, hs, rfl, hf⟩
    · exact .inl ⟨keeps hs, rfl⟩
    · exact .inr ⟨c :: span, rest, keeps hs, rfl, hf⟩
  | case5 => cases h
  | case6 cs _ ih =>
    -- The opening quote is the fault unless the span is closed; then it belongs to the text.
    rcases ih h with ⟨hs, rfl⟩ | ⟨span, rest, hs, rfl, hf⟩
    · exact ⟨[], '"' :: cs, rfl, .quote .nil hs, rfl⟩
    · have closed : TextOf ('"' :: span ++ ['"']) (span ++ []) := .quoted hs .nil
      have hf := hf.append _ fun _ _ _ => TextFaultOf.append closed
      rwa [List.append_assoc] at hf
  | case7 => cases h; exact ⟨[], ['\\'], rfl, .escape .nil, rfl⟩
  | case8 c cs _ _ ih =>
    have hf := ih (eq_error_of_map_eq_error h)
    exact hf.append ['\\', c] fun _ _ _ => TextFaultOf.append (.escaped .nil)
  | case9 c cs he hq hb ih =>
    have hc := not_mem_meta_iff.mpr ⟨by simpa using he, hq, hb⟩
    have hf := ih (eq_error_of_map_eq_error h)
    exact hf.append [c] fun _ _ _ => TextFaultOf.append (.plain hc .nil)

theorem readFilter_of_notMem {d : Char} (hd : d ∉ ['.', '=', '~', '!']) (rest : List Char) :
    readFilter compile (d :: rest) = .error ⟨.unexpectedPrefix d, rest.length + 1⟩ := by
  simp only [List.mem_cons, List.not_mem_nil, or_false, not_or] at hd
  simp [readFilter, hd]

theorem faultIn_negated {rest : List Char} {f : Fault} (h : readFilter compile rest = .error f)
    (ih : EndsText rest → FaultIn (FilterFaultOf compile) rest f) :
    FaultIn (FilterFaultOf compile) ('!' :: rest) f := by
  by_cases hr : EndsText rest
  · exact (ih hr).append ['!'] fun _ _ _ => .negated
  · cases rest with
    | nil => exact absurd endsText_nil hr
    | cons d rest =>
      have hd : d ∉ ['.', '=', '~', '!'] := by
        simpa [endsText_cons, endsText, or_assoc] using hr
      rw [readFilter_of_notMem hd] at h
      cases h
      exact ⟨['!'], d :: rest, rfl, .unexpected (mt (List.mem_cons_of_mem '.') hd), rfl⟩

theorem readFilter_error {cs : List Char} {f : Fault} (h : readFilter compile cs = .error f)
    (hcs : EndsText cs) : FaultIn (FilterFaultOf compile) cs f := by
  fun_induction readFilter compile cs generalizing f with
  | case1 => cases h
  | case2 => cases h
  | case3 cs =>
    have hf : FaultIn TextFaultOf cs f := readText_error (eq_error_of_map_eq_error h)
    exact hf.append ['='] fun _ _ _ => .text (.inl rfl)
  | case4 cs f' hread =>
    cases h
    have hf : FaultIn TextFaultOf cs f' := readText_error hread
    exact hf.append ['~'] fun _ _ _ => .text (.inr rfl)
  | case5 => cases h
  | case6 cs text rest hread hp =>
    cases h
    obtain ⟨hr, source, rfl, ht⟩ := readText_sound hread
    exact ⟨[], _, rfl, .pattern ht hr hp, rfl⟩
  | case7 cs f' hread _ _ _ ih =>
    cases h
    exact faultIn_negated hread (ih hread)
  | case8 => cases h
  | case9 cs hread =>
    cases h
    obtain ⟨rfl, -⟩ := readFilter_none_sound hread
    exact ⟨['!'], [], rfl, .missing, rfl⟩
  | case10 cs d rest hread =>
    cases h
    obtain ⟨rfl, hr⟩ := readFilter_none_sound hread
    obtain rfl := endsPart_cons.mp hr
    exact ⟨['!'], _, rfl, .unexpected (by decide), rfl⟩
  -- A filter is read only where a text ended, so a stray character comes up behind `!` alone.
  | case11 c cs hd he ht hn => exact absurd (endsText_cons.mp hcs) (by simp [endsText, *])

theorem readFilters_error {cs : List Char} {f : Fault} (h : readFilters compile cs = .error f)
    (hcs : EndsText cs) :
    ∃ source rest filters, cs = source ++ rest ∧ FiltersOf compile source filters ∧
      FaultIn (FilterFaultOf compile) rest f := by
  fun_induction readFilters compile cs generalizing f with
  | case1 cs f' hread => cases h; exact ⟨[], cs, [], rfl, .nil, readFilter_error hread hcs⟩
  | case2 => cases h
  | case3 cs filter after hread _ ih =>
    obtain ⟨hr, source, rfl, hf⟩ := readFilter_sound hread
    obtain ⟨more, rest, filters, rfl, hfs, hfault⟩ := ih (eq_error_of_map_eq_error h) hr
    exact ⟨source ++ more, rest, filter :: filters, (List.append_assoc ..).symm, .cons hf hfs,
      hfault⟩

theorem readPart_error {cs : List Char} {f : Fault} (h : readPart compile cs = .error f) :
    FaultIn TextFaultOf cs f ∨ ∃ source rest part, cs = source ++ rest ∧
      PartOf compile source part ∧ FaultIn (FilterFaultOf compile) rest f := by
  unfold readPart at h
  split at h
  · next hread =>
    cases h
    exact .inl (readText_error hread)
  · next text after hread =>
    obtain ⟨hr, source, rfl, ht⟩ := readText_sound hread
    obtain ⟨more, rest, filters, rfl, hfs, hf⟩ := readFilters_error (eq_error_of_map_eq_error h) hr
    exact .inr ⟨source ++ more, rest, _, (List.append_assoc ..).symm,
      .mk ht (specifierOf_iff.mpr rfl) hfs, hf⟩

/-- What is refused is a query and then a faulty text or filter. -/
theorem readParts_error {cs : List Char} {f : Fault} (h : readParts compile cs = .error f) :
    ∃ front rest parts, cs = front ++ rest ∧ QueryOf compile front parts ∧
      (FaultIn TextFaultOf rest f ∨ FaultIn (FilterFaultOf compile) rest f) := by
  fun_induction readParts compile cs generalizing f with
  | case1 => cases h
  | case2 c cs f' hread =>
    cases h
    rcases readPart_error hread with hf | ⟨source, rest, part, hcs, hp, hf⟩
    · exact ⟨[], c :: cs, [], rfl, .nil, .inl hf⟩
    · by_cases hs : source = []
      · exact ⟨[], rest, [], by rw [hcs, hs], .nil, .inr hf⟩
      · exact ⟨source, rest, [part], hcs, .last hp hs, .inr hf⟩
  | case3 c cs part after hread _ ih =>
    obtain ⟨hr, source, hcs, hp⟩ := readPart_sound hread
    have hmore := eq_error_of_map_eq_error h
    cases after with
    | nil => rw [List.drop_nil, readParts] at hmore; cases hmore
    | cons d after =>
      obtain rfl := endsPart_cons.mp hr
      obtain ⟨front, rest, parts, hafter, hq, hf⟩ := ih hmore
      refine ⟨source ++ '.' :: front, rest, part :: parts, ?_, .cons hp hq, hf⟩
      rw [List.drop_one, List.tail_cons] at hafter
      rw [hcs, hafter, List.append_assoc, List.cons_append]

/-- What the characters of a query show at the place of a fault. -/
def Cause.ShownAt (compile : String → Option Pattern) (cs : List Char) (place : Nat) :
    Cause → Prop
  | .unterminatedEscape => place + 1 = cs.length ∧ BareAt cs place '\\'
  | .unterminatedQuote => BareAt cs place '"' ∧ '"' ∉ cs.drop (place + 1)
  | .missingFilter => place = cs.length ∧ 0 < place ∧ BareAt cs (place - 1) '!'
  | .unexpectedPrefix found =>
    0 < place ∧ cs[place]? = some found ∧ BareAt cs (place - 1) '!' ∧ found ∉ ['=', '~', '!']
  | .invalidPattern pattern =>
    BareAt cs place '~' ∧ compile pattern = none ∧
      ∃ source rest, cs.drop (place + 1) = source ++ rest ∧ TextOf source pattern.toList ∧
        EndsText rest

theorem drop_succ_length (lead : List Char) (c : Char) (rest : List Char) :
    (lead ++ c :: rest).drop (lead.length + 1) = rest := by
  simp [List.drop_append]

theorem TextFaultOf.shownAt {before after lead : List Char} {cause : Cause}
    (h : TextFaultOf before after cause) (hl : Scope.bare.after lead = .bare) :
    cause.ShownAt compile (lead ++ before ++ after) (lead ++ before).length := by
  have bare {source text : List Char} (ht : TextOf source text) :
      Scope.bare.after (lead ++ source) = .bare := by
    rw [Scope.after_append, hl, ht.closed.after]
  cases h with
  | escape h => exact ⟨by simp [Nat.add_assoc], bareAt_append (bare h) _ _⟩
  | quote h hs => exact ⟨bareAt_append (bare h) _ _, by rwa [drop_succ_length]⟩

theorem Closed.bareAt_inversion {front : List Char} (h : Closed front) (k : Nat)
    (rest : List Char) :
    0 < (front ++ List.replicate k '!' ++ ['!']).length ∧
      BareAt (front ++ List.replicate k '!' ++ ['!'] ++ rest)
        ((front ++ List.replicate k '!' ++ ['!']).length - 1) '!' := by
  rw [List.length_append, List.length_singleton, Nat.add_sub_cancel, List.append_assoc]
  exact ⟨Nat.succ_pos _, bareAt_append (h.after_inversions k) '!' rest⟩

theorem FilterFaultOf.shownAt {front before after : List Char} {cause : Cause}
    (h : FilterFaultOf compile before after cause) (hf : Closed front) (k : Nat) :
    cause.ShownAt compile (front ++ List.replicate k '!' ++ before ++ after)
      (front ++ List.replicate k '!' ++ before).length := by
  induction h generalizing k with
  | @text c before after cause hc h =>
    have bare : Scope.bare.after (front ++ List.replicate k '!' ++ [c]) = .bare := by
      rw [Scope.after_append, hf.after_inversions]
      rcases hc with rfl | rfl <;> rfl
    rw [List.append_cons _ c before]
    exact h.shownAt bare
  | @pattern source text rest h hr hp =>
    rw [List.append_nil]
    refine ⟨bareAt_append (hf.after_inversions k) _ _, hp, source, rest, ?_, ?_, hr⟩
    · rw [drop_succ_length]
    · rwa [String.toList_ofList]
  | missing =>
    obtain ⟨hpos, hbare⟩ := hf.bareAt_inversion k []
    exact ⟨by rw [List.append_nil], hpos, hbare⟩
  | @unexpected d rest hd =>
    obtain ⟨hpos, hbare⟩ := hf.bareAt_inversion k (d :: rest)
    refine ⟨hpos, ?_, hbare, hd⟩
    rw [List.getElem?_append_right (Nat.le_refl _), Nat.sub_self, List.getElem?_cons_zero]
  | negated _ ih =>
    have hk := ih (k + 1)
    rw [List.replicate_succ', ← List.append_assoc, ← List.append_cons] at hk
    exact hk

theorem FilterFaultOf.before_eq {before after : List Char} {cause : Cause}
    (h : FilterFaultOf compile before after cause)
    (hc : cause ∉ [.unterminatedEscape, .unterminatedQuote]) :
    ∃ k, before = List.replicate k '!' := by
  induction h with
  | text _ h => exact absurd h.cause_mem hc
  | pattern => exact ⟨0, rfl⟩
  | missing => exact ⟨1, rfl⟩
  | unexpected => exact ⟨1, rfl⟩
  | negated _ ih =>
    obtain ⟨k, rfl⟩ := ih hc
    exact ⟨k + 1, rfl⟩

theorem exists_of_parseWith_eq_error {query : String} {e : ParseError}
    (h : parseWith compile query = .error e) :
    ∃ f, readParts compile query.toList = .error f ∧ e = f.locate query.toList.length := by
  unfold parseWith at h
  cases hread : readParts compile query.toList with
  | error f => rw [hread] at h; exact ⟨f, rfl, (Except.error.inj h).symm⟩
  | ok parts => rw [hread] at h; cases h

theorem Fault.position_locate {f : Fault} {cs lead after : List Char} (hcs : cs = lead ++ after)
    (hn : f.remaining = after.length) : (f.locate cs.length).position = lead.length := by
  rw [locate, hn, hcs, List.length_append, Nat.add_sub_cancel]

/-- The place in an error is that of the fault, and unless a text is at fault what stands before it
and its negations is a query: no fault is further left. -/
theorem parseWith_error_located (compile : String → Option Pattern) (query : String)
    (e : ParseError) (h : parseWith compile query = .error e) :
    e.cause.ShownAt compile query.toList e.position ∧
      (e.cause ∉ [.unterminatedEscape, .unterminatedQuote] →
        ∃ parts, parseWith compile
          (String.ofList (dropInversions (query.toList.take e.position))) = .ok parts) := by
  obtain ⟨f, hread, rfl⟩ := exists_of_parseWith_eq_error h
  obtain ⟨front, rest, parts, hcs, hq, hf⟩ := readParts_error hread
  rcases hf with ⟨before, after, rfl, hf, hn⟩ | ⟨before, after, rfl, hf, hn⟩
  · rw [← List.append_assoc] at hcs
    rw [Fault.position_locate hcs hn, hcs]
    exact ⟨hf.shownAt hq.closed.after, fun hc => absurd hf.cause_mem hc⟩
  · rw [← List.append_assoc] at hcs
    rw [Fault.position_locate hcs hn, hcs]
    have shown := hf.shownAt hq.closed 0
    rw [List.replicate_zero, List.append_nil] at shown
    refine ⟨shown, fun hc => ⟨parts, parseWith_eq_ok.mpr ?_⟩⟩
    obtain ⟨k, rfl⟩ := hf.before_eq hc
    rw [List.take_left, hq.closed.dropInversions_append, String.toList_ofList]
    exact readParts_complete hq

theorem parseWith_error_located_negated :
    parse "\\!=x!!~(.y" = .error ⟨.invalidPattern "(", 6⟩ ∧
      Cause.ShownAt Pattern.compile? "\\!=x!!~(.y".toList 6 (.invalidPattern "(") ∧
      ∃ parts, parse "\\!=x" = .ok parts := by
  have refused : parse "\\!=x!!~(.y" = .error ⟨.invalidPattern "(", 6⟩ := by decide +kernel
  have located := parseWith_error_located Pattern.compile? _ _ refused
  have before : String.ofList (dropInversions ("\\!=x!!~(.y".toList.take 6)) = "\\!=x" := by
    decide +kernel
  exact ⟨refused, located.1, before ▸ located.2 (by decide)⟩

end PathQuery.Query

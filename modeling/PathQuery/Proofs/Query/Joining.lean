import PathQuery.Proofs.Query.Refusal

/-!
Two queries with a dot between them. A part holds no dot that ends it, so the dot
behind a query closes its last part, or, where the query is empty or ends in such
a dot, one more part that steps up. The parser is then where it would be at the
start of the other query: it reads the same parts, and what it refuses it refuses
for the same cause, further right by what stands before.
-/
namespace PathQuery.Query

variable {compile : String → Option Pattern}

/-- There is nothing, or a dot that ends a part stands last. -/
def EndsOpen (cs : List Char) : Prop :=
  cs = [] ∨ (withScope .bare cs).getLast? = some ('.', .bare)

instance (cs : List Char) : Decidable (EndsOpen cs) := inferInstanceAs (Decidable (_ ∨ _))

/-- The parts of a query with one more dot behind it. -/
def partsBeforeDot (cs : List Char) (parts : List Part) : List Part :=
  if EndsOpen cs then parts ++ [⟨.parent, []⟩] else parts

theorem withScope_quoted {span : List Char} (hs : '"' ∉ span) :
    withScope .quoted span = span.map fun c => (c, .quoted) := by
  induction span with
  | nil => rfl
  | cons c span ih =>
    obtain ⟨hc, hs⟩ := not_or.mp (mt List.mem_cons.mpr hs)
    rw [withScope, Scope.next, if_neg (Ne.symm hc), ih hs, List.map_cons]

theorem TextOf.dot_notMem {source text : List Char} (h : TextOf source text) :
    ('.', .bare) ∉ withScope .bare source := by
  induction h with
  | nil => exact List.not_mem_nil
  | @plain c source text hc _ ih =>
    simp only [List.mem_cons, List.not_mem_nil, or_false, not_or] at hc
    have next : Scope.bare.next c = .bare := by simp [Scope.next, hc]
    rw [withScope, next, List.mem_cons, not_or]
    exact ⟨by simp [Ne.symm hc.1], ih⟩
  | @escaped c source text _ ih =>
    have next : withScope .bare ('\\' :: c :: source) =
        ('\\', .bare) :: (c, .escaped) :: withScope .bare source := rfl
    simp [next, ih]
  | @quoted span source text hs _ ih =>
    have opens : Scope.bare.after ('"' :: span) = .quoted := Scope.after_quoted hs
    have inside : withScope .bare ('"' :: span) =
        ('"', .bare) :: span.map fun c => (c, .quoted) := by
      rw [← withScope_quoted hs]
      rfl
    have closes : withScope .quoted ('"' :: source) =
        ('"', .quoted) :: withScope .bare source := rfl
    rw [withScope_append, opens, inside, closes]
    simp [ih]

theorem FilterOf.dot_notMem {source : List Char} {filter : Filter}
    (h : FilterOf compile source filter) : ('.', .bare) ∉ withScope .bare source := by
  induction h with
  | equals ht => simpa [withScope, Scope.next] using ht.dot_notMem
  | matching ht _ => simpa [withScope, Scope.next] using ht.dot_notMem
  | negated _ ih => simpa [withScope, Scope.next] using ih

theorem FiltersOf.dot_notMem {source : List Char} {filters : List Filter}
    (h : FiltersOf compile source filters) : ('.', .bare) ∉ withScope .bare source := by
  induction h with
  | nil => exact List.not_mem_nil
  | cons h _ ih =>
    rw [withScope_append, h.closed.after, List.mem_append, not_or]
    exact ⟨h.dot_notMem, ih⟩

theorem PartOf.dot_notMem {source : List Char} {part : Part} (h : PartOf compile source part) :
    ('.', .bare) ∉ withScope .bare source := by
  cases h with
  | mk ht _ hf =>
    rw [withScope_append, ht.closed.after, List.mem_append, not_or]
    exact ⟨ht.dot_notMem, hf.dot_notMem⟩

theorem PartOf.not_endsOpen {source : List Char} {part : Part} (h : PartOf compile source part)
    (hs : source ≠ []) : ¬ EndsOpen source := by
  rintro (rfl | last)
  · exact hs rfl
  · exact h.dot_notMem (List.mem_of_getLast? last)

theorem PartOf.endsOpen_dot_iff {source : List Char} {part : Part} (h : PartOf compile source part)
    (rest : List Char) : EndsOpen (source ++ '.' :: rest) ↔ EndsOpen rest := by
  have split : withScope .bare (source ++ '.' :: rest) =
      withScope .bare source ++ ('.', .bare) :: withScope .bare rest := by
    rw [withScope_append, h.closed.after]
    rfl
  unfold EndsOpen
  rw [split, List.getLast?_append_of_ne_nil _ (List.cons_ne_nil _ _)]
  cases rest with
  | nil => simp [withScope]
  | cons c rest => simp [withScope, List.getLast?_cons_cons]

theorem QueryOf.readParts_dot {cs : List Char} {parts : List Part} (h : QueryOf compile cs parts)
    (rest : List Char) : readParts compile (cs ++ '.' :: rest) =
      (readParts compile rest).map (partsBeforeDot cs parts ++ ·) := by
  induction h with
  | nil => exact PartOf.readParts_dot (.mk .nil .parent .nil) rest
  | last h hs =>
    rw [h.readParts_dot, partsBeforeDot, if_neg (h.not_endsOpen hs)]
    rfl
  | @cons source front part parts h _ ih =>
    have closed : partsBeforeDot (source ++ '.' :: front) (part :: parts) =
        part :: partsBeforeDot front parts := by
      simp only [partsBeforeDot, h.endsOpen_dot_iff front]
      split <;> rfl
    rw [List.append_assoc, List.cons_append, h.readParts_dot, ih, closed]
    cases readParts compile rest <;> rfl

theorem remaining_le_of_readParts {cs : List Char} {f : Fault}
    (h : readParts compile cs = .error f) : f.remaining ≤ cs.length := by
  obtain ⟨front, rest, parts, rfl, -, hf⟩ := readParts_error h
  rcases hf with ⟨before, after, rfl, -, hn⟩ | ⟨before, after, rfl, -, hn⟩
  all_goals
    simp only [List.length_append]
    omega

/-- Behind a query and a dot, another query has the parts it has alone, behind those of the query,
and where it is refused it is refused for the same cause, as much further right as the query and the
dot are long. -/
theorem parseWith_append_dot (compile : String → Option Pattern) (query rest : String)
    (parts : List Part) (h : parseWith compile query = .ok parts) :
    parseWith compile (query ++ "." ++ rest) =
      match parseWith compile rest with
      | .ok more => .ok (partsBeforeDot query.toList parts ++ more)
      | .error e => .error ⟨e.cause, query.length + 1 + e.position⟩ := by
  have derived : QueryOf compile query.toList parts := readParts_sound (parseWith_eq_ok.mp h)
  have chars : (query ++ "." ++ rest).toList = query.toList ++ '.' :: rest.toList := by simp
  have joined := derived.readParts_dot rest.toList
  unfold parseWith
  rw [chars, joined]
  cases hread : readParts compile rest.toList with
  | ok more => rfl
  | error f =>
    -- A fault is placed by what is left behind it, which is the same in the longer query.
    have within := remaining_le_of_readParts hread
    simp only [Except.map, Except.mapError, Fault.locate, List.length_append, List.length_cons,
      String.length_toList, Except.error.injEq, ParseError.mk.injEq, true_and] at within ⊢
    omega

theorem parseWith_append_dot_open :
    parse "a\".\"." = .ok [⟨.literal "a.", []⟩] ∧
      parse ("a\".\"." ++ "." ++ "b=c") =
        .ok [⟨.literal "a.", []⟩, ⟨.parent, []⟩, ⟨.literal "b", [.equals "c"]⟩] ∧
      parse "b!x" = .error ⟨.unexpectedPrefix 'x', 2⟩ ∧
      parse ("a\".\"." ++ "." ++ "b!x") = .error ⟨.unexpectedPrefix 'x', 8⟩ := by
  have first : parse "a\".\"." = .ok [⟨.literal "a.", []⟩] := by decide +kernel
  have accepted : parse "b=c" = .ok [⟨.literal "b", [.equals "c"]⟩] := by decide +kernel
  have refused : parse "b!x" = .error ⟨.unexpectedPrefix 'x', 2⟩ := by decide +kernel
  have joined (rest : String) := parseWith_append_dot Pattern.compile? "a\".\"." rest _ first
  refine ⟨first, ?_, refused, ?_⟩
  · rw [parse] at accepted ⊢
    rw [joined, accepted]
    rfl
  · rw [parse] at refused ⊢
    rw [joined, refused]
    rfl

end PathQuery.Query

import PathQuery.Query.Syntax
/-!
Reading queries.

A part is a text and then filters: `=` and a text, `~` and a pattern, or `!` and a filter. In a text
a backslash takes away the meaning of the next character, and quotes that of all characters between
them. A faulty query is refused with the leftmost fault and its place, counted in characters. Which
patterns compile is left open until the end.
-/
namespace PathQuery.Query

variable {compile : String → Option Pattern}

inductive Cause where
  | unterminatedEscape
  | unterminatedQuote
  | missingFilter
  | unexpectedPrefix (found : Char)
  | invalidPattern (pattern : String)
  deriving DecidableEq, Repr

structure ParseError where
  cause : Cause
  position : Nat
  deriving DecidableEq, Repr

def ParseError.message (e : ParseError) : String :=
  match e.cause with
  | .unterminatedEscape => s!"unexpected end of query at position {e.position}: trailing escape"
  | .unterminatedQuote => s!"unexpected end of query at position {e.position}: unterminated quote"
  | .missingFilter => s!"unexpected end of query at position {e.position}: expected a filter"
  | .unexpectedPrefix found => s!"unexpected filter prefix '{found}' at position {e.position}"
  | .invalidPattern pattern => s!"invalid regex '{pattern}' at position {e.position}"

/-- A cause, and how many characters of the query there are from its place on. -/
structure Fault where
  cause : Cause
  remaining : Nat
  deriving DecidableEq, Repr

def Fault.locate (size : Nat) (f : Fault) : ParseError := ⟨f.cause, size - f.remaining⟩

def endsText (c : Char) : Bool := c = '.' || c = '=' || c = '~' || c = '!'

/-- What a text denotes, and what follows it. `quote` tells, inside quotes, how many characters
there are from the opening quote on. -/
def readText (quote : Option Nat) : List Char → Except Fault (List Char × List Char)
  | [] =>
    match quote with
    | some remaining => .error ⟨.unterminatedQuote, remaining⟩
    | none => .ok ([], [])
  | c :: rest =>
    match quote with
    | some remaining =>
      if c = '"' then readText none rest
      else (readText (some remaining) rest).map fun r => (c :: r.1, r.2)
    | none =>
      if endsText c then .ok ([], c :: rest)
      else if c = '"' then readText (some (rest.length + 1)) rest
      else if c = '\\' then
        match rest with
        | [] => .error ⟨.unterminatedEscape, 1⟩
        | d :: rest => (readText none rest).map fun r => (d :: r.1, r.2)
      else (readText none rest).map fun r => (c :: r.1, r.2)

def readFilter (compile : String → Option Pattern) :
    List Char → Except Fault (Option Filter × List Char)
  | [] => .ok (none, [])
  | c :: rest =>
    if c = '.' then .ok (none, c :: rest)
    else if c = '=' then
      (readText none rest).map fun r => (some (.equals (String.ofList r.1)), r.2)
    else if c = '~' then
      match readText none rest with
      | .error f => .error f
      | .ok (source, after) =>
        match compile (String.ofList source) with
        | some pattern => .ok (some (.matching pattern), after)
        | none => .error ⟨.invalidPattern (String.ofList source), rest.length + 1⟩
    else if c = '!' then
      match readFilter compile rest with
      | .error f => .error f
      | .ok (some filter, after) => .ok (some (.negated filter), after)
      | .ok (none, []) => .error ⟨.missingFilter, 0⟩
      | .ok (none, d :: after) => .error ⟨.unexpectedPrefix d, after.length + 1⟩
    else .error ⟨.unexpectedPrefix c, rest.length + 1⟩

theorem exists_of_map_eq_ok {ε α β : Type} {f : α → β} {x : Except ε α} {b : β}
    (h : x.map f = .ok b) : ∃ a, x = .ok a ∧ f a = b := by
  cases x with
  | error e => cases h
  | ok a => exact ⟨a, rfl, Except.ok.inj h⟩

theorem length_of_readText {quote : Option Nat} {cs : List Char} {r : List Char × List Char}
    (h : readText quote cs = .ok r) : r.2.length ≤ cs.length := by
  fun_induction readText quote cs generalizing r with
  | case1 => cases h
  | case2 => cases h; simp
  | case3 rest remaining ih => exact Nat.le_succ_of_le (ih h)
  | case4 c rest remaining hc ih =>
    obtain ⟨a, ha, rfl⟩ := exists_of_map_eq_ok h
    have hle := ih ha
    exact Nat.le_succ_of_le hle
  | case5 => cases h; simp
  | case6 rest hc ih => exact Nat.le_succ_of_le (ih h)
  | case7 => cases h
  | case8 d rest hc hq ih =>
    obtain ⟨a, ha, rfl⟩ := exists_of_map_eq_ok h
    have hle := ih ha
    exact Nat.le_succ_of_le (Nat.le_succ_of_le hle)
  | case9 c rest hc hq hb ih =>
    obtain ⟨a, ha, rfl⟩ := exists_of_map_eq_ok h
    have hle := ih ha
    exact Nat.le_succ_of_le hle

theorem length_of_readFilter {cs : List Char} {r : Option Filter × List Char}
    (h : readFilter compile cs = .ok r) : r.2.length < cs.length ∨ r = (none, cs) := by
  fun_induction readFilter compile cs generalizing r with
  | case1 => cases h; exact .inr rfl
  | case2 => cases h; exact .inr rfl
  | case3 rest hc =>
    obtain ⟨a, ha, rfl⟩ := exists_of_map_eq_ok h
    exact .inl (Nat.lt_succ_of_le (length_of_readText ha))
  | case5 rest source after ha pattern =>
    cases h
    exact .inl (Nat.lt_succ_of_le (length_of_readText ha))
  | case8 rest filter after ha _ _ _ ih =>
    cases h
    have hlt := (ih ha).resolve_right (by simp)
    exact .inl (Nat.lt_succ_of_lt hlt)
  | case4 => cases h
  | case6 => cases h
  | case7 => cases h
  | case9 => cases h
  | case10 => cases h
  | case11 => cases h

def readFilters (compile : String → Option Pattern) (cs : List Char) :
    Except Fault (List Filter × List Char) :=
  match h : readFilter compile cs with
  | .error f => .error f
  | .ok (none, rest) => .ok ([], rest)
  | .ok (some filter, rest) =>
    have : rest.length < cs.length := (length_of_readFilter h).resolve_right (by simp)
    (readFilters compile rest).map fun r => (filter :: r.1, r.2)
termination_by cs.length

def readPart (compile : String → Option Pattern) (cs : List Char) :
    Except Fault (Part × List Char) :=
  match readText none cs with
  | .error f => .error f
  | .ok (text, rest) =>
    (readFilters compile rest).map fun r => (⟨.ofText (String.ofList text), r.1⟩, r.2)

theorem length_of_readFilters {cs : List Char} {r : List Filter × List Char}
    (h : readFilters compile cs = .ok r) : r.2.length ≤ cs.length := by
  fun_induction readFilters compile cs generalizing r with
  | case1 => cases h
  | case2 cs rest hf =>
    cases h
    rcases length_of_readFilter hf with hlt | heq
    · exact Nat.le_of_lt hlt
    · cases heq; exact Nat.le_refl _
  | case3 cs filter rest hf hlt ih =>
    obtain ⟨a, ha, rfl⟩ := exists_of_map_eq_ok h
    have hle := ih ha
    exact Nat.le_trans hle (Nat.le_of_lt hlt)

theorem length_of_readPart {cs : List Char} {r : Part × List Char}
    (h : readPart compile cs = .ok r) : r.2.length ≤ cs.length := by
  unfold readPart at h
  split at h
  · cases h
  · next ht =>
    obtain ⟨a, ha, rfl⟩ := exists_of_map_eq_ok h
    exact Nat.le_trans (length_of_readFilters ha) (length_of_readText ht)

/-- All parts. A part ends at a dot or with the query, so nothing is left behind a final dot. -/
def readParts (compile : String → Option Pattern) (cs : List Char) :
    Except Fault (List Part) :=
  match cs with
  | [] => .ok []
  | c :: cs =>
    match h : readPart compile (c :: cs) with
    | .error f => .error f
    | .ok (part, rest) =>
      have : (rest.drop 1).length < (c :: cs).length := by
        have := length_of_readPart h
        simp only [List.length_drop, List.length_cons] at this ⊢
        omega
      (readParts compile (rest.drop 1)).map (part :: ·)
termination_by cs.length
decreasing_by exact this

def parseWith (compile : String → Option Pattern) (query : String) :
    Except ParseError (List Part) :=
  (readParts compile query.toList).mapError (Fault.locate query.toList.length)

def parse (query : String) : Except ParseError (List Part) := parseWith Pattern.compile? query

end PathQuery.Query

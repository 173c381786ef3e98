import PathQuery.Pattern.Reader
import PathQuery.Pattern.Matching
import PathQuery.Pattern.Size
/-!
Patterns: regular expressions that a text matches when some part of it does. A pattern is its source
together with the expression that the source compiles to, so two patterns with one source are equal.
-/
namespace PathQuery

namespace Pattern

def expression? (source : String) : Option Expression :=
  match Syntax.read? source with
  | none => none
  | some parsed =>
    match express .initial parsed with
    | some (e, _) => if e.fits then some e else none
    | none => none

end Pattern

/-- A source that compiles, and what it compiles to. -/
structure Pattern where
  source : String
  expression : Pattern.Expression
  compiled : Pattern.expression? source = some expression

namespace Pattern

def compile? (source : String) : Option Pattern :=
  match h : expression? source with
  | some e => some ⟨source, e, h⟩
  | none => none

def isMatch (p : Pattern) (s : String) : Bool := p.expression.matchesIn s.toList

theorem ext_source {p q : Pattern} (h : p.source = q.source) : p = q := by
  obtain ⟨s, e, hp⟩ := p
  obtain ⟨t, e', hq⟩ := q
  cases h
  cases hp.symm.trans hq
  rfl

instance : DecidableEq Pattern := fun p q =>
  if h : p.source = q.source then isTrue (ext_source h)
  else isFalse fun hpq => h (by rw [hpq])

theorem source_of_compile? {s : String} {p : Pattern} (h : compile? s = some p) : p.source = s := by
  unfold compile? at h
  split at h
  · cases h; rfl
  · cases h

theorem compile?_source (p : Pattern) : compile? p.source = some p := by
  unfold compile?
  split
  · next e h => exact congrArg some (ext_source rfl)
  · next h => rw [p.compiled] at h; cases h

end Pattern

end PathQuery

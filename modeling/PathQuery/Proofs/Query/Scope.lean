import PathQuery.Proofs.Query.Grammar
import Mathlib.Data.List.DropRight

/-!
Where each character of a query stands: bare, behind a backslash, or between
quotes. What the grammar derives leaves no backslash and no quote open, and does
not end in a bare `!`, so the bare `!` written behind it can be told from it.
-/
namespace PathQuery.Query

variable {compile : String → Option Pattern}

inductive Scope where
  | bare
  | escaped
  | quoted
  deriving DecidableEq, Repr

def Scope.next (scope : Scope) (c : Char) : Scope :=
  match scope with
  | .bare => if c = '\\' then .escaped else if c = '"' then .quoted else .bare
  | .escaped => .bare
  | .quoted => if c = '"' then .bare else .quoted

def Scope.after (scope : Scope) (cs : List Char) : Scope := cs.foldl Scope.next scope

def withScope (scope : Scope) : List Char → List (Char × Scope)
  | [] => []
  | c :: cs => (c, scope) :: withScope (scope.next c) cs

/-- At a place there is a character that is neither escaped nor quoted. -/
def BareAt (cs : List Char) (place : Nat) (c : Char) : Prop :=
  (withScope .bare cs)[place]? = some (c, .bare)

instance (cs : List Char) (place : Nat) (c : Char) : Decidable (BareAt cs place c) :=
  inferInstanceAs (Decidable (_ = _))

def dropInversions (cs : List Char) : List Char :=
  ((withScope .bare cs).rdropWhile (· = ('!', .bare))).map Prod.fst

example : dropInversions ['a', '\\', '!', '!'] = ['a', '\\', '!'] := by decide

@[simp] theorem Scope.after_nil (scope : Scope) : scope.after [] = scope := rfl

@[simp] theorem Scope.after_cons (scope : Scope) (c : Char) (cs : List Char) :
    scope.after (c :: cs) = (scope.next c).after cs := rfl

@[simp] theorem Scope.after_append (scope : Scope) (cs rest : List Char) :
    scope.after (cs ++ rest) = (scope.after cs).after rest := List.foldl_append

theorem Scope.after_quoted {span : List Char} (hs : '"' ∉ span) :
    Scope.quoted.after span = .quoted := by
  induction span with
  | nil => rfl
  | cons c span ih =>
    obtain ⟨hc, hs⟩ := not_or.mp (mt List.mem_cons.mpr hs)
    rw [after_cons, next, if_neg (Ne.symm hc), ih hs]

theorem Scope.after_inversions (k : Nat) : Scope.bare.after (List.replicate k '!') = .bare := by
  induction k with
  | zero => rfl
  | succ k ih => rw [List.replicate_succ]; exact ih

@[simp] theorem withScope_append (scope : Scope) (cs rest : List Char) :
    withScope scope (cs ++ rest) = withScope scope cs ++ withScope (scope.after cs) rest := by
  induction cs generalizing scope with
  | nil => rfl
  | cons c cs ih => simp [withScope, ih]

@[simp] theorem map_fst_withScope (scope : Scope) (cs : List Char) :
    (withScope scope cs).map Prod.fst = cs := by
  induction cs generalizing scope with
  | nil => rfl
  | cons c cs ih => simp [withScope, ih]

@[simp] theorem length_withScope (scope : Scope) (cs : List Char) :
    (withScope scope cs).length = cs.length := by
  rw [← List.length_map (f := Prod.fst), map_fst_withScope]

theorem withScope_inversions (k : Nat) :
    withScope .bare (List.replicate k '!') = List.replicate k ('!', .bare) := by
  induction k with
  | zero => rfl
  | succ k ih => rw [List.replicate_succ, List.replicate_succ, ← ih]; rfl

theorem bareAt_append {lead : List Char} (h : Scope.bare.after lead = .bare) (c : Char)
    (rest : List Char) : BareAt (lead ++ c :: rest) lead.length c := by
  simp [BareAt, h, withScope]

/-- Nothing is left open, and the last character is no bare `!`. -/
structure Closed (cs : List Char) : Prop where
  after : Scope.bare.after cs = .bare
  last : (withScope .bare cs).getLast? ≠ some ('!', .bare)

theorem Closed.nil : Closed [] := ⟨rfl, by simp [withScope]⟩

theorem Closed.singleton {c : Char} (hc : c ∉ ['!', '\\', '"']) : Closed [c] := by
  simp only [List.mem_cons, List.not_mem_nil, or_false, not_or] at hc
  exact ⟨by simp [Scope.next, hc], by simp [withScope, hc]⟩

theorem Closed.append {cs rest : List Char} (h : Closed cs) (hr : Closed rest) :
    Closed (cs ++ rest) := by
  refine ⟨by rw [Scope.after_append, h.after, hr.after], ?_⟩
  rw [withScope_append, h.after, List.getLast?_append]
  have hlast := hr.last
  cases hr : (withScope .bare rest).getLast? with
  | none => exact h.last
  | some last => rwa [hr] at hlast

theorem Closed.cons {c : Char} {cs : List Char} (hc : c ∉ ['!', '\\', '"']) (h : Closed cs) :
    Closed (c :: cs) :=
  (singleton hc).append h

theorem Closed.escaped (c : Char) : Closed ['\\', c] :=
  ⟨by simp [Scope.next], by simp [withScope, Scope.next]⟩

theorem Closed.quoted {span : List Char} (hs : '"' ∉ span) : Closed ('"' :: span ++ ['"']) := by
  have opens : Scope.bare.after ('"' :: span) = .quoted := Scope.after_quoted hs
  refine ⟨by rw [Scope.after_append, opens]; rfl, ?_⟩
  rw [withScope_append, opens, List.getLast?_append]
  simp [withScope]

theorem Closed.negated {cs : List Char} (h : Closed cs) (hcs : cs ≠ []) : Closed ('!' :: cs) := by
  refine ⟨h.after, ?_⟩
  obtain ⟨c, cs, rfl⟩ := List.exists_cons_of_ne_nil hcs
  exact h.last

theorem TextOf.closed {source text : List Char} (h : TextOf source text) : Closed source := by
  induction h with
  | nil => exact .nil
  | plain hc _ ih => exact .cons (fun hmem => hc (by simp at hmem ⊢; tauto)) ih
  | escaped _ ih => exact (Closed.escaped _).append ih
  | quoted hs _ ih => simpa using (Closed.quoted hs).append ih

theorem FilterOf.ne_nil {source : List Char} {filter : Filter}
    (h : FilterOf compile source filter) : source ≠ [] := by
  cases h <;> exact List.cons_ne_nil _ _

theorem FilterOf.closed {source : List Char} {filter : Filter}
    (h : FilterOf compile source filter) : Closed source := by
  induction h with
  | equals ht => exact .cons (by decide) ht.closed
  | matching ht _ => exact .cons (by decide) ht.closed
  | negated h ih => exact ih.negated h.ne_nil

theorem FiltersOf.closed {source : List Char} {filters : List Filter}
    (h : FiltersOf compile source filters) : Closed source := by
  induction h with
  | nil => exact .nil
  | cons h _ ih => exact h.closed.append ih

theorem PartOf.closed {source : List Char} {part : Part} (h : PartOf compile source part) :
    Closed source := by
  cases h with
  | mk ht _ hf => exact ht.closed.append hf.closed

theorem QueryOf.closed {source : List Char} {parts : List Part}
    (h : QueryOf compile source parts) : Closed source := by
  induction h with
  | nil => exact .nil
  | last h _ => exact h.closed
  | cons h _ ih => exact h.closed.append (.cons (by decide) ih)

theorem Closed.after_inversions {front : List Char} (h : Closed front) (k : Nat) :
    Scope.bare.after (front ++ List.replicate k '!') = .bare := by
  rw [Scope.after_append, h.after, Scope.after_inversions]

theorem rdropWhile_append_replicate {α : Type} {p : α → Bool} {a : α} (ha : p a) (l : List α)
    (k : Nat) : (l ++ List.replicate k a).rdropWhile p = l.rdropWhile p := by
  induction k with
  | zero => rw [List.replicate_zero, List.append_nil]
  | succ k ih =>
    rw [List.replicate_succ', ← List.append_assoc, List.rdropWhile_concat_pos _ _ _ ha, ih]

theorem Closed.dropInversions_append {front : List Char} (h : Closed front) (k : Nat) :
    dropInversions (front ++ List.replicate k '!') = front := by
  have stays : (withScope .bare front).rdropWhile (· = ('!', .bare)) = withScope .bare front := by
    refine List.rdropWhile_eq_self_iff.mpr fun hne hlast => h.last ?_
    rw [List.getLast?_eq_some_getLast hne, of_decide_eq_true hlast]
  rw [dropInversions, withScope_append, h.after, withScope_inversions,
    rdropWhile_append_replicate (by simp), stays, map_fst_withScope]

end PathQuery.Query
